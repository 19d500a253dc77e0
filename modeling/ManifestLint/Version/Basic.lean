import ManifestLint.Text.Blank
import ManifestLint.Text.Digit

/-!
# Versions

A version has three numbers, a pre-release tag and build metadata.  Versions are read leniently:
blanks around and a leading `v` do not count, missing numbers are zero, and whatever follows the
numbers may be a tag or metadata.

* `parse?` reads a version, `text` writes it.
* `coerced?` finds a release in any text that holds a digit.
-/

namespace ManifestLint

/-- A version. -/
structure Version where
  major : Nat
  minor : Nat
  patch : Nat
  prerelease : String := ""
  build : String := ""
  deriving DecidableEq, Repr

namespace Version

open ManifestLint.Text

/-- The text of a version. -/
def text (v : Version) : String :=
  s!"{v.major}.{v.minor}.{v.patch}"
    ++ (if v.prerelease = "" then "" else "-" ++ v.prerelease)
    ++ (if v.build = "" then "" else "+" ++ v.build)

/-- The number at the start of a text, and what follows it. -/
def readNumber? (text : List Char) : Option (Nat × List Char) :=
  match text.span Char.isDigit with
  | ([], _) => none
  | (digits, rest) => some (Nat.ofDigitChars 10 digits 0, rest)

/-- At most `count` numbers with points between them, and what follows them.  A point behind a
number belongs to the numbers as long as another one may follow. -/
def readNumbers : (count : Nat) → List Char → List Nat × List Char
  | 0, text => ([], text)
  | count + 1, text =>
    match readNumber? text with
    | none => ([], text)
    | some (number, '.' :: rest) =>
      if count = 0 then ([number], '.' :: rest)
      else
        let (numbers, last) := readNumbers count rest
        (number :: numbers, last)
    | some (number, rest) => ([number], rest)

/-- A text without the `v` it starts with, if any. -/
def dropV : List Char → List Char
  | 'v' :: rest => rest
  | 'V' :: rest => rest
  | text => text

/-- The pre-release tag and the metadata in what follows the numbers. -/
def readTags : List Char → List Char × List Char
  | '-' :: rest => (rest.takeWhile (· ≠ '+'), (rest.dropWhile (· ≠ '+')).drop 1)
  | '+' :: rest => ([], rest)
  | _ => ([], [])

/-- The version that a text denotes, if it starts with a number. -/
def parseChars? (text : List Char) : Option Version :=
  match readNumbers 3 (dropV (trim isBlank text)) with
  | ([], _) => none
  | (major :: more, rest) =>
    let (prerelease, build) := readTags rest
    some {
      major
      minor := more[0]?.getD 0
      patch := more[1]?.getD 0
      prerelease := .ofList prerelease
      build := .ofList build }

/-- The version that a text denotes, if it starts with a number. -/
def parse? (text : String) : Option Version := parseChars? text.toList

/-- At most `count` numbers at the start of a text, each but the first behind a point.  A point counts
only if a digit follows it, of whatever script. -/
def readRelease : (count : Nat) → List Char → List Nat
  | 0, _ => []
  | count + 1, text =>
    match readNumber? text with
    | none => []
    | some (number, '.' :: c :: rest) =>
      if isDigit c then number :: readRelease count (c :: rest) else [number]
    | some (number, _) => [number]

/-- A release found in a text: the numbers that start at its first digit. -/
def coercedChars? (text : List Char) : Option (List Nat) :=
  match readRelease 3 (text.dropWhile fun c => !c.isDigit) with
  | [] => none
  | major :: more => some [major, more[0]?.getD 0, more[1]?.getD 0]

/-- The text of a release found in a text, if it holds a digit. -/
def coerced? (text : String) : Option String :=
  (coercedChars? text.toList).map fun numbers => ".".intercalate (numbers.map toString)

/-- The three numbers of a version. -/
def triple (v : Version) : Nat × Nat × Nat := (v.major, v.minor, v.patch)

end Version

end ManifestLint
