import ManifestLint.Sorting.Runs
import ManifestLint.Text.Digit
import ManifestLint.Text.Quoted
import ManifestLint.Version.Basic

/-!
# Precedence of versions

Versions are ordered by their numbers, then by their pre-release tags; a release stands above its
pre-releases, and build metadata never counts.  Tags are compared identifier by identifier: numbers
by value, other identifiers by code points, a number below any other identifier.  Texts that denote
no version are equal to each other and below all that do.

An identifier that looks like a number, because all its characters are digits, is none if one of
them has no decimal value.  Comparing two such identifiers is refused with `NotANumber`.

* `compareTexts` compares two texts, `sortTexts` sorts a list of them.
-/

namespace ManifestLint.Version

/-- The refusal to compare: an identifier of digits that denotes no number. -/
structure NotANumber where
  identifier : String
  deriving DecidableEq, Repr

/-- The wording of the refusal.  The identifier is quoted, and cut after 200 characters. -/
def NotANumber.message (error : NotANumber) : String :=
  "invalid literal for int() with base 10: "
    ++ .ofList ((Text.quotedChars error.identifier.toList).take 200)

/-- Whether an identifier looks like a number. -/
def isNumeric (identifier : List Char) : Bool :=
  !identifier.isEmpty && identifier.all Text.isDigit

/-- The number that an identifier of digits denotes. -/
def identifierNumber (identifier : List Char) : Except NotANumber Nat :=
  match Text.decimalNumber? identifier with
  | some number => .ok number
  | none => .error ⟨.ofList identifier⟩

/-- The order of two different identifiers.  Two spellings of one number are each above the
other. -/
def compareIdentifiers (a b : List Char) : Except NotANumber Ordering := do
  match isNumeric a, isNumeric b with
  | true, true =>
    let x ← identifierNumber a
    let y ← identifierNumber b
    return if x < y then .lt else .gt
  | true, false => return .lt
  | false, true => return .gt
  | false, false => return if a < b then .lt else .gt

/-- The order of two lists of identifiers: that of the first identifiers that differ, else the
shorter list first. -/
def compareTags : List (List Char) → List (List Char) → Except NotANumber Ordering
  | [], [] => .ok .eq
  | [], _ :: _ => .ok .lt
  | _ :: _, [] => .ok .gt
  | x :: xs, y :: ys => if x = y then compareTags xs ys else compareIdentifiers x y

/-- The order of two pre-release tags; no tag stands above any. -/
def comparePrerelease (a b : List Char) : Except NotANumber Ordering :=
  if a = b then .ok .eq
  else if a.isEmpty then .ok .gt
  else if b.isEmpty then .ok .lt
  else compareTags (a.splitOn '.') (b.splitOn '.')

/-- The order of two releases. -/
def compareTriple (a b : Version) : Ordering :=
  (compare a.major b.major).then ((compare a.minor b.minor).then (compare a.patch b.patch))

/-- The order of two versions. -/
def compare (a b : Version) : Except NotANumber Ordering :=
  match compareTriple a b with
  | .eq => comparePrerelease a.prerelease.toList b.prerelease.toList
  | order => .ok order

/-- The order of two versions, either of which may be missing. -/
def compareOptions : Option Version → Option Version → Except NotANumber Ordering
  | none, none => .ok .eq
  | none, some _ => .ok .lt
  | some _, none => .ok .gt
  | some a, some b => compare a b

/-- The order of the versions that two texts denote. -/
def compareTexts (a b : String) : Except NotANumber Ordering :=
  compareOptions (parse? a) (parse? b)

/-- Whether the first of two texts denotes the lower version. -/
def textBefore (a b : String) : Except NotANumber Bool :=
  (compareTexts a b).map (· == .lt)

/-- Texts sorted by the versions they denote, equals in their order. -/
def sortTexts (newestFirst : Bool) (texts : List String) : Except NotANumber (List String) :=
  if newestFirst then Sorting.sortDownBy textBefore texts
  else Sorting.sortBy textBefore texts

end ManifestLint.Version
