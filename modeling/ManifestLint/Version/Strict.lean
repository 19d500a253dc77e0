import ManifestLint.Text.Digit

/-!
# Full form of a version

The full form of a version is three numbers with points between them, then perhaps a hyphen with a
pre-release tag, then perhaps a plus sign with build metadata.  A number is a zero alone or starts
with another ASCII digit, and goes on with decimal digits of any script.  Tag and metadata are
identifiers with points between them.
-/

namespace ManifestLint.Version

open ManifestLint.Text (isDecimal)

/-- A letter, digit or hyphen of an identifier. -/
def isIdentifierChar (c : Char) : Bool := c.isAlphanum || c = '-'

/-- Takes a number off a text. -/
def strictNumber? : List Char → Option (List Char)
  | [] => none
  | c :: rest =>
    if c = '0' then some rest
    else if '1' ≤ c ∧ c ≤ '9' then some (rest.dropWhile isDecimal)
    else none

/-- Takes a point off a text. -/
def dropPoint? : List Char → Option (List Char)
  | '.' :: rest => some rest
  | _ => none

/-- Takes identifiers with points between them off a text. -/
def strictIdentifiers? (text : List Char) : Option (List Char) :=
  let inside := fun c => isIdentifierChar c || c = '.'
  if ((text.takeWhile inside).splitOn '.').all (!·.isEmpty) then some (text.dropWhile inside)
  else none

/-- Takes the three numbers off a text. -/
def strictNumbers? (text : List Char) : Option (List Char) := do
  let text ← dropPoint? (← strictNumber? text)
  let text ← dropPoint? (← strictNumber? text)
  strictNumber? text

/-- Whether a text is a tag, metadata, both or nothing. -/
def isStrictTail : List Char → Bool
  | [] => true
  | '-' :: rest =>
    match strictIdentifiers? rest with
    | some [] => true
    | some ('+' :: build) => strictIdentifiers? build = some []
    | _ => false
  | '+' :: build => strictIdentifiers? build = some []
  | _ => false

/-- Whether a text is the full form of a version. -/
def isStrictChars (text : List Char) : Bool :=
  match strictNumbers? text with
  | some rest => isStrictTail rest
  | none => false

/-- Whether a text is the full form of a version. -/
def isStrict (text : String) : Bool := isStrictChars text.toList

end ManifestLint.Version
