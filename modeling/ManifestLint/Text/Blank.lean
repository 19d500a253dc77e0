import ManifestLint.Text.Ranges

/-!
# Blank characters

The blank characters are those that separate words in any script: the bidirectional classes WS, B
and S together with the space separators, which adds the four information separators to the usual
white space.  `strip` removes them from both ends of a text.
-/

namespace ManifestLint.Text

/-- The blank characters of Unicode 14. -/
def blankRanges : List (Nat × Nat) := [
  (0x9, 0xD), (0x1C, 0x20), (0x85, 0x85), (0xA0, 0xA0), (0x1680, 0x1680), (0x2000, 0x200A),
  (0x2028, 0x2029), (0x202F, 0x202F), (0x205F, 0x205F), (0x3000, 0x3000)]

/-- Whether a character is blank. -/
def isBlank (c : Char) : Bool := inRanges blankRanges c

/-- A text without the leading characters that have a property. -/
def trimStart (p : Char → Bool) (text : List Char) : List Char := text.dropWhile p

/-- A text without the trailing characters that have a property. -/
def trimEnd (p : Char → Bool) (text : List Char) : List Char :=
  (text.reverse.dropWhile p).reverse

/-- A text without the characters at its two ends that have a property. -/
def trim (p : Char → Bool) (text : List Char) : List Char := trimEnd p (trimStart p text)

/-- A text without the blank characters at its two ends. -/
def strip (text : String) : String := .ofList (trim isBlank text.toList)

end ManifestLint.Text
