import ManifestLint.Text.PrintTable

/-!
# Quoted text

Messages show a piece of the user's text between quotes, on one line and with every character
visible.  Single quotes are used unless the text holds a single quote and no double quote; the
quote in use and the backslash are written after a backslash, tab and line ends by a letter, and
any other unprintable character by its code in two, four or eight hexadecimal digits.
-/

namespace ManifestLint.Text

/-- A number in lower-case hexadecimal digits, of the given least width. -/
def hexadecimal (width n : Nat) : List Char :=
  let digits := Nat.toDigits 16 n
  List.replicate (width - digits.length) '0' ++ digits

/-- A character by its code, as it is written behind a backslash. -/
def codeEscape (c : Char) : List Char :=
  if c.toNat < 0x100 then 'x' :: hexadecimal 2 c.toNat
  else if c.toNat < 0x10000 then 'u' :: hexadecimal 4 c.toNat
  else 'U' :: hexadecimal 8 c.toNat

/-- The quote that is written around a text. -/
def quoteMark (text : List Char) : Char :=
  if '\'' ∈ text ∧ '"' ∉ text then '"' else '\''

/-- A character as it is written between quotes. -/
def quotedChar (mark c : Char) : List Char :=
  if c = mark ∨ c = '\\' then ['\\', c]
  else if c = '\t' then ['\\', 't']
  else if c = '\n' then ['\\', 'n']
  else if c = '\r' then ['\\', 'r']
  else if isPrintable c then [c]
  else '\\' :: codeEscape c

/-- A text between quotes. -/
def quotedChars (text : List Char) : List Char :=
  let mark := quoteMark text
  mark :: text.flatMap (quotedChar mark) ++ [mark]

/-- A text between quotes. -/
def quoted (text : String) : String := .ofList (quotedChars text.toList)

end ManifestLint.Text
