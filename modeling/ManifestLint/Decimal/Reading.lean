import ManifestLint.Text.Blank
import ManifestLint.Text.Digit

/-!
# Reading numbers

Numbers that a user writes, in a setting or on the command line, may stand between blanks, may
carry a sign, may have decimal digits of any script and may have single underscores between digits.
`readWhole?` reads a whole number, `readFloat?` the nearest double, with the names of infinity and
of the undefined value in any letter case.
-/

namespace ManifestLint.Decimal

open ManifestLint.Text

/-- The blanks that may surround a number: all but the four information separators. -/
def isNumberBlank (c : Char) : Bool := isBlank c && !(0x1C ≤ c.toNat && c.toNat ≤ 0x1F)

/-- A character of a number with its decimal digits in ASCII. -/
def toAsciiDigit (c : Char) : Char :=
  match decimalValue? c with
  | some value => Nat.digitChar value
  | none => c

/-- The sign that a number starts with and what follows it. -/
def splitSign : List Char → Bool × List Char
  | '-' :: rest => (true, rest)
  | '+' :: rest => (false, rest)
  | text => (false, text)

/-- A text without its underscores, each of which has to stand between two digits. -/
def dropUnderscores (afterDigit : Bool) : List Char → Option (List Char)
  | [] => some []
  | '_' :: d :: rest =>
    if afterDigit && d.isDigit then (dropUnderscores true rest).map (d :: ·) else none
  | '_' :: [] => none
  | c :: rest => (dropUnderscores c.isDigit rest).map (c :: ·)

/-- The digits at the start of a text and what follows them. -/
def spanDigits (text : List Char) : List Char × List Char := text.span Char.isDigit

/-- A written number without its blanks, with ASCII digits and without underscores. -/
def plainNumber? (text : String) : Option (List Char) :=
  dropUnderscores false ((trim isNumberBlank text.toList).map toAsciiDigit)

/-- The whole number that a text denotes. -/
def readWhole? (text : String) : Option Int := do
  let (negative, digits) := splitSign (← plainNumber? text)
  if digits.isEmpty || !digits.all Char.isDigit then none
  else
    let magnitude : Int := Nat.ofDigitChars 10 digits 0
    some (if negative then -magnitude else magnitude)

/-- The double nearest to `digits · 10^exponent`.  Magnitudes that no double reaches are settled
before the arithmetic. -/
def nearest (digits : Nat) (exponent : Int) : Float :=
  let point := ((Nat.toDigits 10 digits).length : Int) + exponent
  if digits = 0 then 0.0
  else if 310 < point then 1.0 / 0.0
  else if point < -330 then 0.0
  else Float.ofScientific digits (exponent < 0) exponent.natAbs

/-- The exponent part of a number: nothing, or the letter and a whole number. -/
def readExponent? : List Char → Option Int
  | [] => some 0
  | c :: rest =>
    if c = 'e' ∨ c = 'E' then
      let (negative, digits) := splitSign rest
      if digits.isEmpty || !digits.all Char.isDigit then none
      else
        let magnitude : Int := Nat.ofDigitChars 10 digits 0
        some (if negative then -magnitude else magnitude)
    else none

/-- The double nearest to an unsigned decimal: digits, a point with digits, an exponent; digits
are needed on one side of the point. -/
def readDecimal? (text : List Char) : Option Float := do
  let (whole, rest) := spanDigits text
  let (places, rest) :=
    match rest with
    | '.' :: rest => spanDigits rest
    | rest => ([], rest)
  if whole.isEmpty && places.isEmpty then none
  else
    let exponent ← readExponent? rest
    some (nearest (Nat.ofDigitChars 10 (whole ++ places) 0) (exponent - places.length))

/-- The double that a text denotes. -/
def readFloat? (text : String) : Option Float := do
  let (negative, rest) := splitSign (← plainNumber? text)
  let magnitude ←
    match String.ofList (rest.map Char.toLower) with
    | "inf" | "infinity" => some (1.0 / 0.0)
    | "nan" => some (0.0 / 0.0)
    | _ => readDecimal? rest
  some (if negative then -magnitude else magnitude)

end ManifestLint.Decimal
