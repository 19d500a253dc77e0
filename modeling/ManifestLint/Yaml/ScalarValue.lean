import ManifestLint.Decimal.Reading
import ManifestLint.Text.Ascii
import ManifestLint.Text.Base64
import ManifestLint.Text.Lower
import ManifestLint.Yaml.Fault
import ManifestLint.Yaml.Scalar
import ManifestLint.Yaml.Spelling

/-!
# Values of scalars

The tag of a scalar says how its characters are read.  A tag may be written before a scalar whose
spelling does not suit it, so reading can fail; a few spellings that suit a number have no digits.

* `scalarValue` reads a scalar with a tag.
-/

namespace ManifestLint.Yaml

open ManifestLint.Decimal (isNumberBlank nearest readFloat? splitSign toAsciiDigit)

/-- A text without its underscores. -/
def ungrouped (text : List Char) : List Char := text.filter (· ≠ '_')

/-- The number that digits in a base denote. -/
def digitsNumber? (base : Nat) (digits : List Char) : Option Nat :=
  digits.foldlM (fun number c =>
    match Text.hexValue? c with
    | some value => if value < base then some (base * number + value) else none
    | none => none) 0

/-- Digits without the zero and the letter that may announce their base. -/
def unannounced (base : Nat) (digits : List Char) : List Char :=
  match digits with
  | '0' :: c :: rest =>
    if (base, c.toLower) ∈ [(2, 'b'), (8, 'o'), (16, 'x')] then rest else digits
  | _ => digits

/-- The whole number that a text denotes in a base.  A row of too many decimal digits is not read,
whatever follows it. -/
def wholeIn (base : Nat) (text : List Char) : Except Fault Int :=
  let (negative, digits) := splitSign ((Text.trim isNumberBlank text).map toAsciiDigit)
  let digits := unannounced base digits
  let first := (digits.takeWhile Char.isDigit).length
  if base = 10 && mostDigits < first then .error (.tooManyDigits first)
  else
    match digitsNumber? base digits with
    | some number =>
      if digits.isEmpty then .error (.notWhole base (.ofList text))
      else .ok (if negative then -(number : Int) else number)
    | none => .error (.notWhole base (.ofList text))

/-- The whole number that a scalar denotes. -/
def wholeValue (text : List Char) : Except Fault Int := do
  let (negative, digits) := splitSign (ungrouped text)
  let magnitude ←
    match digits with
    | [] => throw .emptyNumber
    | ['0'] => pure 0
    | '0' :: 'b' :: rest => wholeIn 2 rest
    | '0' :: 'x' :: rest => wholeIn 16 rest
    | '0' :: _ => wholeIn 8 digits
    | _ =>
      let places ← (digits.splitOn ':').mapM (wholeIn 10)
      pure (places.foldl (fun value place => 60 * value + place) 0)
  return if negative then -magnitude else magnitude

/-- The double that a decimal text denotes. -/
def decimalDouble (text : List Char) : Except Fault Float :=
  match readFloat? (.ofList text) with
  | some value => .ok value
  | none => .error (.notDouble (.ofList text))

/-- The sum of sexagesimal places, given from the last one on, whose weights start as given. -/
def placesSum (sum : Float) (weight : Nat) : List Float → Except Fault Float
  | [] => .ok sum
  | place :: rest =>
    let factor := nearest weight 0
    if factor.isInf then .error .tooLarge
    else placesSum (sum + place * factor) (weight * 60) rest

/-- The double that a scalar denotes. -/
def doubleValue (text : List Char) : Except Fault Float := do
  let lower := Text.lowerChars (ungrouped text)
  if lower.isEmpty then throw .emptyNumber
  let (negative, digits) := splitSign lower
  if digits = ".nan".toList then return 0.0 / 0.0
  let magnitude ←
    if digits = ".inf".toList then pure (1.0 / 0.0)
    else if ':' ∈ digits then do placesSum 0.0 1 (← (digits.splitOn ':').mapM decimalDouble).reverse
    else decimalDouble digits
  return if negative then -magnitude else magnitude

/-- The boolean that a scalar denotes, in any letter case. -/
def booleanValue (text : List Char) : Except Fault Bool :=
  let lower := String.ofList (Text.lowerChars text)
  if lower ∈ ["yes", "true", "on"] then .ok true
  else if lower ∈ ["no", "false", "off"] then .ok false
  else .error (.notBoolean lower)

/-- The bytes that a scalar denotes. -/
def bytesValue (text : List Char) : Except Fault (List Nat) :=
  if !text.all Text.isAscii then .error .malformed
  else
    match Text.decodeBase64 text with
    | .ok bytes => .ok bytes
    | .error _ => .error .malformed

/-- The number that ASCII digits denote. -/
def figure (digits : List Char) : Nat := Nat.ofDigitChars 10 digits 0

/-- How many minutes a zone is ahead. -/
def zoneMinutes : Option (Bool × List Char × List Char) → Int
  | none => 0
  | some (isBehind, hours, minutes) =>
    let ahead := 60 * figure hours + figure minutes
    if isBehind then -(ahead : Int) else ahead

/-- The date or moment that a scalar denotes. -/
def momentValue (text : List Char) : Except Fault Scalar := do
  let core := if text.getLast? = some '\n' then text.dropLast else text
  match writtenMoment? core with
  | none => throw .notMoment
  | some written =>
    let day := Date.make (figure written.year) (figure written.month) (figure written.day)
    let value :=
      match written.time with
      | none => day.map Scalar.date
      | some (hour, minute, second) =>
        let places := written.fraction.take 6
        let microsecond := figure (places ++ List.replicate (6 - places.length) '0')
        (Moment.make day (figure hour) (figure minute) (figure second) microsecond
          (written.zone.map zoneMinutes)).map Scalar.moment
    value.mapError Fault.calendar

/-- The value of a scalar with a tag. -/
def scalarValue (tag : Tag) (text : List Char) : Except Fault Scalar :=
  match tag with
  | .null => .ok .null
  | .boolean => (booleanValue text).map Scalar.bool
  | .whole => (wholeValue text).map Scalar.int
  | .double => (doubleValue text).map Scalar.float
  | .text => .ok (.text (.ofList text))
  | .bytes => (bytesValue text).map Scalar.bytes
  | .moment => momentValue text
  | _ => .error .malformed

end ManifestLint.Yaml
