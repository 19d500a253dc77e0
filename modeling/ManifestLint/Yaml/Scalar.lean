import ManifestLint.Calendar.Moment
import ManifestLint.Decimal.Shortest
import ManifestLint.Json.Display
import ManifestLint.Yaml.Fault

/-!
# Scalars of YAML documents

The values without parts: null, booleans, numbers, texts, dates, moments and bytes.  They serve as
the keys of tables; numbers that are equal are one key, and so are the numbers 0 and 1 and the
booleans.

* `Scalar.isSame` tells whether two scalars are one key, `Scalar.least?` finds the least of several.
* `Scalar.shown` writes a scalar for messages, `Scalar.display` as a text; `Scalar.isWritable` tells
  whether that is possible.
-/

namespace ManifestLint.Yaml

open ManifestLint.Decimal (Ratio)

/-- A scalar. -/
inductive Scalar where
  | null
  | bool (value : Bool)
  | int (value : Int)
  | float (value : Float)
  | text (value : String)
  | date (value : Date)
  | moment (value : Moment)
  | bytes (value : List Nat)

namespace Scalar

/-- A byte as it is written between quotes. -/
def shownByte (mark : Char) (byte : Nat) : List Char :=
  if 0x80 ≤ byte then '\\' :: 'x' :: Text.hexadecimal 2 byte
  else Text.quotedChar mark (.ofNat byte)

/-- Bytes as messages show them. -/
def shownBytes (bytes : List Nat) : String :=
  let mark := Text.quoteMark (bytes.map Char.ofNat)
  .ofList ('b' :: mark :: bytes.flatMap (shownByte mark) ++ [mark])

/-- A scalar as it is shown inside something else. -/
def shown : Scalar → String
  | null => Json.shown .null
  | bool value => Json.shown (.bool value)
  | int value => Json.shown (.int value)
  | float value => Json.shown (.float value)
  | text value => Json.shown (.string value)
  | date value => value.shown
  | moment value => value.shown
  | bytes value => shownBytes value

/-- A scalar as text: a text stands for itself, a date and a moment are written in figures. -/
def display : Scalar → String
  | text value => value
  | date value => value.text
  | moment value => value.text
  | other => other.shown

/-- Whether a scalar can be written: a whole number may have too many digits for that. -/
def isWritable : Scalar → Bool
  | int value => value.natAbs < Nat.pow 10 mostDigits
  | _ => true

/-- The name of dates in messages. -/
def dateName : String := "datetime.date"

/-- The name of moments in messages. -/
def momentName : String := "datetime.datetime"

/-- The name of a scalar's kind in messages. -/
def kindName : Scalar → String
  | null => Json.Kind.null.name
  | bool _ => Json.Kind.bool.name
  | int _ => Json.Kind.int.name
  | float _ => Json.Kind.float.name
  | text _ => Json.Kind.string.name
  | date _ => dateName
  | moment _ => momentName
  | bytes _ => "bytes"

/-- The ratio that a finite number or a boolean is. -/
def ratio? : Scalar → Option Ratio
  | bool value => some (.ofInt (if value then 1 else 0))
  | int value => some (.ofInt value)
  | float value => Ratio.ofFloat? value
  | _ => none

/-- Whether two scalars are one key. -/
def isSame : Scalar → Scalar → Bool
  | null, null => true
  | text a, text b => a = b
  | date a, date b => a = b
  | moment a, moment b => a.isSame b
  | bytes a, bytes b => a = b
  | a, b =>
    match a.ratio?, b.ratio?, a, b with
    | some x, some y, _, _ => x.isSame y
    | none, none, float x, float y => x == y || (x.isNaN && y.isNaN)
    | _, _, _, _ => false

/-- The kinds of scalars that can be put in order. -/
inductive Order where
  | null
  | number
  | text
  | date
  | moment (hasZone : Bool)
  | bytes
  deriving DecidableEq, Repr

/-- What a scalar can be put in order with. -/
def order : Scalar → Order
  | null => .null
  | bool _ | int _ | float _ => .number
  | text _ => .text
  | date _ => .date
  | moment value => .moment value.zone.isSome
  | bytes _ => .bytes

/-- Whether a number is less than another one; the infinities are less and greater than all ratios,
and the undefined value is not compared with anything. -/
def isLessNumber (a b : Scalar) : Bool :=
  match a.ratio?, b.ratio?, a, b with
  | some x, some y, _, _ => x.isLess y
  | none, some _, float x, _ => x < 0
  | some _, none, _, float y => 0 < y
  | none, none, float x, float y => x < y
  | _, _, _, _ => false

/-- The least of several scalars that can be put in order.  Scalars of one kind other than numbers
are told apart by nothing that is asked of the least one, so any of them will do. -/
def least? : List Scalar → Option Scalar
  | [] => none
  | first :: rest =>
    some (rest.foldl (fun least other => if other.isLessNumber least then other else least) first)

end Scalar

end ManifestLint.Yaml
