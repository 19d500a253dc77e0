import ManifestLint.Text.Digit
import ManifestLint.Toml.Token

/-!
# Shapes of values

A bare value is a boolean, a number, a date or a time, told apart by its shape alone.  Each shape is
a predicate on the whole text, built from readers that take a part off the front and give back the
rest.

* `shapes` lists the shapes, and `classify` gives the first that fits.
-/

namespace ManifestLint.Toml

open ManifestLint.Text (isDecimal)

/-- What follows the first digit of a group: digits, each after an underscore or none. -/
def digitTail (digit : Char → Bool) : List Char → Bool
  | [] => true
  | '_' :: c :: rest => digit c && digitTail digit rest
  | c :: rest => digit c && digitTail digit rest

/-- A group of digits: a first digit, then digits, each after an underscore or none. -/
def digitGroup (digit : Char → Bool) : List Char → Bool
  | [] => false
  | c :: rest => digit c && digitTail digit rest

/-- A text without the sign it starts with, if any. -/
def dropSign : List Char → List Char
  | '+' :: rest => rest
  | '-' :: rest => rest
  | text => text

/-- A whole number without sign: a zero alone, or a group that starts with another ASCII digit. -/
def unsignedInt : List Char → Bool
  | ['0'] => true
  | c :: rest => '1' ≤ c && c ≤ '9' && digitTail isDecimal rest
  | [] => false

/-- A decimal integer. -/
def isDecimalInt (text : List Char) : Bool := unsignedInt (dropSign text)

/-- An integer in another base: its mark and a group of digits of the base. -/
def isBased (mark : Char) (digit : Char → Bool) : List Char → Bool
  | '0' :: c :: rest => c = mark && digitGroup digit rest
  | _ => false

/-- A hexadecimal digit in ASCII. -/
def isHexDigit (c : Char) : Bool :=
  c.isDigit || ('A' ≤ c && c ≤ 'F') || ('a' ≤ c && c ≤ 'f')

/-- A hexadecimal integer. -/
def isHexInt : List Char → Bool := isBased 'x' isHexDigit

/-- An octal integer. -/
def isOctInt : List Char → Bool := isBased 'o' fun c => '0' ≤ c && c ≤ '7'

/-- A binary integer. -/
def isBinInt : List Char → Bool := isBased 'b' fun c => c = '0' || c = '1'

/-- A character that can stand in a group of decimal digits. -/
def isGroupChar (c : Char) : Bool := isDecimal c || c = '_'

/-- An exponent: its letter, a sign or none, and a group of digits. -/
def isExponent : List Char → Bool
  | c :: rest => (c = 'e' || c = 'E') && digitGroup isDecimal (dropSign rest)
  | [] => false

/-- What follows the whole part of a float: places and perhaps an exponent, or an exponent alone. -/
def isFloatTail : List Char → Bool
  | '.' :: rest =>
    let places := rest.takeWhile isGroupChar
    let power := rest.dropWhile isGroupChar
    digitGroup isDecimal places && (power.isEmpty || isExponent power)
  | rest => isExponent rest

/-- A float. -/
def isFloat (text : List Char) : Bool :=
  let unsigned := dropSign text
  unsignedInt (unsigned.takeWhile isGroupChar) && isFloatTail (unsigned.dropWhile isGroupChar)

/-- A float that is given by name. -/
def isSpecialFloat (text : List Char) : Bool :=
  let unsigned := dropSign text
  unsigned = ['i', 'n', 'f'] || unsigned = ['n', 'a', 'n']

/-- Takes a date off the front of a text. -/
def date? : List Char → Option (List Char)
  | y₁ :: y₂ :: y₃ :: y₄ :: '-' :: m₁ :: m₂ :: '-' :: d₁ :: d₂ :: rest =>
    if [y₁, y₂, y₃, y₄, m₁, m₂, d₁, d₂].all isDecimal then some rest else none
  | _ => none

/-- Takes fractions of a second, if any, off the front of a text. -/
def dropFraction : List Char → List Char
  | '.' :: d :: rest => if isDecimal d then rest.dropWhile isDecimal else '.' :: d :: rest
  | text => text

/-- Takes a time off the front of a text. -/
def time? : List Char → Option (List Char)
  | h₁ :: h₂ :: ':' :: m₁ :: m₂ :: ':' :: s₁ :: s₂ :: rest =>
    if [h₁, h₂, m₁, m₂, s₁, s₂].all isDecimal then some (dropFraction rest) else none
  | _ => none

/-- Takes a date, a separator and a time off the front of a text. -/
def dateTime? (text : List Char) : Option (List Char) :=
  match date? text with
  | some (c :: rest) => if c = 'T' ∨ c = 't' ∨ c = ' ' then time? rest else none
  | _ => none

/-- A distance from universal time: its letter, or hours and minutes with a sign. -/
def isOffset : List Char → Bool
  | [c] => c = 'Z' || c = 'z'
  | [c, h₁, h₂, ':', m₁, m₂] => (c = '+' || c = '-') && [h₁, h₂, m₁, m₂].all isDecimal
  | _ => false

/-- A local date. -/
def isLocalDate (text : List Char) : Bool := date? text = some []

/-- A local time. -/
def isLocalTime (text : List Char) : Bool := time? text = some []

/-- A local date with a time. -/
def isLocalDateTime (text : List Char) : Bool := dateTime? text = some []

/-- A date with a time and its distance from universal time. -/
def isOffsetDateTime (text : List Char) : Bool :=
  match dateTime? text with
  | some rest => isOffset rest
  | none => false

/-- The shapes of bare values and the kinds of token they make. -/
def shapes : List (TokenKind × (List Char → Bool)) := [
  (.true, (· = ['t', 'r', 'u', 'e'])), (.false, (· = ['f', 'a', 'l', 's', 'e'])),
  (.hexInt, isHexInt), (.octInt, isOctInt), (.binInt, isBinInt), (.decimalInt, isDecimalInt),
  (.float, isFloat), (.specialFloat, isSpecialFloat), (.offsetDateTime, isOffsetDateTime),
  (.localDateTime, isLocalDateTime), (.localDate, isLocalDate), (.localTime, isLocalTime)]

/-- The kind of a bare value. -/
def classify (text : List Char) : Option TokenKind :=
  (shapes.find? fun shape => shape.2 text).map Prod.fst

end ManifestLint.Toml
