import ManifestLint.Decimal.Shortest
import ManifestLint.Json.Basic
import ManifestLint.Text.Quoted

/-!
# Writing JSON documents

The compact form of a value: no blanks between tokens, members in their order, and every character
of a string as it is unless JSON demands an escape.  `encodeAscii` also escapes what is not ASCII,
as pairs of surrogates where needed.
-/

namespace ManifestLint.Json

/-- A character inside a string. -/
def encodeChar (c : Char) : List Char :=
  if c = '"' ∨ c = '\\' then ['\\', c]
  else if c.toNat < 0x20 then '\\' :: 'u' :: Text.hexadecimal 4 c.toNat
  else [c]

/-- A character inside a string, in ASCII. -/
def encodeCharAscii (c : Char) : List Char :=
  if c.toNat < 0x7F then encodeChar c
  else if c.toNat < 0x10000 then '\\' :: 'u' :: Text.hexadecimal 4 c.toNat
  else
    let low := c.toNat - 0x10000
    '\\' :: 'u' :: Text.hexadecimal 4 (0xD800 + low / 0x400)
      ++ '\\' :: 'u' :: Text.hexadecimal 4 (0xDC00 + low % 0x400)

/-- A string in double quotes, each character written by `char`. -/
def encodeText (char : Char → List Char) (text : String) : List Char :=
  '"' :: text.toList.flatMap char ++ ['"']

/-- A double as a number, the undefined value and the infinities by name. -/
def encodeFloat (x : Float) : List Char :=
  if x.isNaN then "NaN".toList
  else if x.isInf then (if x < 0 then "-Infinity" else "Infinity").toList
  else (Decimal.floatText x).toList

mutual

/-- The compact form of a value, characters of strings written by `char`. -/
def encodeWith (char : Char → List Char) : Json → List Char
  | null => "null".toList
  | bool value => (if value then "true" else "false").toList
  | int value => (toString value).toList
  | float value => encodeFloat value
  | string value => encodeText char value
  | array items => '[' :: encodeItems char items ++ [']']
  | object members => '{' :: encodeMembers char members ++ ['}']

/-- The items of an array, separated by commas. -/
def encodeItems (char : Char → List Char) : List Json → List Char
  | [] => []
  | [item] => encodeWith char item
  | item :: rest => encodeWith char item ++ ',' :: encodeItems char rest

/-- The members of an object, separated by commas. -/
def encodeMembers (char : Char → List Char) : List (String × Json) → List Char
  | [] => []
  | [(key, value)] => encodeText char key ++ ':' :: encodeWith char value
  | (key, value) :: rest =>
    encodeText char key ++ ':' :: encodeWith char value ++ ',' :: encodeMembers char rest

end

/-- The compact form of a value. -/
def encode (json : Json) : String := .ofList (encodeWith encodeChar json)

/-- The compact form of a value, in ASCII. -/
def encodeAscii (json : Json) : String := .ofList (encodeWith encodeCharAscii json)

end ManifestLint.Json
