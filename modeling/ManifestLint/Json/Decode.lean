import ManifestLint.Decimal.Reading
import ManifestLint.Json.Basic
import ManifestLint.Text.Wide

/-!
# Reading JSON documents

The reader accepts JSON with three further numbers, `NaN`, `Infinity` and `-Infinity`.  Control
characters may not stand in strings, only the four ASCII blanks separate tokens, and of two members
with one key the later value counts.  A refusal names its problem and the offset at which it was
found; `DecodeError.message` adds line and column.

* `decode` reads a whole document.
* `value`, `items`, `memberList` read a value and the inside of an array or object, at an offset
  that they carry along.  Each call takes a step off a supply that the document's length bounds.
-/

namespace ManifestLint.Json

open ManifestLint.Text (codePoint hexValue?)

/-- Why a text is no JSON document. -/
inductive Problem where
  | expectingValue
  | expectingComma
  | expectingColon
  | expectingKey
  | extraData
  | unterminatedString
  | controlCharacter
  | badEscape
  | badUnicodeEscape
  | byteOrderMark
  deriving DecidableEq, Repr

/-- The wording of a problem. -/
def Problem.message : Problem → String
  | expectingValue => "Expecting value"
  | expectingComma => "Expecting ',' delimiter"
  | expectingColon => "Expecting ':' delimiter"
  | expectingKey => "Expecting property name enclosed in double quotes"
  | extraData => "Extra data"
  | unterminatedString => "Unterminated string starting at"
  | controlCharacter => "Invalid control character at"
  | badEscape => "Invalid \\escape"
  | badUnicodeEscape => "Invalid \\uXXXX escape"
  | byteOrderMark => "Unexpected UTF-8 BOM (decode using utf-8-sig)"

/-- A refused document: the problem and the offset of the character at which it was found. -/
structure DecodeError where
  problem : Problem
  offset : Nat
  deriving DecidableEq, Repr

/-- What is left of a document, and the offset at which it starts. -/
structure Cursor where
  offset : Nat
  rest : List Char

/-- The cursor some characters further on. -/
def Cursor.skip (cursor : Cursor) (count : Nat) : Cursor :=
  ⟨cursor.offset + count, cursor.rest.drop count⟩

/-- Whether a character separates tokens. -/
def isSpace (c : Char) : Bool := c = ' ' || c = '\t' || c = '\n' || c = '\r'

/-- The cursor at the next character that is no blank. -/
def Cursor.skipSpace (cursor : Cursor) : Cursor :=
  cursor.skip (cursor.rest.takeWhile isSpace).length

/-- The number that four hexadecimal digits at the start of a text denote. -/
def hexQuad? : List Char → Option Nat
  | a :: b :: c :: d :: _ => do
    some (((← hexValue? a) * 16 + (← hexValue? b)) * 256 + (← hexValue? c) * 16 + (← hexValue? d))
  | _ => none

/-- The character that a one-letter escape stands for. -/
def simpleEscape? : Char → Option Char
  | '"' => some '"'
  | '\\' => some '\\'
  | '/' => some '/'
  | 'b' => some '\x08'
  | 'f' => some '\x0c'
  | 'n' => some '\n'
  | 'r' => some '\r'
  | 't' => some '\t'
  | _ => none

/-- The low half that follows a high surrogate as an escape of its own, with more text after it. -/
def lowSurrogate? : List Char → Option Nat
  | '\\' :: 'u' :: rest =>
    match hexQuad? rest with
    | some low => if 0xDC00 ≤ low ∧ low ≤ 0xDFFF ∧ 4 < rest.length then some low else none
    | none => none
  | _ => none

/-- Whether the half that follows a high surrogate starts like an escape but has no four digits. -/
def brokenSurrogate : List Char → Bool
  | '\\' :: 'u' :: rest => 4 < rest.length && (hexQuad? rest).isNone
  | _ => false

/-- Reads the inside of a string up to its closing quote; `start` is the offset of its opening
quote and `seen` holds the characters read so far, backwards. -/
def stringBody : Nat → (start : Nat) → (seen : List Char) → Cursor →
    Except DecodeError (String × Cursor)
  | 0, start, _, _ => .error ⟨.unterminatedString, start⟩
  | steps + 1, start, seen, cursor =>
    match cursor.rest with
    | [] => .error ⟨.unterminatedString, start⟩
    | '"' :: _ => .ok (.ofList seen.reverse, cursor.skip 1)
    | '\\' :: [] => .error ⟨.unterminatedString, start⟩
    | '\\' :: 'u' :: rest =>
      match hexQuad? rest with
      | some unit =>
        if rest.length ≤ 4 then .error ⟨.badUnicodeEscape, cursor.offset + 1⟩
        else if 0xD800 ≤ unit ∧ unit ≤ 0xDBFF then
          let next := rest.drop 4
          match lowSurrogate? next with
          | some low =>
            let c := Char.ofNat (0x10000 + (unit - 0xD800) * 0x400 + (low - 0xDC00))
            stringBody steps start (c :: seen) (cursor.skip 12)
          | none =>
            if brokenSurrogate next then .error ⟨.badUnicodeEscape, cursor.offset + 7⟩
            else stringBody steps start (codePoint unit :: seen) (cursor.skip 6)
        else stringBody steps start (codePoint unit :: seen) (cursor.skip 6)
      | none => .error ⟨.badUnicodeEscape, cursor.offset + 1⟩
    | '\\' :: c :: _ =>
      match simpleEscape? c with
      | some plain => stringBody steps start (plain :: seen) (cursor.skip 2)
      | none => .error ⟨.badEscape, cursor.offset⟩
    | c :: _ =>
      if c.toNat ≤ 0x1F then .error ⟨.controlCharacter, cursor.offset⟩
      else stringBody steps start (c :: seen) (cursor.skip 1)

/-- The length of a fraction at the start of a text: a point and at least one digit. -/
def fractionLength : List Char → Nat
  | '.' :: rest =>
    let digits := (rest.takeWhile Char.isDigit).length
    if digits = 0 then 0 else digits + 1
  | _ => 0

/-- The length of an exponent at the start of a text: its letter, a sign or none, and at least one
digit. -/
def exponentLength : List Char → Nat
  | c :: rest =>
    if c = 'e' ∨ c = 'E' then
      let sign := match rest with
        | '+' :: _ => 1
        | '-' :: _ => 1
        | _ => 0
      let digits := ((rest.drop sign).takeWhile Char.isDigit).length
      if digits = 0 then 0 else 1 + sign + digits
    else 0
  | [] => 0

/-- The length of a whole number without sign at the start of a text: a zero alone, or digits that
start with another one. -/
def wholeLength : List Char → Nat
  | '0' :: _ => 1
  | text => (text.takeWhile Char.isDigit).length

/-- Reads a number. -/
def number (cursor : Cursor) : Except DecodeError (Json × Cursor) :=
  let (sign, digits) := match cursor.rest with
    | '-' :: rest => (1, rest)
    | rest => (0, rest)
  let whole := wholeLength digits
  if whole = 0 then .error ⟨.expectingValue, cursor.offset⟩
  else
    let places := fractionLength (digits.drop whole)
    let power := exponentLength (digits.drop (whole + places))
    let next := cursor.skip (sign + whole + places + power)
    if places + power = 0 then
      let magnitude : Int := Nat.ofDigitChars 10 (digits.take whole) 0
      .ok (.int (if sign = 1 then -magnitude else magnitude), next)
    else
      let magnitude := (Decimal.readDecimal? (digits.take (whole + places + power))).getD 0.0
      .ok (.float (if sign = 1 then -magnitude else magnitude), next)

/-- Reads a value that starts with a letter, a digit or a sign. -/
def scalar (cursor : Cursor) : Except DecodeError (Json × Cursor) :=
  if "null".toList.isPrefixOf cursor.rest then .ok (.null, cursor.skip 4)
  else if "true".toList.isPrefixOf cursor.rest then .ok (.bool true, cursor.skip 4)
  else if "false".toList.isPrefixOf cursor.rest then .ok (.bool false, cursor.skip 5)
  else if "NaN".toList.isPrefixOf cursor.rest then .ok (.float (0.0 / 0.0), cursor.skip 3)
  else if "Infinity".toList.isPrefixOf cursor.rest then .ok (.float (1.0 / 0.0), cursor.skip 8)
  else if "-Infinity".toList.isPrefixOf cursor.rest then .ok (.float (-1.0 / 0.0), cursor.skip 9)
  else number cursor

mutual

/-- Reads a value. -/
def value : Nat → Cursor → Except DecodeError (Json × Cursor)
  | 0, cursor => .error ⟨.expectingValue, cursor.offset⟩
  | steps + 1, cursor =>
    match cursor.rest with
    | [] => .error ⟨.expectingValue, cursor.offset⟩
    | '"' :: rest => do
      let (text, next) ← stringBody (rest.length + 1) cursor.offset [] (cursor.skip 1)
      return (.string text, next)
    | '[' :: _ =>
      let inside := (cursor.skip 1).skipSpace
      match inside.rest with
      | ']' :: _ => .ok (.array [], inside.skip 1)
      | _ => do
        let (list, next) ← items steps inside
        return (.array list, next)
    | '{' :: _ =>
      let inside := (cursor.skip 1).skipSpace
      match inside.rest with
      | '}' :: _ => .ok (.object [], inside.skip 1)
      | _ => do
        let (list, next) ← memberList steps inside
        return (.object (Entries.ofPairs list), next)
    | _ => scalar cursor

/-- Reads the items of an array from the first one to behind the closing bracket. -/
def items : Nat → Cursor → Except DecodeError (List Json × Cursor)
  | 0, cursor => .error ⟨.expectingValue, cursor.offset⟩
  | steps + 1, cursor => do
    let (item, next) ← value steps cursor
    let next := next.skipSpace
    match next.rest with
    | ']' :: _ => return ([item], next.skip 1)
    | ',' :: _ =>
      let (list, last) ← items steps (next.skip 1).skipSpace
      return (item :: list, last)
    | _ => .error ⟨.expectingComma, next.offset⟩

/-- Reads the members of an object from the first one to behind the closing brace. -/
def memberList : Nat → Cursor → Except DecodeError (List (String × Json) × Cursor)
  | 0, cursor => .error ⟨.expectingKey, cursor.offset⟩
  | steps + 1, cursor =>
    match cursor.rest with
    | '"' :: rest => do
      let (key, next) ← stringBody (rest.length + 1) cursor.offset [] (cursor.skip 1)
      let next := next.skipSpace
      match next.rest with
      | ':' :: _ =>
        let (item, next) ← value steps (next.skip 1).skipSpace
        let next := next.skipSpace
        match next.rest with
        | '}' :: _ => return ([(key, item)], next.skip 1)
        | ',' :: _ =>
          let (list, last) ← memberList steps (next.skip 1).skipSpace
          return ((key, item) :: list, last)
        | _ => .error ⟨.expectingComma, next.offset⟩
      | _ => .error ⟨.expectingColon, next.offset⟩
    | _ => .error ⟨.expectingKey, cursor.offset⟩

end

/-- Reads a document that has no byte order mark. -/
def document (text : List Char) : Except DecodeError Json := do
  let (json, next) ← value (2 * text.length + 2) (Cursor.skipSpace ⟨0, text⟩)
  let next := next.skipSpace
  if next.rest.isEmpty then return json else throw ⟨.extraData, next.offset⟩

/-- Reads a document.  A byte order mark is refused. -/
def decodeChars (text : List Char) : Except DecodeError Json :=
  if text.head? = some (Char.ofNat 0xFEFF) then .error ⟨.byteOrderMark, 0⟩ else document text

/-- Reads a document. -/
def decode (text : String) : Except DecodeError Json := decodeChars text.toList

/-- The wording of a refusal of a document: the problem, then line and column counted from one, and
the offset counted from zero. -/
def DecodeError.message (error : DecodeError) (text : List Char) : String :=
  let before := text.take error.offset
  let line := before.count '\n' + 1
  let column := (before.reverse.takeWhile (· ≠ '\n')).length + 1
  s!"{error.problem.message}: line {line} column {column} (char {error.offset})"

end ManifestLint.Json
