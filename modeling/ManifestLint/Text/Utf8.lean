import ManifestLint.Text.Quoted

/-!
# UTF-8

Text as bytes.  A character takes one to four bytes; the first byte tells how many follow, and the
second one is bounded more narrowly behind some first bytes, so that every character has one form
only and no surrogate has any.  Bytes are numbers below 256.

* `decodeUtf8` reads bytes, and says at which of them it got stuck and why.
* `decodeReplacing` reads bytes whatever they are.
* `encodeChar` gives the bytes of a character.
-/

namespace ManifestLint.Text

/-- Why bytes are no UTF-8. -/
inductive Utf8Problem where
  | invalidStart
  | invalidContinuation
  | unexpectedEnd
  deriving DecidableEq, Repr

/-- The wording of a problem. -/
def Utf8Problem.message : Utf8Problem → String
  | invalidStart => "invalid start byte"
  | invalidContinuation => "invalid continuation byte"
  | unexpectedEnd => "unexpected end of data"

/-- Where bytes are no UTF-8: the problem, the place of the first byte at fault and its value, and
how many bytes are at fault. -/
structure Utf8Error where
  problem : Utf8Problem
  offset : Nat
  byte : Nat
  length : Nat
  deriving DecidableEq, Repr

/-- Bytes at fault as messages name them: one byte with its value, several by their places. -/
def bytesPlace (offset length byte : Nat) : String :=
  if length = 1 then
    let shown := String.ofList (hexadecimal 2 byte)
    s!"byte 0x{shown} in position {offset}"
  else s!"bytes in position {offset}-{offset + length - 1}"

/-- The wording of an error. -/
def Utf8Error.message (error : Utf8Error) : String :=
  let place := bytesPlace error.offset error.length error.byte
  s!"'utf-8' codec can't decode {place}: {error.problem.message}"

/-- How many bytes follow a first byte of several, and the least and the greatest of the second
ones. -/
def leadByte? (byte : Nat) : Option (Nat × Nat × Nat) :=
  if 0xC2 ≤ byte ∧ byte ≤ 0xDF then some (1, 0x80, 0xBF)
  else if byte = 0xE0 then some (2, 0xA0, 0xBF)
  else if byte = 0xED then some (2, 0x80, 0x9F)
  else if 0xE1 ≤ byte ∧ byte ≤ 0xEF then some (2, 0x80, 0xBF)
  else if byte = 0xF0 then some (3, 0x90, 0xBF)
  else if byte = 0xF4 then some (3, 0x80, 0x8F)
  else if 0xF1 ≤ byte ∧ byte ≤ 0xF3 then some (3, 0x80, 0xBF)
  else none

/-- How many of the next bytes continue a character of which `count` bytes are missing; the first
of them has to lie between two bounds. -/
def continuationLength : (count low high : Nat) → List Nat → Nat
  | 0, _, _, _ => 0
  | _ + 1, _, _, [] => 0
  | count + 1, low, high, byte :: rest =>
    if low ≤ byte ∧ byte ≤ high then continuationLength count 0x80 0xBF rest + 1 else 0

/-- The code point that a first byte and the bytes behind it denote. -/
def codePointOf (lead : Nat) (rest : List Nat) : Nat :=
  let bits := if rest.length = 1 then lead % 32 else if rest.length = 2 then lead % 16 else lead % 8
  rest.foldl (fun code byte => 64 * code + byte % 64) bits

/-- Reads bytes from an offset on; `skip` bytes belong to a character that was read already. -/
def decodeFrom (offset skip : Nat) : List Nat → Except Utf8Error (List Char)
  | [] => .ok []
  | byte :: rest =>
    match skip with
    | skip + 1 => decodeFrom (offset + 1) skip rest
    | 0 =>
      if byte < 0x80 then (decodeFrom (offset + 1) 0 rest).map (Char.ofNat byte :: ·)
      else
        match leadByte? byte with
        | none => .error ⟨.invalidStart, offset, byte, 1⟩
        | some (count, low, high) =>
          let found := continuationLength count low high rest
          if found = count then
            let c := Char.ofNat (codePointOf byte (rest.take count))
            (decodeFrom (offset + 1) count rest).map (c :: ·)
          else if found = rest.length then .error ⟨.unexpectedEnd, offset, byte, found + 1⟩
          else .error ⟨.invalidContinuation, offset, byte, found + 1⟩

/-- Reads bytes. -/
def decodeUtf8 (bytes : List Nat) : Except Utf8Error (List Char) := decodeFrom 0 0 bytes

/-- Reads bytes with a replacement character for all that are at fault together; `skip` bytes
belong to a character that was read already, or are at fault. -/
def decodeReplacing (skip : Nat) : List Nat → List Char
  | [] => []
  | byte :: rest =>
    match skip with
    | skip + 1 => decodeReplacing skip rest
    | 0 =>
      if byte < 0x80 then Char.ofNat byte :: decodeReplacing 0 rest
      else
        match leadByte? byte with
        | none => Char.ofNat 0xFFFD :: decodeReplacing 0 rest
        | some (count, low, high) =>
          let found := continuationLength count low high rest
          let c := if found = count then codePointOf byte (rest.take count) else 0xFFFD
          Char.ofNat c :: decodeReplacing found rest

/-- The bytes of a character. -/
def encodeChar (c : Char) : List Nat :=
  let n := c.toNat
  let tail (shift : Nat) : Nat := 0x80 + n / Nat.pow 64 shift % 64
  if n < 0x80 then [n]
  else if n < 0x800 then [0xC0 + n / 64, tail 0]
  else if n < 0x10000 then [0xE0 + n / Nat.pow 64 2, tail 1, tail 0]
  else [0xF0 + n / Nat.pow 64 3, tail 2, tail 1, tail 0]

/-- The bytes of a text. -/
def encodeUtf8 (text : List Char) : List Nat := text.flatMap encodeChar

end ManifestLint.Text
