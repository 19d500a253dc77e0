import ManifestLint.Text.Utf8

/-!
# Text in wide units

Text as units of two or four bytes, of which either the low or the high byte comes first.  Two units
of two bytes, a high and a low surrogate, are one character beyond the first plane.  A surrogate
that stands alone is no error here, but it is no character either, and is replaced.

* `detect` tells from the first bytes of a document of which units it is made: its first characters
  are ASCII, so that zeros show where the other bytes of their units are.
* `decodeBytes` reads the bytes of a document.
-/

namespace ManifestLint.Text

/-- How characters are made of bytes. -/
inductive Encoding where
  | utf8
  | utf16 (highFirst : Bool)
  | utf32 (highFirst : Bool)
  deriving DecidableEq, Repr

/-- The name of an encoding. -/
def Encoding.name : Encoding → String
  | utf8 => "utf-8"
  | utf16 false => "utf-16-le"
  | utf16 true => "utf-16-be"
  | utf32 false => "utf-32-le"
  | utf32 true => "utf-32-be"

/-- The encoding of a document. -/
def detect (bytes : List Nat) : Encoding :=
  match bytes with
  | a :: b :: c :: d :: _ =>
    if a = 0 then if b = 0 then .utf32 true else .utf16 true
    else if b = 0 then if c = 0 && d = 0 then .utf32 false else .utf16 false
    else .utf8
  | [a, b] => if a = 0 then .utf16 true else if b = 0 then .utf16 false else .utf8
  | _ => .utf8

/-- Where bytes are no text in an encoding: the first byte at fault, its place, and how many bytes
are at fault. -/
structure EncodingError where
  encoding : Encoding
  reason : String
  offset : Nat
  byte : Nat
  length : Nat
  deriving DecidableEq, Repr

/-- The wording of an error. -/
def EncodingError.message (error : EncodingError) : String :=
  let place := bytesPlace error.offset error.length error.byte
  s!"'{error.encoding.name}' codec can't decode {place}: {error.reason}"

/-- The number that the bytes of a unit denote. -/
def unitValue (highFirst : Bool) (bytes : List Nat) : Nat :=
  (if highFirst then bytes else bytes.reverse).foldl (fun value byte => 256 * value + byte) 0

/-- A code point as a character.  A lone surrogate, which no character is, becomes the replacement
character. -/
def codePoint (n : Nat) : Char :=
  if 0xD800 ≤ n ∧ n ≤ 0xDFFF then Char.ofNat 0xFFFD else Char.ofNat n

/-- The characters that units of two bytes denote. -/
def joinSurrogates : List Nat → List Char
  | [] => []
  | [unit] => [codePoint unit]
  | high :: low :: rest =>
    if 0xD800 ≤ high ∧ high ≤ 0xDBFF ∧ 0xDC00 ≤ low ∧ low ≤ 0xDFFF then
      Char.ofNat (0x10000 + (high - 0xD800) * 0x400 + (low - 0xDC00)) :: joinSurrogates rest
    else codePoint high :: joinSurrogates (low :: rest)

/-- The units of two bytes, the last of which has to be complete. -/
def units16 (highFirst : Bool) (offset : Nat) : List Nat → Except EncodingError (List Nat)
  | [] => .ok []
  | [byte] => .error ⟨.utf16 highFirst, "truncated data", offset, byte, 1⟩
  | a :: b :: rest =>
    (units16 highFirst (offset + 2) rest).map (unitValue highFirst [a, b] :: ·)

/-- The characters that units of four bytes denote, the last of which has to be complete. -/
def decodeUtf32 (highFirst : Bool) (offset : Nat) : List Nat → Except EncodingError (List Char)
  | [] => .ok []
  | a :: b :: c :: d :: rest =>
    let unit := unitValue highFirst [a, b, c, d]
    if unit < 0x110000 then
      (decodeUtf32 highFirst (offset + 4) rest).map (codePoint unit :: ·)
    else .error ⟨.utf32 highFirst, "code point not in range(0x110000)", offset, a, 4⟩
  | byte :: rest =>
    .error ⟨.utf32 highFirst, "truncated data", offset, byte, rest.length + 1⟩

/-- The characters that bytes denote in an encoding. -/
def decodeAs (encoding : Encoding) (bytes : List Nat) : Except EncodingError (List Char) :=
  match encoding with
  | .utf8 =>
    match decodeUtf8 bytes with
    | .ok text => .ok text
    | .error error =>
      .error ⟨.utf8, error.problem.message, error.offset, error.byte, error.length⟩
  | .utf16 highFirst => (units16 highFirst 0 bytes).map joinSurrogates
  | .utf32 highFirst => decodeUtf32 highFirst 0 bytes

/-- The text of a document, whose encoding its first bytes tell.  A byte order mark at the start of
a text in UTF-8 is passed over. -/
def decodeBytes (bytes : List Nat) : Except EncodingError (List Char) :=
  match bytes with
  | 0xEF :: 0xBB :: 0xBF :: rest => decodeAs .utf8 rest
  | _ => decodeAs (detect bytes) bytes

end ManifestLint.Text
