/-!
# Base64

Four letters of an alphabet of 64 stand for three bytes.  The reader is forgiving: characters
outside the alphabet are passed over, and it stops as soon as a group is complete with padding.
What is left at the end has to be complete groups.

* `decodeBase64` reads a text, `encodeBase64` writes one.
-/

namespace ManifestLint.Text

/-- Why a text is no base64. -/
inductive Base64Problem where
  /-- The last group lacks padding. -/
  | incorrectPadding
  /-- The last group has one letter only, after this many letters altogether. -/
  | loneLetter (letters : Nat)
  deriving DecidableEq, Repr

/-- The wording of a problem. -/
def Base64Problem.message : Base64Problem → String
  | incorrectPadding => "Incorrect padding"
  | loneLetter letters =>
    s!"Invalid base64-encoded string: number of data characters ({letters}) "
      ++ "cannot be 1 more than a multiple of 4"

/-- The number that a letter of the alphabet stands for. -/
def base64Value? (c : Char) : Option Nat :=
  if c.isUpper then some (c.toNat - 'A'.toNat)
  else if c.isLower then some (c.toNat - 'a'.toNat + 26)
  else if c.isDigit then some (c.toNat - '0'.toNat + 52)
  else if c = '+' then some 62
  else if c = '/' then some 63
  else none

/-- The letter that a number below 64 is written as. -/
def base64Letter (value : Nat) : Char :=
  if value < 26 then Char.ofNat ('A'.toNat + value)
  else if value < 52 then Char.ofNat ('a'.toNat + (value - 26))
  else if value < 62 then Char.ofNat ('0'.toNat + (value - 52))
  else if value = 62 then '+'
  else '/'

/-- The text that bytes are written as. -/
def encodeBase64 : List Nat → List Char
  | [] => []
  | [a] => [base64Letter (a / 4), base64Letter (a % 4 * 16), '=', '=']
  | [a, b] =>
    [base64Letter (a / 4), base64Letter (a % 4 * 16 + b / 16), base64Letter (b % 16 * 4), '=']
  | a :: b :: c :: rest =>
    base64Letter (a / 4) :: base64Letter (a % 4 * 16 + b / 16)
      :: base64Letter (b % 16 * 4 + c / 64) :: base64Letter (c % 64) :: encodeBase64 rest

/-- The bytes that the letters of a group make complete. -/
def groupBytes : List Nat → List Nat
  | [a, b] => [(a * 4 + b / 16) % 256]
  | [a, b, c] => [(a * 4 + b / 16) % 256, (b * 16 + c / 4) % 256]
  | [a, b, c, d] => [(a * 4 + b / 16) % 256, (b * 16 + c / 4) % 256, (c * 64 + d) % 256]
  | _ => []

/-- Reads a text.  `groups` counts the complete groups before it, `group` holds the letters of the
group that has begun, and `pads` counts the padding that was read behind them. -/
def decodeGroups (groups : Nat) (group : List Nat) (pads : Nat) :
    List Char → Except Base64Problem (List Nat)
  | [] =>
    match group with
    | [] => .ok []
    | [_] => .error (.loneLetter (4 * groups + 1))
    | _ => .error .incorrectPadding
  | c :: rest =>
    if c = '=' then
      if 2 ≤ group.length && 4 ≤ group.length + pads + 1 then .ok (groupBytes group)
      else decodeGroups groups group (if 2 ≤ group.length then pads + 1 else pads) rest
    else
      match base64Value? c with
      | none => decodeGroups groups group pads rest
      | some value =>
        if group.length = 3 then
          (decodeGroups (groups + 1) [] 0 rest).map (groupBytes (group ++ [value]) ++ ·)
        else decodeGroups groups (group ++ [value]) 0 rest

/-- The bytes that a text stands for. -/
def decodeBase64 (text : List Char) : Except Base64Problem (List Nat) := decodeGroups 0 [] 0 text

end ManifestLint.Text
