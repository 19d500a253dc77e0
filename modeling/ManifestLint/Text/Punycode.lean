import ManifestLint.Text.Ascii

/-!
# Punycode

Any text can be written with ASCII characters.  Those that it has come first; behind a hyphen follow
the others as one row of numbers, in the order of their codes, each number saying how far code and
place have to advance.  Numbers are written in digits of base 36, the smallest place first; from
which digit on another one follows is adapted to the numbers before.

* `encodePunycode` writes a text, `decodePunycode?` reads one.
-/

namespace ManifestLint.Text

/-- The digit with a value below 36. -/
def punycodeDigit (value : Nat) : Char :=
  if value < 26 then Char.ofNat ('a'.toNat + value) else Char.ofNat ('0'.toNat + (value - 26))

/-- The value of a digit. -/
def punycodeValue? (c : Char) : Option Nat :=
  if c.isLower then some (c.toNat - 'a'.toNat)
  else if c.isUpper then some (c.toNat - 'A'.toNat)
  else if c.isDigit then some (c.toNat - '0'.toNat + 26)
  else none

/-- The least value of a digit that is not the last one of its number.  The places of a number are
counted in steps of 36. -/
def digitLimit (bias place : Nat) : Nat := min 26 (max 1 (place - bias))

theorem digitLimit_pos (bias place : Nat) : 0 < digitLimit bias place := by
  unfold digitLimit
  omega

/-- Divides a number by 35 until it is small, and counts the divisions in steps of 36. -/
def settle (divisions number : Nat) : Nat × Nat :=
  if 455 < number then settle (divisions + 36) (number / 35) else (divisions, number)
termination_by number
decreasing_by omega

/-- The bias behind a number, when a text has so many characters. -/
def adaptedBias (number : Nat) (isFirst : Bool) (length : Nat) : Nat :=
  let scaled := number / if isFirst then 700 else 2
  let (divisions, small) := settle 0 (scaled + scaled / length)
  divisions + 36 * small / (small + 38)

/-- The digits of a number. -/
def numberDigits (bias place number : Nat) : List Char :=
  let limit := digitLimit bias place
  if number < limit then [punycodeDigit number]
  else
    punycodeDigit (limit + (number - limit) % (36 - limit))
      :: numberDigits bias (place + 36) ((number - limit) / (36 - limit))
termination_by number
decreasing_by
  have positive := digitLimit_pos bias place
  exact Nat.lt_of_le_of_lt (Nat.div_le_self _ _) (by omega)

/-- What is known while a text is written: the number that has added up, how many characters are
written, and the bias. -/
structure PunycodeState where
  number : Nat := 0
  written : Nat
  bias : Nat := 72

/-- Writes the places of one character in a text. -/
def encodePlaces (basic : Nat) (c : Char) (state : PunycodeState) :
    List Char → List Char × PunycodeState
  | [] => ([], state)
  | d :: rest =>
    if d = c then
      let digits := numberDigits state.bias 36 state.number
      let written := state.written + 1
      let bias := adaptedBias state.number (state.written = basic) written
      let (more, last) := encodePlaces basic c ⟨0, written, bias⟩ rest
      (digits ++ more, last)
    else
      let step := if d.toNat < c.toNat then 1 else 0
      encodePlaces basic c { state with number := state.number + step } rest

/-- Writes the places of several characters in a text, given in the order of their codes, when all
characters below a code are written. -/
def encodeCodes (text : List Char) (basic : Nat) :
    (code : Nat) → PunycodeState → List Char → List Char
  | _, _, [] => []
  | code, state, c :: rest =>
    let number := state.number + (c.toNat - code) * (state.written + 1)
    let (digits, last) := encodePlaces basic c { state with number } text
    digits ++ encodeCodes text basic (c.toNat + 1) { last with number := last.number + 1 } rest

/-- A text written with ASCII characters. -/
def encodePunycode (text : List Char) : List Char :=
  let basic := text.filter isAscii
  let others := ((text.filter (!isAscii ·)).eraseDups).mergeSort fun a b => a.toNat ≤ b.toNat
  let numbers := encodeCodes text basic.length 0x80 { written := basic.length } others
  if basic.isEmpty then numbers else basic ++ '-' :: numbers

/-- Reads a number from a place on, and gives what follows it. -/
def readPunycodeNumber? (bias : Nat) :
    (place weight sum : Nat) → List Char → Option (Nat × List Char)
  | _, _, _, [] => none
  | place, weight, sum, c :: rest => do
    let digit ← punycodeValue? c
    let limit := digitLimit bias place
    let sum := sum + digit * weight
    if digit < limit then return (sum, rest)
    else readPunycodeNumber? bias (place + 36) (weight * (36 - limit)) sum rest

/-- The character with a code, if there is one. -/
def charOfCode? (code : Nat) : Option Char :=
  let c := Char.ofNat code
  if c.toNat = code then some c else none

/-- Puts the characters that numbers stand for into a text.  The next one comes at a place or behind
it if its code is the one given. -/
def insertCodes : (steps : Nat) → (text : List Char) → (isFirst : Bool) → (bias code place : Nat) →
    List Char → Option (List Char)
  | 0, text, _, _, _, _, _ => some text
  | _, text, _, _, _, _, [] => some text
  | steps + 1, text, isFirst, bias, code, place, numbers => do
    let (number, rest) ← readPunycodeNumber? bias 36 1 0 numbers
    let length := text.length + 1
    let code := code + (place + number) / length
    let place := (place + number) % length
    let inserted := text.take place ++ (← charOfCode? code) :: text.drop place
    insertCodes steps inserted false (adaptedBias number isFirst length) code (place + 1) rest

/-- The text that a text of ASCII characters stands for. -/
def decodePunycode? (text : List Char) : Option (List Char) :=
  let numbers := (text.reverse.takeWhile (· ≠ '-')).reverse
  let basic := text.take (text.length - numbers.length - 1)
  insertCodes numbers.length basic true 72 0x80 0 numbers

end ManifestLint.Text
