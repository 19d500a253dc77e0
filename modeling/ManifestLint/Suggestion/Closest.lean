import ManifestLint.Text.Lower

/-!
# The closest option

What a user most likely meant by a text: the first option that agrees with it as far as both go,
letter case aside, else the first option at the least edit distance.  That is the least number of
characters to insert, delete or replace that turns one text into the other, and is computed row by
row of the usual table.

* `distance` is the edit distance, `relativeDistance` the distance as a part of the longer text's
  length.
* `closest` picks an option.
-/

namespace ManifestLint.Suggestion

/-! ## Edit distance -/

/-- The next row of the table, from the entry left of it on: `diagonal` is the entry above left,
`above` holds the entries above, one for each character of `b`. -/
def nextRow (c : Char) (left diagonal : Nat) : List Char → List Nat → List Nat
  | d :: b, up :: above =>
    let entry := min (min (up + 1) (left + 1)) (diagonal + if c = d then 0 else 1)
    entry :: nextRow c entry up b above
  | _, _ => []

/-- The last row of the table for the texts `a` and `b`, from a first row on. -/
def lastRow (b : List Char) : List Char → List Nat → List Nat
  | [], row => row
  | _ :: _, [] => []
  | c :: a, first :: above => lastRow b a ((first + 1) :: nextRow c (first + 1) first b above)

/-- The last entry of the table for two texts, with a row for each character of the first one. -/
def tableDistance (a b : List Char) : Nat :=
  ((lastRow b a (List.range (b.length + 1))).getLast?).getD 0

/-- The edit distance of two texts.  The rows of the table are as long as the shorter one; no table
is needed if the texts are the same or one of them is empty. -/
def distance (a b : List Char) : Nat :=
  if a = b then 0
  else if a = [] then b.length
  else if b = [] then a.length
  else if a.length < b.length then tableDistance b a
  else tableDistance a b

/-- A part of a whole. -/
structure Proportion where
  part : Nat
  whole : Nat
  deriving DecidableEq, Repr

/-- The edit distance as a part of the length of the longer text.  Two empty texts are at no
distance. -/
def relativeDistance (a b : List Char) : Proportion :=
  let longest := max a.length b.length
  if longest = 0 then ⟨0, 1⟩ else ⟨distance a b, longest⟩

/-- Whether a proportion is at most a quarter. -/
def Proportion.atMostQuarter (p : Proportion) : Bool := 4 * p.part ≤ p.whole

/-- A proportion with the given number of places, a half going to the even neighbour. -/
def Proportion.text (p : Proportion) (places : Nat) : String :=
  let unit := Nat.pow 10 places
  let scaled := p.part * unit
  let below := scaled / p.whole
  let twice := 2 * (scaled % p.whole)
  let rounded := if twice < p.whole ∨ twice = p.whole ∧ below % 2 = 0 then below else below + 1
  let digits := Nat.toDigits 10 (rounded % unit)
  toString (rounded / unit) ++ "."
    ++ .ofList (List.replicate (places - digits.length) '0' ++ digits)

/-! ## Picking an option -/

open ManifestLint.Text

/-- Whether a lower-case text and an option agree up to the end of the shorter one. -/
def agrees (lowered option : List Char) : Bool :=
  let shared := min lowered.length option.length
  lowered.take shared = lowerChars (option.take shared)

/-- The first of the options at the least distance from a text, given the best one so far. -/
def nearest (text best : List Char) : List (List Char) → List Char
  | [] => best
  | option :: rest =>
    if distance option text < distance best text then nearest text option rest
    else nearest text best rest

/-- The option closest to a text; the fallback if there is no text or no option. -/
def closestChars (text : List Char) (options : List (List Char)) (fallback : List Char) :
    List Char :=
  match text, options with
  | [], _ => fallback
  | _, [] => fallback
  | text, option :: rest =>
    match (option :: rest).find? (agrees (lowerChars text)) with
    | some found => found
    | none => nearest text option rest

/-- The option closest to a text; the fallback if there is no text or no option. -/
def closest (text : String) (options : List String) (fallback : String) : String :=
  .ofList (closestChars text.toList (options.map String.toList) fallback.toList)

end ManifestLint.Suggestion
