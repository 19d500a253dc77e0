import ManifestLint.Text.CompositionTable

/-!
# Normal form of characters with marks

A character with marks may be written in several ways: as one character or as several, and with
marks of different classes in any order.  In the normal form everything that can be written as one
character is.

* `isComposed` tells whether a text is in the normal form.
-/

namespace ManifestLint.Text

/-- The class of a mark; all other characters have class zero. -/
def markClass (c : Char) : Nat :=
  ((markClasses.find? fun (first, last, _) => first ≤ c.toNat && c.toNat ≤ last).map
    fun (_, _, number) => number).getD 0

/-- The one character that a character and a mark behind it are written as. -/
def composition? (c mark : Char) : Option Char :=
  (compositions.find? fun (first, second, _) => first = c.toNat && second = mark.toNat).map
    fun (_, _, composed) => Char.ofNat composed

/-- The characters that a character is composed of. -/
def decomposed : (depth : Nat) → Char → List Char
  | 0, c => [c]
  | depth + 1, c =>
    match compositions.find? fun (_, _, composed) => composed = c.toNat with
    | some (first, second, _) => decomposed depth (.ofNat first) ++ [.ofNat second]
    | none => [c]

/-- Puts a character before others, but behind the marks of lower classes. -/
def placeMark (c : Char) : List Char → List Char
  | [] => [c]
  | d :: rest =>
    if 0 < markClass d && markClass d < markClass c then d :: placeMark c rest else c :: d :: rest

/-- Composes the characters behind one, of whose marks some could not be composed with it.  A mark
can be if none of its class or a higher one stands between. -/
def composeFrom (c : Char) (marks : List Char) : List Char → List Char
  | [] => c :: marks
  | mark :: rest =>
    let isFree := marks.getLast?.all fun last => markClass last < markClass mark
    match if isFree then composition? c mark else none with
    | some composed => composeFrom composed marks rest
    | none =>
      if markClass mark = 0 then c :: marks ++ composeFrom mark [] rest
      else composeFrom c (marks ++ [mark]) rest

/-- The normal form of a text. -/
def composed (text : List Char) : List Char :=
  match (text.flatMap (decomposed 4)).foldr placeMark [] with
  | [] => []
  | c :: rest => composeFrom c [] rest

/-- Whether a text is in the normal form. -/
def isComposed (text : List Char) : Bool := composed text = text

end ManifestLint.Text
