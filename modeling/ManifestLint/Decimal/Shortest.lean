/-!
# Shortest decimal text of a double

A finite double is the number `m · 2^q` with a whole mantissa.  The reals that round to it form an
interval, whose ends belong to it exactly when the mantissa is even.  Of all decimals in the
interval the text shows one with the fewest digits, and of these the one nearest to the double;
every other digit would add nothing that reading the text back could see.

* `Dyadic.shortest` finds that decimal on the grids of one digit, two digits and so on, by exact
  arithmetic on natural numbers.
* `floatText` writes it: positionally while the point stands at most 3 places before the first
  digit and at most 16 places after it, with an exponent of at least two digits elsewhere.
* `Ratio.ofFloat?` gives the exact value, a ratio of whole numbers that can be compared with whole
  numbers.
-/

namespace ManifestLint.Decimal

/-- A positive double: the number `mantissa · 2^exponent`.  `steep` says that the next smaller
double lies only half as far away as the next larger one. -/
structure Dyadic where
  mantissa : Nat
  exponent : Int
  steep : Bool

/-- A positive decimal: the number `digits · 10^exponent`. -/
structure Digits where
  digits : Nat
  exponent : Int

/-- Numerator and denominator of `n · 2^q · 10^e`. -/
def fraction (n : Nat) (q e : Int) : Nat × Nat :=
  (n * Nat.pow 2 q.toNat * Nat.pow 10 e.toNat, Nat.pow 2 (-q).toNat * Nat.pow 10 (-e).toNat)

/-- The number `place` with `10^(place - 1) ≤ value < 10^place`. -/
def Dyadic.place (value : Dyadic) : Int :=
  let (num, den) := fraction value.mantissa value.exponent 0
  if den ≤ num then ((Nat.toDigits 10 (num / den)).length : Int)
  else 1 - ((Nat.toDigits 10 ((den + num - 1) / num - 1)).length : Int)

/-- Whether a decimal rounds to the double. -/
def Dyadic.holds (value : Dyadic) (d : Digits) : Bool :=
  let (num, den) := fraction (4 * d.digits) (-value.exponent) d.exponent
  let low := (4 * value.mantissa - if value.steep then 1 else 2) * den
  let high := (4 * value.mantissa + 2) * den
  if value.mantissa % 2 = 0 then low ≤ num && num ≤ high else low < num && num < high

/-- The decimal with the given exponent that is nearest to the double, if one rounds to it.  Of
two equally near ones the even one is taken. -/
def Dyadic.onGrid? (value : Dyadic) (exponent : Int) : Option Digits :=
  let (num, den) := fraction value.mantissa value.exponent (-exponent)
  let below : Digits := ⟨num / den, exponent⟩
  let above : Digits := ⟨num / den + 1, exponent⟩
  let rest := 2 * (num % den)
  let first := if rest < den ∨ rest = den ∧ below.digits % 2 = 0 then below else above
  let second := if first.digits = below.digits then above else below
  if value.holds first then some first
  else if value.holds second then some second
  else none

/-- The shortest decimal that rounds to the double.  Seventeen digits always suffice. -/
def Dyadic.shortest (value : Dyadic) : Digits :=
  let place := value.place
  ((List.range 17).findSome? fun n => value.onGrid? (place - (n + 1 : Nat))).getD ⟨0, 0⟩

/-- Text of a positive decimal with the given digits and the point after `point` of them. -/
def positional (digits : List Char) (point : Int) : List Char :=
  if point ≤ 0 then '0' :: '.' :: List.replicate (-point).toNat '0' ++ digits
  else
    let whole := point.toNat
    if digits.length ≤ whole then
      digits ++ List.replicate (whole - digits.length) '0' ++ ['.', '0']
    else digits.take whole ++ '.' :: digits.drop whole

/-- Text of a positive decimal with an exponent, the point after the first digit. -/
def exponential (digits : List Char) (point : Int) : List Char :=
  let exponent := point - 1
  let power := Nat.toDigits 10 exponent.natAbs
  let mantissa :=
    match digits with
    | [] => []
    | [d] => [d]
    | d :: rest => d :: '.' :: rest
  mantissa ++ 'e' :: (if exponent < 0 then '-' else '+') ::
    (List.replicate (2 - power.length) '0' ++ power)

/-- Text of a positive decimal. -/
def Digits.text (d : Digits) : List Char :=
  let written := Nat.toDigits 10 d.digits
  let digits := (written.reverse.dropWhile (· = '0')).reverse
  let point := (written.length : Int) + d.exponent
  if -4 < point ∧ point ≤ 16 then positional digits point else exponential digits point

/-- The positive double with the given bits, sign aside. -/
def Dyadic.ofBits (bits : Nat) : Dyadic :=
  let fractionBits : Nat := bits % Nat.pow 2 52
  let biased : Nat := bits / Nat.pow 2 52 % Nat.pow 2 11
  if biased = 0 then ⟨fractionBits, -1074, false⟩
  else ⟨Nat.pow 2 52 + fractionBits, (biased : Int) - 1075, fractionBits = 0 ∧ 1 < biased⟩

/-- The shortest text that reads back as the double. -/
def floatText (x : Float) : String :=
  let bits := x.toBits.toNat
  let magnitude := bits % Nat.pow 2 63
  let sign := if bits / Nat.pow 2 63 = 1 then "-" else ""
  if x.isNaN then "nan"
  else if magnitude = Nat.pow 2 52 * 2047 then sign ++ "inf"
  else if magnitude = 0 then sign ++ "0.0"
  else sign ++ .ofList (Dyadic.ofBits magnitude).shortest.text

/-- A ratio; the denominator is positive. -/
structure Ratio where
  numerator : Int
  denominator : Nat
  deriving DecidableEq, Repr

namespace Ratio

/-- The ratio that a whole number is. -/
def ofInt (value : Int) : Ratio := ⟨value, 1⟩

/-- The ratio that a double is, if it is finite. -/
def ofFloat? (x : Float) : Option Ratio :=
  let bits := x.toBits.toNat
  let magnitude := bits % Nat.pow 2 63
  if Nat.pow 2 52 * 2047 ≤ magnitude then none
  else
    let value := Dyadic.ofBits magnitude
    let (numerator, denominator) := fraction value.mantissa value.exponent 0
    some ⟨if bits / Nat.pow 2 63 = 1 then -(numerator : Int) else numerator, denominator⟩

/-- Whether two ratios are equal. -/
def isSame (a b : Ratio) : Bool := a.numerator * b.denominator = b.numerator * a.denominator

/-- Whether a ratio is less than another one. -/
def isLess (a b : Ratio) : Bool := a.numerator * b.denominator < b.numerator * a.denominator

end Ratio

end ManifestLint.Decimal
