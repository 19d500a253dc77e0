import Mathlib.Computability.Language
import ManifestLint.Toml.Shape
import ManifestLint.Proofs.Text.Lines

/-!
# Patterns of values

The shapes of bare values written down as languages: classes of characters, put one behind the
other, repeated, left out or chosen between.  The test of a shape reads a text once, from left to
right, and decides the pattern.  It can do without going back, since behind a part of a pattern
nothing stands that could belong to it: behind a sign no other one, behind digits no digit and no
underscore, behind the fractions of a second no digit.

* `Pattern.Avoids`: what no word of a language starts with.
* `mem_mul_iff_span`, `mem_opt_sign_mul`, `mem_opt_fraction_mul`: what reading forward takes off a
  text is the part that the pattern asks for.
* `TokenKind.pattern`: the patterns of all kinds of values.
* `shapes_decide_patterns`: the tests decide the patterns.
-/

namespace ManifestLint.Toml

open Computability
open ManifestLint.Text (isDecimal)

namespace Pattern

variable {p q digit : Char → Bool} {c : Char} {text rest : List Char} {L M : Language Char}

/-! ## Parts of patterns -/

/-- One character of a class. -/
def oneOf (p : Char → Bool) : Language Char := {text | ∃ c, p c = true ∧ text = [c]}

/-- One given character. -/
def char (c : Char) : Language Char := oneOf (· = c)

/-- One given text. -/
def word (text : List Char) : Language Char := {text}

/-- A part that may be left out. -/
def opt (part : Language Char) : Language Char := 1 + part

/-- A plus or a minus. -/
def isSign (c : Char) : Bool := c = '+' || c = '-'

/-- A sign. -/
def sign : Language Char := oneOf isSign

/-- A decimal digit. -/
def decimal : Language Char := oneOf isDecimal

/-- More digits behind a digit, each behind an underscore or none. -/
def moreDigits (digit : Char → Bool) : Language Char := (opt (char '_') * oneOf digit)∗

/-- A group of digits. -/
def digits (digit : Char → Bool) : Language Char := oneOf digit * moreDigits digit

/-- A whole number without sign. -/
def whole : Language Char :=
  char '0' + oneOf (fun c => '1' ≤ c && c ≤ '9') * moreDigits isDecimal

/-- A decimal integer. -/
def decimalInt : Language Char := opt sign * whole

/-- An integer in another base. -/
def based (mark : Char) (digit : Char → Bool) : Language Char :=
  char '0' * (char mark * digits digit)

/-- An exponent of ten. -/
def exponent : Language Char :=
  oneOf (fun c => c = 'e' || c = 'E') * (opt sign * digits isDecimal)

/-- What stands behind the whole part of a float. -/
def floatTail : Language Char := char '.' * (digits isDecimal * opt exponent) + exponent

/-- A float. -/
def float : Language Char := opt sign * (whole * floatTail)

/-- A float that is given by name. -/
def specialFloat : Language Char := opt sign * (word ['i', 'n', 'f'] + word ['n', 'a', 'n'])

/-- A date. -/
def date : Language Char := decimal ^ 4 * char '-' * decimal ^ 2 * char '-' * decimal ^ 2

/-- Fractions of a second. -/
def fraction : Language Char := char '.' * (decimal * decimal∗)

/-- A time of day. -/
def time : Language Char :=
  decimal ^ 2 * char ':' * decimal ^ 2 * char ':' * decimal ^ 2 * opt fraction

/-- What stands between a date and a time. -/
def separator : Language Char := oneOf fun c => c = 'T' || c = 't' || c = ' '

/-- A date with a time. -/
def dateTime : Language Char := date * separator * time

/-- A distance from universal time. -/
def offset : Language Char :=
  oneOf (fun c => c = 'Z' || c = 'z') + sign * decimal ^ 2 * char ':' * decimal ^ 2

/-! ## Words of a pattern -/

theorem mem_oneOf : text ∈ oneOf p ↔ ∃ c, p c = true ∧ text = [c] := Iff.rfl

@[simp]
theorem cons_mem_oneOf : c :: rest ∈ oneOf p ↔ p c = true ∧ rest = [] := by
  simp [mem_oneOf]

@[simp]
theorem nil_not_mem_oneOf : [] ∉ oneOf p := by
  simp [mem_oneOf]

theorem mem_oneOf_mul :
    text ∈ oneOf p * L ↔ ∃ c rest, p c = true ∧ rest ∈ L ∧ text = c :: rest := by
  constructor
  · intro h
    obtain ⟨front, ⟨c, hc, rfl⟩, rest, hrest, rfl⟩ := Language.mem_mul.mp h
    exact ⟨c, rest, hc, hrest, rfl⟩
  · rintro ⟨c, rest, hc, hrest, rfl⟩
    exact Language.append_mem_mul (mem_oneOf.mpr ⟨c, hc, rfl⟩) hrest

@[simp]
theorem cons_mem_oneOf_mul : c :: rest ∈ oneOf p * L ↔ p c = true ∧ rest ∈ L := by
  simp [mem_oneOf_mul]

@[simp]
theorem nil_not_mem_oneOf_mul : [] ∉ oneOf p * L := by
  simp [mem_oneOf_mul]

theorem mem_opt : text ∈ opt L ↔ text = [] ∨ text ∈ L := Iff.rfl

theorem mem_opt_mul : text ∈ opt L * M ↔ text ∈ M ∨ text ∈ L * M := by
  rw [opt, add_mul, one_mul]
  rfl

/-- A part that is repeated stands there not at all, or once and then repeated. -/
theorem mem_star : text ∈ L∗ ↔ text = [] ∨ text ∈ L * L∗ := by
  conv_lhs => rw [← Language.one_add_self_mul_kstar_eq_kstar]
  rfl

theorem mem_star_oneOf : text ∈ (oneOf p)∗ ↔ ∀ c ∈ text, p c = true := by
  induction text with
  | nil => simp [mem_star]
  | cons c rest ih => simp [mem_star, ih]

/-! ## What a word does not start with -/

/-- No word of a language starts with a character of a class. -/
def Avoids (p : Char → Bool) (L : Language Char) : Prop :=
  ∀ text ∈ L, ∀ c ∈ text.head?, p c = false

theorem Avoids.not_mem (h : Avoids p L) (hc : p c = true) : c :: rest ∉ L :=
  fun hmem => Bool.noConfusion (hc.symm.trans (h _ hmem c rfl))

theorem Avoids.add (hL : Avoids p L) (hM : Avoids p M) : Avoids p (L + M) :=
  fun text hmem => hmem.elim (hL text) (hM text)

theorem Avoids.mul (h : Avoids p L) (hnil : [] ∉ L) : Avoids p (L * M) := by
  intro text hmem
  obtain ⟨front, hfront, rest, -, rfl⟩ := Language.mem_mul.mp hmem
  cases front with
  | nil => exact absurd hfront hnil
  | cons c more => exact h (c :: more) hfront

theorem avoids_one : Avoids p 1 := by
  rintro _ rfl
  simp

theorem Avoids.opt (h : Avoids p L) : Avoids p (opt L) := avoids_one.add h

theorem avoids_oneOf (h : ∀ c, q c = true → p c = false) : Avoids p (oneOf q) := by
  rintro _ ⟨c, hc, rfl⟩ _ ⟨⟩
  exact h c hc

theorem avoids_oneOf_mul (h : ∀ c, q c = true → p c = false) : Avoids p (oneOf q * L) :=
  (avoids_oneOf h).mul nil_not_mem_oneOf

theorem avoids_char (h : p c = false) : Avoids p (char c) :=
  avoids_oneOf fun d hd => by
    obtain rfl := of_decide_eq_true hd
    exact h

/-! ## Reading forward -/

/-- Where the words of one language are of a class of characters and those of the next one avoid it,
a text is cut at the end of the class. -/
theorem mem_mul_iff_span (hL : ∀ text ∈ L, ∀ c ∈ text, p c = true) (hM : Avoids p M) :
    text ∈ L * M ↔ text.takeWhile p ∈ L ∧ text.dropWhile p ∈ M := by
  constructor
  · intro h
    obtain ⟨front, hfront, rest, hrest, rfl⟩ := Language.mem_mul.mp h
    obtain ⟨htake, hdrop⟩ := Text.span_append (hL front hfront) (hM rest hrest)
    rw [htake, hdrop]
    exact ⟨hfront, hrest⟩
  · rintro ⟨htake, hdrop⟩
    rw [← List.takeWhile_append_dropWhile (p := p) (l := text)]
    exact Language.append_mem_mul htake hdrop

/-- A sign is taken off where no other sign can follow. -/
theorem mem_opt_sign_mul (hL : Avoids isSign L) : text ∈ opt sign * L ↔ dropSign text ∈ L := by
  rw [mem_opt_mul, sign]
  fun_cases dropSign text with
  | case1 rest => simp [hL.not_mem (c := '+') rfl, isSign]
  | case2 rest => simp [hL.not_mem (c := '-') rfl, isSign]
  | case3 text hplus hminus =>
      refine or_iff_left fun h => ?_
      obtain ⟨c, rest, hc, -, rfl⟩ := mem_oneOf_mul.mp h
      simp only [isSign, Bool.or_eq_true, decide_eq_true_eq] at hc
      rcases hc with rfl | rfl
      · exact hplus rest rfl
      · exact hminus rest rfl

/-- Fractions are taken off where neither a point nor a digit can follow. -/
theorem mem_opt_fraction_mul (hpoint : Avoids (· = '.') L) (hdigit : Avoids isDecimal L) :
    text ∈ opt fraction * L ↔ dropFraction text ∈ L := by
  rw [mem_opt_mul, fraction, char, decimal, mul_assoc, mul_assoc]
  fun_cases dropFraction text with
  | case1 d rest hd =>
      have hnot : '.' :: d :: rest ∉ L := hpoint.not_mem rfl
      have hall : rest.takeWhile isDecimal ∈ (oneOf isDecimal)∗ :=
        mem_star_oneOf.mpr fun c => List.mem_takeWhile_imp
      simp only [hnot, cons_mem_oneOf_mul, hd, decide_true, true_and, false_or]
      rw [mem_mul_iff_span (fun _ => mem_star_oneOf.mp) hdigit]
      exact and_iff_right hall
  | case2 d rest hd =>
      have hnot : '.' :: d :: rest ∉ L := hpoint.not_mem rfl
      simp [hnot, hd]
  | case3 text hother =>
      refine or_iff_left fun h => ?_
      obtain ⟨c, rest, hc, hrest, rfl⟩ := mem_oneOf_mul.mp h
      obtain ⟨d, more, -, -, rfl⟩ := mem_oneOf_mul.mp hrest
      obtain rfl := of_decide_eq_true hc
      exact hother d more rfl

/-! ## Groups of digits -/

theorem not_isDecimal_underscore : isDecimal '_' = false := by decide

theorem isGroupChar_of_isDecimal (h : isDecimal c = true) : isGroupChar c = true := by
  simp [isGroupChar, h]

theorem isSign_of_isGroupChar (h : isGroupChar c = true) : isSign c = false := by
  rw [Bool.eq_false_iff, ne_eq, isSign, Bool.or_eq_true, decide_eq_true_eq, decide_eq_true_eq]
  rintro (rfl | rfl) <;> exact absurd h (by decide)

/-- The digits behind the first one are read to their end. -/
theorem mem_moreDigits (hunderscore : digit '_' = false) :
    text ∈ moreDigits digit ↔ digitTail digit text = true := by
  have hunfold (text : List Char) : text ∈ moreDigits digit ↔
      text = [] ∨ text ∈ oneOf digit * moreDigits digit ∨
        text ∈ char '_' * (oneOf digit * moreDigits digit) := by
    rw [moreDigits, mem_star, mul_assoc, mem_opt_mul]
  fun_induction digitTail digit text with
  | case1 => simp [hunfold]
  | case2 c rest ih =>
      rw [hunfold]
      simp [char, hunderscore, ih]
  | case3 c rest hother ih =>
      -- An underscore without a digit behind it is no case of its own.
      have hnot : c :: rest ∉ char '_' * (oneOf digit * moreDigits digit) := by
        intro h
        obtain ⟨hc, hrest⟩ := cons_mem_oneOf_mul.mp h
        obtain ⟨d, more, -, -, rfl⟩ := mem_oneOf_mul.mp hrest
        exact hother d more (of_decide_eq_true hc) rfl
      rw [hunfold]
      simp [hnot, ih]

theorem mem_digits (hunderscore : digit '_' = false) :
    text ∈ digits digit ↔ digitGroup digit text = true := by
  cases text <;> simp [digits, digitGroup, mem_moreDigits hunderscore]

theorem isGroupChar_of_digitTail (h : digitTail isDecimal text = true) :
    ∀ c ∈ text, isGroupChar c = true := by
  fun_induction digitTail isDecimal text with
  | case1 => simp
  | case2 c rest ih =>
      obtain ⟨hc, hrest⟩ := Bool.and_eq_true_iff.mp h
      exact List.forall_mem_cons.mpr
        ⟨rfl, List.forall_mem_cons.mpr ⟨isGroupChar_of_isDecimal hc, ih hrest⟩⟩
  | case3 c rest hother ih =>
      obtain ⟨hc, hrest⟩ := Bool.and_eq_true_iff.mp h
      exact List.forall_mem_cons.mpr ⟨isGroupChar_of_isDecimal hc, ih hrest⟩

theorem isGroupChar_of_digitGroup (h : digitGroup isDecimal text = true) :
    ∀ c ∈ text, isGroupChar c = true := by
  cases text with
  | nil => cases h
  | cons c rest =>
      obtain ⟨hc, hrest⟩ := Bool.and_eq_true_iff.mp h
      exact List.forall_mem_cons.mpr ⟨isGroupChar_of_isDecimal hc, isGroupChar_of_digitTail hrest⟩

/-! ## Integers -/

theorem isDecimal_of_le (hfrom : '1' ≤ c) (hto : c ≤ '9') : isDecimal c = true := by
  have hlow : '1'.toNat ≤ c.toNat := hfrom
  have hhigh : c.toNat ≤ '9'.toNat := hto
  exact Text.inRanges_iff.mpr ⟨(0x30, 0x39), by decide, (Nat.le_succ 0x30).trans hlow, hhigh⟩

theorem mem_whole : text ∈ whole ↔ unsignedInt text = true := by
  rw [whole, char, Language.mem_add, mem_oneOf]
  fun_cases unsignedInt text with
  | case1 => simp
  | case2 c rest hother =>
      have hnot : ¬ (c = '0' ∧ rest = []) := fun ⟨hc, hrest⟩ => hother hc hrest
      simp [hnot, mem_moreDigits not_isDecimal_underscore]
  | case3 => simp

theorem isGroupChar_of_unsignedInt (h : unsignedInt text = true) :
    ∀ c ∈ text, isGroupChar c = true := by
  fun_cases unsignedInt text with
  | case1 => exact List.forall_mem_singleton.mpr (by decide)
  | case2 c rest hother =>
      simp only [unsignedInt, Bool.and_eq_true, decide_eq_true_eq] at h
      obtain ⟨⟨hfrom, hto⟩, hrest⟩ := h
      exact List.forall_mem_cons.mpr
        ⟨isGroupChar_of_isDecimal (isDecimal_of_le hfrom hto), isGroupChar_of_digitTail hrest⟩
  | case3 => cases h

theorem avoids_sign_whole : Avoids isSign whole := by
  refine .add (avoids_char rfl) (avoids_oneOf_mul fun c hc => ?_)
  simp only [Bool.and_eq_true, decide_eq_true_eq] at hc
  exact isSign_of_isGroupChar (isGroupChar_of_isDecimal (isDecimal_of_le hc.1 hc.2))

theorem isDecimalInt_iff : isDecimalInt text = true ↔ text ∈ decimalInt := by
  rw [decimalInt, mem_opt_sign_mul avoids_sign_whole, mem_whole, isDecimalInt]

theorem isBased_iff (mark : Char) (hunderscore : digit '_' = false) :
    isBased mark digit text = true ↔ text ∈ based mark digit := by
  rw [based, char, char]
  fun_cases isBased mark digit text with
  | case1 c rest => simp [mem_digits hunderscore]
  | case2 text hother =>
      refine iff_of_false Bool.false_ne_true fun h => ?_
      obtain ⟨c, rest, hc, hrest, rfl⟩ := mem_oneOf_mul.mp h
      obtain ⟨d, more, -, -, rfl⟩ := mem_oneOf_mul.mp hrest
      obtain rfl := of_decide_eq_true hc
      exact hother d more rfl

/-! ## Floats -/

theorem avoids_sign_digits : Avoids isSign (digits isDecimal) :=
  avoids_oneOf_mul fun _ hc => isSign_of_isGroupChar (isGroupChar_of_isDecimal hc)

theorem avoids_group_exponent : Avoids isGroupChar exponent := by
  refine avoids_oneOf_mul fun c hc => ?_
  simp only [Bool.or_eq_true, decide_eq_true_eq] at hc
  rcases hc with rfl | rfl <;> decide

theorem avoids_group_floatTail : Avoids isGroupChar floatTail :=
  .add ((avoids_char (by decide)).mul nil_not_mem_oneOf) avoids_group_exponent

theorem isExponent_iff : isExponent text = true ↔ text ∈ exponent := by
  rw [exponent]
  cases text with
  | nil => simp [isExponent]
  | cons c rest =>
      simp [isExponent, mem_opt_sign_mul avoids_sign_digits, mem_digits not_isDecimal_underscore]

theorem isFloatTail_iff : isFloatTail text = true ↔ text ∈ floatTail := by
  rw [floatTail, Language.mem_add, char]
  fun_cases isFloatTail text with
  | case1 rest places power =>
      have hdigits : ∀ text ∈ digits isDecimal, ∀ c ∈ text, isGroupChar c = true := fun text h =>
        isGroupChar_of_digitGroup ((mem_digits not_isDecimal_underscore).mp h)
      have hpoint : '.' :: rest ∉ exponent := by simp [exponent]
      rw [cons_mem_oneOf_mul, mem_mul_iff_span hdigits avoids_group_exponent.opt, mem_opt,
        mem_digits not_isDecimal_underscore, ← isExponent_iff, or_iff_left hpoint]
      simp [places, power]
  | case2 text hother =>
      refine isExponent_iff.trans (or_iff_right fun h => ?_).symm
      obtain ⟨c, rest, hc, -, rfl⟩ := mem_oneOf_mul.mp h
      obtain rfl := of_decide_eq_true hc
      exact hother rest rfl

theorem isFloat_iff : isFloat text = true ↔ text ∈ float := by
  have hsign : Avoids isSign (whole * floatTail) :=
    avoids_sign_whole.mul (by simp [mem_whole, unsignedInt])
  have hgroup : ∀ text ∈ whole, ∀ c ∈ text, isGroupChar c = true := fun text h =>
    isGroupChar_of_unsignedInt (mem_whole.mp h)
  rw [float, mem_opt_sign_mul hsign, mem_mul_iff_span hgroup avoids_group_floatTail, mem_whole,
    ← isFloatTail_iff, isFloat, Bool.and_eq_true]

theorem isSpecialFloat_iff : isSpecialFloat text = true ↔ text ∈ specialFloat := by
  have hname : Avoids isSign (word ['i', 'n', 'f'] + word ['n', 'a', 'n']) := by
    rintro _ (rfl | rfl) _ ⟨⟩ <;> rfl
  rw [specialFloat, mem_opt_sign_mul hname, isSpecialFloat, Bool.or_eq_true, decide_eq_true_eq,
    decide_eq_true_eq]
  rfl

/-! ## Dates and times -/

/-- A date takes ten characters. -/
theorem mem_date_mul : text ∈ date * L ↔ ∃ rest, date? text = some rest ∧ rest ∈ L := by
  simp only [date, decimal, char, pow_succ, pow_zero, one_mul, mul_assoc]
  fun_cases date? text with
  | case1 y₁ y₂ y₃ y₄ m₁ m₂ d₁ d₂ rest hall =>
      simp only [List.all_cons, List.all_nil, Bool.and_eq_true] at hall
      simp [hall]
  | case2 y₁ y₂ y₃ y₄ m₁ m₂ d₁ d₂ rest hnot =>
      refine iff_of_false (fun h => hnot ?_) (by simp)
      simp only [cons_mem_oneOf_mul] at h
      simp [h]
  | case3 text hother =>
      refine iff_of_false (fun h => ?_) (by simp)
      simp only [mem_oneOf_mul, decide_eq_true_eq] at h
      obtain ⟨_, _, -, ⟨_, _, -, ⟨_, _, -, ⟨_, _, -, ⟨_, _, rfl, ⟨_, _, -, ⟨_, _, -, ⟨_, _, rfl,
        ⟨_, _, -, ⟨_, _, -, -, rfl⟩, rfl⟩, rfl⟩, rfl⟩, rfl⟩, rfl⟩, rfl⟩, rfl⟩, rfl⟩, rfl⟩ := h
      exact hother _ _ _ _ _ _ _ _ _ rfl

/-- A time takes eight characters, and the fractions behind them. -/
theorem mem_time_mul (hpoint : Avoids (· = '.') L) (hdigit : Avoids isDecimal L) :
    text ∈ time * L ↔ ∃ rest, time? text = some rest ∧ rest ∈ L := by
  have hfraction {text : List Char} : text ∈ opt fraction * L ↔ dropFraction text ∈ L :=
    mem_opt_fraction_mul hpoint hdigit
  simp only [time, decimal, char, pow_succ, pow_zero, one_mul, mul_assoc]
  fun_cases time? text with
  | case1 h₁ h₂ m₁ m₂ s₁ s₂ rest hall =>
      simp only [List.all_cons, List.all_nil, Bool.and_eq_true] at hall
      simp [hall, hfraction]
  | case2 h₁ h₂ m₁ m₂ s₁ s₂ rest hnot =>
      refine iff_of_false (fun h => hnot ?_) (by simp)
      simp only [cons_mem_oneOf_mul] at h
      simp [h]
  | case3 text hother =>
      refine iff_of_false (fun h => ?_) (by simp)
      simp only [mem_oneOf_mul, decide_eq_true_eq] at h
      obtain ⟨_, _, -, ⟨_, _, -, ⟨_, _, rfl, ⟨_, _, -, ⟨_, _, -, ⟨_, _, rfl, ⟨_, _, -,
        ⟨_, _, -, -, rfl⟩, rfl⟩, rfl⟩, rfl⟩, rfl⟩, rfl⟩, rfl⟩, rfl⟩ := h
      exact hother _ _ _ _ _ _ _ rfl

theorem mem_dateTime_mul (hpoint : Avoids (· = '.') L) (hdigit : Avoids isDecimal L) :
    text ∈ dateTime * L ↔ ∃ rest, dateTime? text = some rest ∧ rest ∈ L := by
  rw [dateTime, mul_assoc, mul_assoc, mem_date_mul, separator]
  fun_cases dateTime? text with
  | case1 c rest hdate hseparator =>
      simp [hdate, mem_time_mul hpoint hdigit, hseparator, or_assoc]
  | case2 c rest hdate hnot => simp [hdate, hnot, or_assoc]
  | case3 hother =>
      refine iff_of_false ?_ (by simp)
      rintro ⟨rest, hdate, h⟩
      obtain ⟨c, more, -, -, rfl⟩ := mem_oneOf_mul.mp h
      exact hother c more hdate

theorem isOffset_iff : isOffset text = true ↔ text ∈ offset := by
  rw [offset, Language.mem_add]
  simp only [sign, decimal, char, pow_succ, pow_zero, one_mul, mul_assoc]
  fun_cases isOffset text with
  | case1 c => simp
  | case2 c h₁ h₂ m₁ m₂ => simp [isSign]
  | case3 text hletter hdistance =>
      refine iff_of_false Bool.false_ne_true fun h => ?_
      simp only [mem_oneOf, mem_oneOf_mul, decide_eq_true_eq] at h
      rcases h with ⟨_, -, rfl⟩ | h
      · exact hletter _ rfl
      · obtain ⟨_, _, -, ⟨_, _, -, ⟨_, _, -, ⟨_, _, rfl, ⟨_, _, -, ⟨_, -, rfl⟩, rfl⟩, rfl⟩, rfl⟩,
          rfl⟩, rfl⟩ := h
        exact hdistance _ _ _ _ _ rfl

theorem avoids_offset (hletter : p 'Z' = false ∧ p 'z' = false)
    (hsign : p '+' = false ∧ p '-' = false) : Avoids p offset := by
  rw [offset, sign, mul_assoc, mul_assoc]
  refine .add (avoids_oneOf fun c hc => ?_) (avoids_oneOf_mul fun c hc => ?_)
  · simp only [Bool.or_eq_true, decide_eq_true_eq] at hc
    rcases hc with rfl | rfl
    · exact hletter.1
    · exact hletter.2
  · simp only [isSign, Bool.or_eq_true, decide_eq_true_eq] at hc
    rcases hc with rfl | rfl
    · exact hsign.1
    · exact hsign.2

theorem isLocalDate_iff : isLocalDate text = true ↔ text ∈ date := by
  rw [← mul_one date, mem_date_mul, isLocalDate, decide_eq_true_eq]
  simp

theorem isLocalTime_iff : isLocalTime text = true ↔ text ∈ time := by
  rw [← mul_one time, mem_time_mul avoids_one avoids_one, isLocalTime, decide_eq_true_eq]
  simp

theorem isLocalDateTime_iff : isLocalDateTime text = true ↔ text ∈ dateTime := by
  rw [← mul_one dateTime, mem_dateTime_mul avoids_one avoids_one, isLocalDateTime,
    decide_eq_true_eq]
  simp

theorem isOffsetDateTime_iff : isOffsetDateTime text = true ↔ text ∈ dateTime * offset := by
  have hpoint : Avoids (· = '.') offset := avoids_offset (by decide) (by decide)
  have hdigit : Avoids isDecimal offset := avoids_offset (by decide) (by decide)
  rw [mem_dateTime_mul hpoint hdigit, isOffsetDateTime]
  cases dateTime? text with
  | none => simp
  | some rest => simp [isOffset_iff]

end Pattern

/-! ## Kinds and patterns -/

open Pattern

/-- The texts that are values of a kind, none if the kind is not one of values. -/
def TokenKind.pattern : TokenKind → Language Char
  | true => word ['t', 'r', 'u', 'e']
  | false => word ['f', 'a', 'l', 's', 'e']
  | hexInt => based 'x' isHexDigit
  | octInt => based 'o' fun c => '0' ≤ c && c ≤ '7'
  | binInt => based 'b' fun c => c = '0' || c = '1'
  | decimalInt => Pattern.decimalInt
  | float => Pattern.float
  | specialFloat => Pattern.specialFloat
  | offsetDateTime => dateTime * offset
  | localDateTime => dateTime
  | localDate => date
  | localTime => time
  | _ => 0

/-- The test of every shape decides the pattern of its kind. -/
theorem shapes_decide_patterns (text : List Char) :
    ∀ shape ∈ shapes, shape.2 text = true ↔ text ∈ shape.1.pattern := by
  have hword (word : List Char) : decide (text = word) = true ↔ text ∈ Pattern.word word :=
    decide_eq_true_iff
  simp only [shapes, List.forall_mem_cons]
  exact ⟨hword _, hword _, isBased_iff 'x' (by decide), isBased_iff 'o' (by decide),
    isBased_iff 'b' (by decide), isDecimalInt_iff, isFloat_iff, isSpecialFloat_iff,
    isOffsetDateTime_iff, isLocalDateTime_iff, isLocalDate_iff, isLocalTime_iff, by simp⟩

end ManifestLint.Toml
