import Mathlib.Data.Char
import Mathlib.Data.List.Lex
import Mathlib.Data.Nat.Digits.Lemmas
import Mathlib.Data.Prod.Lex
import Mathlib.Data.Sum.Order
import Mathlib.Order.WithBot
import ManifestLint.Proofs.Version.Refusals

/-!
# Precedence is a total preorder

A version is **canonical** if those of its identifiers that look like numbers are written
the usual way.  Each such identifier is then determined by its value, and versions can be
ranked: by their numbers and then by their tag, that by its identifiers one after the other,
and an identifier by its value or by its code points.  Ranks are linearly ordered, and
comparing canonical versions is comparing their ranks; this gives every law of the order at
once.

* `IsNumeral.eq_of_value`: two numerals of one number are the same.
* `compare_ranks`, `compareTexts_ranks`: comparing is comparing ranks.
* `rank_inj`: what versions of one rank have in common.
* `compareTexts_preorder`: the laws of precedence.
-/

namespace ManifestLint.Version

/-! ## Canonical versions -/

/-- A number is written the usual way: in ASCII digits, without a zero in front. -/
def IsNumeral (identifier : List Char) : Prop :=
  (∀ c ∈ identifier, c.isDigit = true) ∧ (identifier.head? = some '0' → identifier = ['0'])

/-- The identifiers that look like numbers are written the usual way. -/
def Canonical (version : Version) : Prop :=
  ∀ identifier ∈ version.identifiers, isNumeric identifier = true → IsNumeral identifier

/-- If a text denotes a version, it is a canonical one. -/
def TextCanonical (text : String) : Prop :=
  ∀ version ∈ parse? text, version.Canonical

instance (identifier : List Char) : Decidable (IsNumeral identifier) :=
  have : Decidable (∀ c ∈ identifier, c.isDigit = true) := List.decidableBAll _ _
  inferInstanceAs (Decidable (_ ∧ _))

instance (version : Version) : Decidable version.Canonical := List.decidableBAll _ _

instance (text : String) : Decidable (TextCanonical text) :=
  inferInstanceAs (Decidable (∀ version ∈ parse? text, version.Canonical))

/-! ## Numbers -/

/-- The values of digits, the last one first. -/
def digitValues (digits : List Char) : List Nat :=
  (digits.map fun c => c.toNat - '0'.toNat).reverse

theorem ofDigits_digitValues (digits : List Char) :
    Nat.ofDigits 10 (digitValues digits) = Nat.ofDigitChars 10 digits 0 := by
  induction digits using List.reverseRecOn with
  | nil => rfl
  | append_singleton digits c ih =>
      rw [Nat.ofDigitChars_append, ← ih, digitValues, List.map_append, List.reverse_append]
      simp [digitValues, Nat.ofDigits_cons, Nat.ofDigitChars_cons, add_comm]

theorem value_of_isDigit {c : Char} (h : c.isDigit = true) :
    c.toNat = '0'.toNat + (c.toNat - '0'.toNat) ∧ c.toNat - '0'.toNat < 10 := by
  have hrange : 0x30 ≤ c.toNat ∧ c.toNat ≤ 0x39 := Char.isDigit_iff_toNat.mp h
  have hzero : '0'.toNat = 0x30 := rfl
  omega

/-- Digits are found again from their values. -/
theorem map_digitValues {digits : List Char} (h : ∀ c ∈ digits, c.isDigit = true) :
    (digitValues digits).reverse.map (fun value => Char.ofNat ('0'.toNat + value)) = digits := by
  rw [digitValues, List.reverse_reverse, List.map_map]
  refine (List.map_congr_left fun c hc => ?_).trans (List.map_id digits)
  rw [Function.comp_apply, ← (value_of_isDigit (h c hc)).1, Char.ofNat_toNat, id]

/-- A numeral other than zero has the digits of its number. -/
theorem digits_of_isNumeral {identifier : List Char} (h : IsNumeral identifier)
    (hzero : identifier ≠ ['0']) :
    Nat.digits 10 (Nat.ofDigitChars 10 identifier 0) = digitValues identifier := by
  rw [← ofDigits_digitValues]
  apply Nat.digits_ofDigits 10 (by decide)
  · intro value hvalue
    obtain ⟨c, hc, rfl⟩ := List.mem_map.mp (List.mem_reverse.mp hvalue)
    exact (value_of_isDigit (h.1 c hc)).2
  · intro hne
    cases identifier with
    | nil => exact absurd rfl hne
    | cons c rest =>
        have hc := value_of_isDigit (h.1 c List.mem_cons_self)
        have hlast : (digitValues (c :: rest)).getLast hne = c.toNat - '0'.toNat := by
          simp [digitValues]
        rw [hlast]
        intro hnone
        have hchar : c = '0' := Char.toNat_inj.mp (by omega)
        exact hzero (h.2 (congrArg some hchar))

/-- Two numerals of one number are the same. -/
theorem IsNumeral.eq_of_value {a b : List Char} (ha : IsNumeral a) (hb : IsNumeral b)
    (hne : a ≠ [] ∧ b ≠ [])
    (hvalue : Nat.ofDigitChars 10 a 0 = Nat.ofDigitChars 10 b 0) : a = b := by
  have hzero {digits : List Char} (h : IsNumeral digits) (hne : digits ≠ [])
      (hnone : Nat.ofDigitChars 10 digits 0 = 0) : digits = ['0'] := by
    by_contra hother
    have hdigits := digits_of_isNumeral h hother
    rw [hnone, Nat.digits_zero, digitValues] at hdigits
    exact hne (List.map_eq_nil_iff.mp (List.reverse_eq_nil_iff.mp hdigits.symm))
  by_cases hnone : Nat.ofDigitChars 10 a 0 = 0
  · rw [hzero ha hne.1 hnone, hzero hb hne.2 (hvalue ▸ hnone)]
  · have hother {digits : List Char} (h : Nat.ofDigitChars 10 digits 0 ≠ 0) : digits ≠ ['0'] := by
      rintro rfl
      exact h rfl
    have hvalues : digitValues a = digitValues b := by
      rw [← digits_of_isNumeral ha (hother hnone), hvalue,
        digits_of_isNumeral hb (hother (hvalue ▸ hnone))]
    rw [← map_digitValues ha.1, hvalues, map_digitValues hb.1]

/-! ## Ranks -/

/-- The rank of an identifier: numbers by value, below all others, and those by code points. -/
def identifierRank (identifier : List Char) : ℕ ⊕ₗ List Char :=
  if isNumeric identifier then Sum.inlₗ (Nat.ofDigitChars 10 identifier 0)
  else Sum.inrₗ identifier

/-- The rank of a pre-release tag: identifier by identifier, and without a tag above all. -/
def tagRank (tag : List Char) : WithTop (List (ℕ ⊕ₗ List Char)) :=
  if tag.isEmpty then ⊤ else ((tag.splitOn '.').map identifierRank : List (ℕ ⊕ₗ List Char))

/-- The rank of a version: its three numbers, then its tag. -/
def rank (version : Version) : ℕ ×ₗ ℕ ×ₗ ℕ ×ₗ WithTop (List (ℕ ⊕ₗ List Char)) :=
  toLex (version.major, toLex (version.minor, toLex (version.patch,
    tagRank version.prerelease.toList)))

/-- The rank of a text: that of its version, and without a version below all. -/
def textRank (text : String) : WithBot (ℕ ×ₗ ℕ ×ₗ ℕ ×ₗ WithTop (List (ℕ ⊕ₗ List Char))) :=
  (parse? text).map rank

section

variable {α β : Type} [LinearOrder α] [LinearOrder β]

/-- Of two different values the lower one is below. -/
theorem compares_of_ne {a b : α} (hne : a ≠ b) :
    (if a < b then Ordering.lt else .gt).Compares a b := by
  split
  · next hlt => exact hlt
  · next hle => exact (not_lt.mp hle).lt_of_ne hne.symm

/-- Pairs are compared by what comes first in them. -/
theorem compares_toLex {first second : Ordering} {a b : α} {x y : β} (hfirst : first.Compares a b)
    (hsecond : second.Compares x y) :
    (first.then second).Compares (toLex (a, x)) (toLex (b, y)) := by
  cases first with
  | lt => exact Prod.Lex.toLex_lt_toLex.mpr (.inl hfirst)
  | gt => exact Prod.Lex.toLex_lt_toLex.mpr (.inl hfirst)
  | eq =>
      obtain rfl : a = b := hfirst
      cases second with
      | lt => exact Prod.Lex.toLex_lt_toLex.mpr (.inr ⟨rfl, hsecond⟩)
      | gt => exact Prod.Lex.toLex_lt_toLex.mpr (.inr ⟨rfl, hsecond⟩)
      | eq => exact congrArg (fun z => toLex (a, z)) hsecond

/-- Lists with one beginning are compared by what follows it. -/
theorem compares_cons {order : Ordering} (a : α) {x y : List α} (h : order.Compares x y) :
    order.Compares (a :: x) (a :: y) := by
  cases order with
  | lt => exact List.Lex.cons h
  | gt => exact List.Lex.cons h
  | eq => exact congrArg (a :: ·) h

/-- Lists that begin with different values are compared by these. -/
theorem compares_cons_of_ne {order : Ordering} {a b : α} (x y : List α) (hne : a ≠ b)
    (h : order.Compares a b) : order.Compares (a :: x) (b :: y) := by
  cases order with
  | lt => exact List.Lex.rel h
  | gt => exact List.Lex.rel h
  | eq => exact absurd h hne

/-- A value put on top changes nothing for those below it. -/
theorem compares_coe_withTop {order : Ordering} {a b : α} (h : order.Compares a b) :
    order.Compares (a : WithTop α) b := by
  cases order with
  | lt => exact WithTop.coe_lt_coe.mpr h
  | gt => exact WithTop.coe_lt_coe.mpr h
  | eq => exact congrArg WithTop.some h

/-- A value put at the bottom changes nothing for those above it. -/
theorem compares_coe_withBot {order : Ordering} {a b : α} (h : order.Compares a b) :
    order.Compares (a : WithBot α) b := by
  cases order with
  | lt => exact WithBot.coe_lt_coe.mpr h
  | gt => exact WithBot.coe_lt_coe.mpr h
  | eq => exact congrArg WithBot.some h

end

section

variable {a b : List Char}

/-- Identifiers of one rank are the same. -/
theorem identifierRank_inj (ha : isNumeric a = true → IsNumeral a)
    (hb : isNumeric b = true → IsNumeral b) :
    identifierRank a = identifierRank b ↔ a = b := by
  refine ⟨fun h => ?_, congrArg _⟩
  have hne {digits : List Char} (h : isNumeric digits = true) : digits ≠ [] := by
    rintro rfl
    cases h
  cases hnumeric : isNumeric a <;> cases hother : isNumeric b
  · simpa [identifierRank, hnumeric, hother] using h
  · simp [identifierRank, hnumeric, hother] at h
  · simp [identifierRank, hnumeric, hother] at h
  · have hvalue : Nat.ofDigitChars 10 a 0 = Nat.ofDigitChars 10 b 0 := by
      simpa [identifierRank, hnumeric, hother] using h
    exact (ha hnumeric).eq_of_value (hb hother) ⟨hne hnumeric, hne hother⟩ hvalue

/-- Comparing two different identifiers is comparing their ranks. -/
theorem compareIdentifiers_eq (ha : isNumeric a = true → IsNumeral a)
    (hb : isNumeric b = true → IsNumeral b) (hne : a ≠ b) :
    ∃ order, compareIdentifiers a b = .ok order ∧
      order.Compares (identifierRank a) (identifierRank b) := by
  have hrank : identifierRank a ≠ identifierRank b := fun h => hne ((identifierRank_inj ha hb).mp h)
  have hnumber {digits : List Char} (h : isNumeric digits = true → IsNumeral digits)
      (hdigits : isNumeric digits = true) :
      identifierNumber digits = .ok (Nat.ofDigitChars 10 digits 0) := by
    rw [identifierNumber, decimalNumber?_of_isDigit (h hdigits).1]
  refine ⟨_, ?_, compares_of_ne hrank⟩
  unfold compareIdentifiers
  cases hnumeric : isNumeric a <;> cases hother : isNumeric b
  · simp only [identifierRank, hnumeric, hother, Bool.false_eq_true, if_false,
      Sum.Lex.inr_lt_inr_iff]
    rfl
  · simp [identifierRank, hnumeric, hother, pure, Except.pure]
  · simp [identifierRank, hnumeric, hother, pure, Except.pure]
  · simp only [identifierRank, hnumeric, hother, if_true, Sum.Lex.inl_lt_inl_iff,
      hnumber ha hnumeric, hnumber hb hother]
    rfl

end

/-- Comparing lists of identifiers is comparing the lists of their ranks. -/
theorem compareTags_ranks {xs ys : List (List Char)}
    (hxs : ∀ x ∈ xs, isNumeric x = true → IsNumeral x)
    (hys : ∀ y ∈ ys, isNumeric y = true → IsNumeral y) :
    ∃ order, compareTags xs ys = .ok order ∧
      order.Compares (xs.map identifierRank) (ys.map identifierRank) := by
  induction xs generalizing ys with
  | nil =>
      cases ys with
      | nil => exact ⟨.eq, rfl, rfl⟩
      | cons y ys => exact ⟨.lt, rfl, List.Lex.nil⟩
  | cons x xs ih =>
      cases ys with
      | nil => exact ⟨.gt, rfl, List.Lex.nil⟩
      | cons y ys =>
          obtain ⟨hx, hmore⟩ := List.forall_mem_cons.mp hxs
          obtain ⟨hy, hothers⟩ := List.forall_mem_cons.mp hys
          unfold compareTags
          by_cases hsame : x = y
          · subst hsame
            obtain ⟨order, hresult, horder⟩ := ih hmore hothers
            exact ⟨order, (if_pos rfl).trans hresult, compares_cons _ horder⟩
          · obtain ⟨order, hresult, horder⟩ := compareIdentifiers_eq hx hy hsame
            have hrank := mt (identifierRank_inj hx hy).mp hsame
            exact ⟨order, (if_neg hsame).trans hresult, compares_cons_of_ne _ _ hrank horder⟩

/-- Comparing pre-release tags is comparing their ranks. -/
theorem comparePrerelease_ranks {a b : List Char}
    (ha : ∀ x ∈ a.splitOn '.', isNumeric x = true → IsNumeral x)
    (hb : ∀ y ∈ b.splitOn '.', isNumeric y = true → IsNumeral y) :
    ∃ order, comparePrerelease a b = .ok order ∧ order.Compares (tagRank a) (tagRank b) := by
  unfold comparePrerelease
  by_cases hsame : a = b
  · exact ⟨.eq, if_pos hsame, congrArg tagRank hsame⟩
  · rw [if_neg hsame]
    cases a with
    | nil =>
        have hother : b.isEmpty = false := by
          rw [List.isEmpty_eq_false_iff]
          exact Ne.symm hsame
        refine ⟨.gt, rfl, ?_⟩
        simp [tagRank, hother]
    | cons c rest =>
        cases b with
        | nil => exact ⟨.lt, rfl, by simp [tagRank]⟩
        | cons d more =>
            obtain ⟨order, hresult, horder⟩ := compareTags_ranks ha hb
            exact ⟨order, hresult, compares_coe_withTop horder⟩

/-- Versions are compared by their numbers and then by whatever ranks their tags. -/
theorem compares_triple {τ : Type} [LinearOrder τ] {tags : Ordering} {x y : τ} (a b : Version)
    (htags : tags.Compares x y) :
    ((compareTriple a b).then tags).Compares
      (toLex (a.major, toLex (a.minor, toLex (a.patch, x))))
      (toLex (b.major, toLex (b.minor, toLex (b.patch, y)))) := by
  rw [compareTriple, Ordering.then_assoc, Ordering.then_assoc]
  exact compares_toLex ((compare_iff ..).mp rfl)
    (compares_toLex ((compare_iff ..).mp rfl) (compares_toLex ((compare_iff ..).mp rfl) htags))

/-- **Comparing versions** is comparing their ranks. -/
theorem compare_ranks {a b : Version} (ha : a.Canonical) (hb : b.Canonical) :
    ∃ order, compare a b = .ok order ∧ order.Compares (rank a) (rank b) := by
  obtain ⟨tags, hresult, htags⟩ := comparePrerelease_ranks ha hb
  refine ⟨_, ?_, compares_triple a b htags⟩
  unfold compare
  cases compareTriple a b with
  | eq => exact hresult
  | lt => rfl
  | gt => rfl

theorem map_identifierRank_inj {xs ys : List (List Char)}
    (hxs : ∀ x ∈ xs, isNumeric x = true → IsNumeral x)
    (hys : ∀ y ∈ ys, isNumeric y = true → IsNumeral y)
    (h : xs.map identifierRank = ys.map identifierRank) : xs = ys := by
  induction xs generalizing ys with
  | nil => exact (List.map_eq_nil_iff.mp h.symm).symm
  | cons x xs ih =>
      cases ys with
      | nil => cases h
      | cons y ys =>
          obtain ⟨hx, hmore⟩ := List.forall_mem_cons.mp hxs
          obtain ⟨hy, hothers⟩ := List.forall_mem_cons.mp hys
          obtain ⟨hhead, htail⟩ := List.cons.inj h
          rw [(identifierRank_inj hx hy).mp hhead, ih hmore hothers htail]

/-- Tags of one rank are the same. -/
theorem tagRank_inj {a b : List Char}
    (ha : ∀ x ∈ a.splitOn '.', isNumeric x = true → IsNumeral x)
    (hb : ∀ y ∈ b.splitOn '.', isNumeric y = true → IsNumeral y) :
    tagRank a = tagRank b ↔ a = b := by
  refine ⟨fun h => ?_, congrArg _⟩
  cases a with
  | nil =>
      cases b with
      | nil => rfl
      | cons d more => cases h
  | cons c rest =>
      cases b with
      | nil => cases h
      | cons d more =>
          have hsplit := map_identifierRank_inj ha hb (WithTop.coe_injective h)
          have hback : ['.'].intercalate ((c :: rest).splitOn '.') = c :: rest :=
            List.intercalate_splitOn '.'
          rw [← hback, hsplit, List.intercalate_splitOn]

/-- Versions of one rank agree in their numbers and their tag. -/
theorem rank_inj {a b : Version} (ha : a.Canonical) (hb : b.Canonical) :
    rank a = rank b ↔ a.major = b.major ∧ a.minor = b.minor ∧ a.patch = b.patch ∧
      a.prerelease = b.prerelease := by
  rw [rank, rank, ← String.toList_inj, ← tagRank_inj ha hb]
  simp only [toLex_inj, Prod.mk.injEq]

/-- The value of the version that a text denotes, or one below all values if it denotes none. -/
def valueOfText {α : Type} (value : Version → α) (text : String) : WithBot α :=
  (parse? text).map value

/-- Texts are compared as the versions that they denote are. -/
theorem compareTexts_compares {α : Type} [LinearOrder α] {value : Version → α} {a b : String}
    (h : ∀ v w, parse? a = some v → parse? b = some w →
      ∃ order, compare v w = .ok order ∧ order.Compares (value v) (value w)) :
    ∃ order, compareTexts a b = .ok order ∧
      order.Compares (valueOfText value a) (valueOfText value b) := by
  unfold compareTexts valueOfText
  cases hfirst : parse? a with
  | none =>
      cases hsecond : parse? b with
      | none => exact ⟨.eq, rfl, rfl⟩
      | some w => exact ⟨.lt, rfl, WithBot.bot_lt_coe _⟩
  | some v =>
      cases hsecond : parse? b with
      | none => exact ⟨.gt, rfl, WithBot.bot_lt_coe _⟩
      | some w =>
          obtain ⟨order, hresult, horder⟩ := h v w hfirst hsecond
          exact ⟨order, hresult, compares_coe_withBot horder⟩

/-- Comparing texts is comparing their ranks. -/
theorem compareTexts_ranks {a b : String} (ha : TextCanonical a) (hb : TextCanonical b) :
    ∃ order, compareTexts a b = .ok order ∧ order.Compares (textRank a) (textRank b) :=
  compareTexts_compares fun v w hfirst hsecond => compare_ranks (ha v hfirst) (hb w hsecond)

/-- **Precedence.**  On texts in which every identifier of digits is written the usual way,
comparing never fails and is a total preorder: the other way round it gives the opposite, and not
above is transitive.  Texts that denote no version are equal to each other and below those that
do, and two versions are equal exactly if their numbers and tags are; metadata does not count. -/
theorem compareTexts_preorder {a b c : String} (ha : TextCanonical a) (hb : TextCanonical b)
    (hc : TextCanonical c) :
    (∃ order, compareTexts a b = .ok order ∧ compareTexts b a = .ok order.swap) ∧
      (∀ first second, compareTexts a b = .ok first → first.isLE = true →
        compareTexts b c = .ok second → second.isLE = true →
          ∃ third, compareTexts a c = .ok third ∧ third.isLE = true) ∧
      (parse? a = none → compareTexts a b = .ok (if parse? b = none then .eq else .lt)) ∧
      ∀ v w, parse? a = some v → parse? b = some w →
        (compareTexts a b = .ok .eq ↔ v.major = w.major ∧ v.minor = w.minor ∧
          v.patch = w.patch ∧ v.prerelease = w.prerelease) := by
  obtain ⟨order, hresult, horder⟩ := compareTexts_ranks ha hb
  have hle {order : Ordering} {a b : String} (h : order.Compares (textRank a) (textRank b)) :
      order.isLE = true ↔ textRank a ≤ textRank b := by
    rw [← h.ne_gt, Ordering.isLE_iff_ne_gt]
  refine ⟨?_, ?_, ?_, ?_⟩
  · obtain ⟨back, hback, hopposite⟩ := compareTexts_ranks hb ha
    have hswap : back = order.swap := hopposite.inj (Ordering.compares_swap.mpr horder)
    exact ⟨order, hresult, hswap ▸ hback⟩
  · intro first second hfirst hlower hsecond hupper
    obtain ⟨upper, hnext, hcompares⟩ := compareTexts_ranks hb hc
    obtain ⟨third, hthird, hends⟩ := compareTexts_ranks ha hc
    obtain rfl : order = first := Except.ok.inj (hresult.symm.trans hfirst)
    obtain rfl : upper = second := Except.ok.inj (hnext.symm.trans hsecond)
    have hranks := ((hle horder).mp hlower).trans ((hle hcompares).mp hupper)
    exact ⟨third, hthird, (hle hends).mpr hranks⟩
  · intro hnone
    rw [compareTexts, hnone]
    cases parse? b <;> rfl
  · intro v w hv hw
    have hranks : order = .eq ↔ rank v = rank w := by
      rw [horder.eq_eq, textRank, textRank, hv, hw]
      exact WithBot.coe_inj
    rw [hresult, Except.ok.injEq, hranks]
    exact rank_inj (ha v hv) (hb w hw)

/-- Numbers within tags go by value, and a release stands above its pre-releases. -/
theorem compareTexts_preorder_candidates :
    TextCanonical "v1.0-rc.9+exp" ∧ TextCanonical "1.0.0-rc.10" ∧ TextCanonical "1.0.0" ∧
      compareTexts "v1.0-rc.9+exp" "1.0.0-rc.10" = .ok .lt ∧
      compareTexts "1.0.0-rc.10" "1.0.0" = .ok .lt ∧
      ∃ third, compareTexts "v1.0-rc.9+exp" "1.0.0" = .ok third ∧ third.isLE = true := by
  have hfirst : TextCanonical "v1.0-rc.9+exp" := by decide
  have hsecond : TextCanonical "1.0.0-rc.10" := by decide
  have hthird : TextCanonical "1.0.0" := by decide
  have hlower : compareTexts "v1.0-rc.9+exp" "1.0.0-rc.10" = .ok .lt := by decide
  have hupper : compareTexts "1.0.0-rc.10" "1.0.0" = .ok .lt := by decide
  have htransitive := (compareTexts_preorder hfirst hsecond hthird).2.1
  exact ⟨hfirst, hsecond, hthird, hlower, hupper, htransitive _ _ hlower rfl hupper rfl⟩

end ManifestLint.Version
