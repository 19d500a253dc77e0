import Mathlib.Algebra.GroupWithZero.Nat
import ManifestLint.Text.Lower
import ManifestLint.Proofs.Text.Lines

/-!
# Texts in lower case

The lower-case form of a character is found in a table of runs of letters, each of which is
shifted some way.  No letter is shifted to another one that would be shifted in turn, so
the lower-case form of a character is its own lower-case form.  Letters are not blank,
before they are shifted and after it.

A text in lower case stays as it is if it is put in lower case again, and so does every
part of it.  Slashes and blanks are neither lost nor brought in.  They also end words, so
that a sigma before one cannot be told from one at the end of the text, and what stands
before and behind can be put in lower case separately.

* `isLower_of_mem_lowerChar`: once is enough.
* `isBlank_eq_of_mem_lowerChar`: blanks stay blank, and nothing else becomes blank.
* `slash_not_mem_lowerChars`: lower case brings in no slash.
* `endsWords_of_isBlank`, `endsWords_slash`: blanks and slashes end words.
* `lowerFrom_eq_self`: what is in lower case stays as it is.
* `lowerFrom_append_cons`, `exists_of_lowerFrom_eq`: lower case on both sides of a
  character that ends words, and of a slash.
* `trim_lowerChars`: blanks may be trimmed before or after.
-/

namespace ManifestLint

namespace Text

variable {c d : Char}

/-! ## What the tables say -/

/-- The first and the last code point that the letters of a run are shifted to. -/
def shifted (run : Nat × Nat × Nat × Int) : Nat × Nat :=
  ((run.1 + run.2.2.2).toNat, (run.2.1 + run.2.2.2).toNat)

/-- No run is shifted to a capital letter of ASCII or to the dotted capital I, and none reaches
down to ASCII. -/
theorem shifted_lowerRuns : ∀ run ∈ lowerRuns, 0x80 ≤ run.1 ∧ run.1 ≤ run.2.1 ∧
    (run.2.2.1 = 1 ∨ run.2.2.1 = 2) ∧ 'Z'.toNat < (shifted run).1 ∧
    (shifted run).1 ≤ (shifted run).2 ∧
    ((shifted run).2 < 0x130 ∨ 0x130 < (shifted run).1) := by
  decide +kernel

/-- Two stretches of code points have none in common. -/
def disjoint (range other : Nat × Nat) : Bool :=
  Nat.blt range.2 other.1 || Nat.blt other.2 range.1

/-- Letters are not blank, before they are shifted and after it. -/
theorem disjoint_lowerRuns : ∀ run ∈ lowerRuns,
    blankRanges.all (disjoint (run.1, run.2.1)) = true ∧
      blankRanges.all (disjoint (shifted run)) = true := by
  decide +kernel

/-- Blanks are not part of words. -/
theorem disjoint_blankRanges : (blankRanges.all fun range =>
    casedRanges.all (disjoint range) && caseIgnorableRanges.all (disjoint range)) = true := by
  decide +kernel

theorem ascii_toLower : ∀ code < 0x80, (Char.ofNat code).toLower.toLower =
      (Char.ofNat code).toLower ∧ (Char.ofNat code).toLower.toNat < 0x80 ∧
    isBlank (Char.ofNat code).toLower = isBlank (Char.ofNat code) ∧
    (isBlank (Char.ofNat code) = true → (Char.ofNat code).toLower = Char.ofNat code) := by
  decide

/-- No letter of the one run is shifted to a letter of the other: the second one has passed
over it, or counts in another parity. -/
def apart (run other : Nat × Nat × Nat × Int) : Bool :=
  Nat.blt (shifted run).2 other.1 || Nat.blt other.2.1 (shifted run).1 ||
    (other.2.2.1 == 2 && (run.2.2.1 == 2 || run.1 == run.2.1) &&
      (shifted run).1 % 2 != other.1 % 2)

theorem apart_lowerRuns : (lowerRuns.all fun run => lowerRuns.all (apart run)) = true := by
  decide +kernel

/-! ## Single characters -/

/-- A code point that is none gives the null character. -/
theorem toNat_ofNat_or (code : Nat) :
    (Char.ofNat code).toNat = code ∨ Char.ofNat code = Char.ofNat 0 := by
  by_cases hvalid : code.isValidChar
  · left
    rw [Char.ofNat, dif_pos hvalid]
    rfl
  · right
    rw [Char.ofNat, dif_neg hvalid]
    rfl

/-- A letter of a run. -/
def Within (run : Nat × Nat × Nat × Int) (code : Nat) : Prop :=
  run.1 ≤ code ∧ code ≤ run.2.1 ∧ (code - run.1) % run.2.2.1 = 0

/-- The lower-case form of a character, by where it is found. -/
inductive LowerForm (c : Char) : List Char → Prop where
  | ascii (hascii : c.toNat < 0x80) : LowerForm c [c.toLower]
  | dotted (hdotted : c.toNat = 0x130) : LowerForm c ['i', Char.ofNat 0x307]
  | shifted {run : Nat × Nat × Nat × Int} (hrun : run ∈ lowerRuns) (hwithin : Within run c.toNat) :
    LowerForm c [Char.ofNat (c.toNat + run.2.2.2).toNat]
  | other (hlarge : 0x80 ≤ c.toNat) (hnone : ∀ run ∈ lowerRuns, ¬ Within run c.toNat) :
    LowerForm c [c]

theorem lowerForm (c : Char) : LowerForm c (lowerChar c) := by
  unfold lowerChar
  split
  · next hascii => exact .ascii hascii
  · next hlarge =>
      split
      · next hdotted => exact .dotted hdotted
      · split
        · next run hfind =>
            have hwithin := List.find?_some hfind
            simp only [Bool.and_eq_true, decide_eq_true_eq, beq_iff_eq] at hwithin
            exact .shifted (List.mem_of_find?_eq_some hfind) ⟨hwithin.1.1, hwithin.1.2, hwithin.2⟩
        · next hfind =>
            refine .other (Nat.le_of_not_lt hlarge) ?_
            intro run hrun hwithin
            have hnot := List.find?_eq_none.mp hfind run hrun
            simp only [Bool.and_eq_true, decide_eq_true_eq, beq_iff_eq] at hnot
            exact hnot ⟨⟨hwithin.1, hwithin.2.1⟩, hwithin.2.2⟩

/-- Lower case leaves the character as it is, wherever it stands. -/
def IsLower (c : Char) : Prop := lowerChar c = [c] ∧ c.toNat ≠ 0x3A3

theorem isLower_toLower (h : c.toNat < 0x80) : IsLower c.toLower := by
  have htable := ascii_toLower c.toNat h
  rw [Char.ofNat_toNat] at htable
  obtain ⟨hagain, hsmall, -, -⟩ := htable
  refine ⟨?_, by omega⟩
  rw [lowerChar, if_pos hsmall, hagain]

/-- A letter is shifted to its place in the run. -/
theorem shifted_bounds {run : Nat × Nat × Nat × Int} {code : Nat} (hrun : run ∈ lowerRuns)
    (hwithin : Within run code) :
    ((code + run.2.2.2).toNat : Int) = code + run.2.2.2 ∧
      (shifted run).1 ≤ (code + run.2.2.2).toNat ∧ (code + run.2.2.2).toNat ≤ (shifted run).2 := by
  obtain ⟨-, -, -, hfirst, -, -⟩ := shifted_lowerRuns run hrun
  obtain ⟨hlow, hhigh, -⟩ := hwithin
  have hz : 'Z'.toNat = 90 := rfl
  simp only [shifted] at hfirst ⊢
  omega

/-- A letter that was shifted is in no run. -/
theorem not_within_of_shifted {run other : Nat × Nat × Nat × Int} {code : Nat}
    (hrun : run ∈ lowerRuns) (hother : other ∈ lowerRuns) (hwithin : Within run code) :
    ¬ Within other (code + run.2.2.2).toNat := by
  intro hagain
  obtain ⟨hcode, hlow, hhigh⟩ := shifted_bounds hrun hwithin
  obtain ⟨-, -, -, hfirst, -, -⟩ := shifted_lowerRuns run hrun
  have hapart : apart run other = true := List.all_eq_true.mp
    (List.all_eq_true.mp apart_lowerRuns run hrun) other hother
  obtain ⟨hfrom, hto, hstep⟩ := hwithin
  obtain ⟨hotherFrom, hotherTo, hotherStep⟩ := hagain
  have hz : 'Z'.toNat = 90 := rfl
  simp only [apart, Bool.or_eq_true, Bool.and_eq_true, Nat.blt_eq, beq_iff_eq, bne_iff_ne] at hapart
  rcases hapart with (hbefore | hbehind) | ⟨⟨htwo, hsame⟩, hparity⟩
  · omega
  · omega
  · rw [htwo] at hotherStep
    -- Both runs count by two, or the first one has one letter only.
    have heven : (code - run.1) % 2 = 0 := by
      rcases hsame with hsame | hsingle
      · rw [← hsame]
        exact hstep
      · omega
    simp only [shifted] at hparity hfirst
    omega

theorem isLower_of_shifted {run : Nat × Nat × Nat × Int} {code : Nat} (hrun : run ∈ lowerRuns)
    (hwithin : Within run code) : IsLower (Char.ofNat (code + run.2.2.2).toNat) := by
  have hnone : ∀ other ∈ lowerRuns, ¬ Within other (code + run.2.2.2).toNat :=
    fun other hother => not_within_of_shifted hrun hother hwithin
  obtain ⟨-, hlow, hhigh⟩ := shifted_bounds hrun hwithin
  obtain ⟨-, -, -, hfirst, -, hdotted⟩ := shifted_lowerRuns run hrun
  have hz : 'Z'.toNat = 90 := rfl
  have hrange : (0x3A3, 0x3AB, 1, 32) ∈ lowerRuns := by decide
  generalize (code + run.2.2.2).toNat = image at hnone hlow hhigh
  have hsigma : image ≠ 0x3A3 := by
    rintro rfl
    exact hnone _ hrange ⟨by decide, by decide, by decide⟩
  rcases toNat_ofNat_or image with hvalue | hzero
  · refine ⟨?_, by omega⟩
    have hform := lowerForm (Char.ofNat image)
    generalize lowerChar (Char.ofNat image) = form at hform
    cases hform with
    | ascii hascii =>
        refine congrArg (fun c => [c]) ?_
        delta Char.toLower
        rw [dif_neg]
        rintro ⟨-, hupper⟩
        have hbound : (Char.ofNat image).toNat ≤ 'Z'.toNat := hupper
        omega
    | dotted hdotted => omega
    | shifted hother hagain => exact absurd (hvalue ▸ hagain) (hnone _ hother)
    | other => rfl
  · rw [hzero]
    exact isLower_toLower (c := Char.ofNat 0) (by decide)

/-- **Once is enough.**  What is in lower case stays as it is. -/
theorem isLower_of_mem_lowerChar (hsigma : c.toNat ≠ 0x3A3) (h : d ∈ lowerChar c) : IsLower d := by
  have hform := lowerForm c
  generalize hlower : lowerChar c = form at h hform
  cases hform with
  | ascii hascii =>
      obtain rfl := List.mem_singleton.mp h
      exact isLower_toLower hascii
  | dotted =>
      have hboth : ∀ e ∈ ['i', Char.ofNat 0x307], lowerChar e = [e] ∧ e.toNat ≠ 0x3A3 :=
        List.forall_mem_cons.mpr
          ⟨by decide, List.forall_mem_singleton.mpr (by decide)⟩
      exact hboth d h
  | shifted hrun hwithin =>
      obtain rfl := List.mem_singleton.mp h
      exact isLower_of_shifted hrun hwithin
  | other =>
      obtain rfl := List.mem_singleton.mp h
      exact ⟨hlower, hsigma⟩

/-! ## Blanks -/

theorem not_isBlank_of_disjoint {range : Nat × Nat}
    (h : blankRanges.all (disjoint range) = true) (hlow : range.1 ≤ c.toNat)
    (hhigh : c.toNat ≤ range.2) : isBlank c = false := by
  rw [Bool.eq_false_iff, isBlank, ne_eq, inRanges_iff]
  rintro ⟨blank, hblank, hfrom, hto⟩
  have hdisjoint := List.all_eq_true.mp h blank hblank
  simp only [disjoint, Bool.or_eq_true, Nat.blt_eq] at hdisjoint
  omega

theorem not_isBlank_dotted (h : c.toNat = 0x130) : isBlank c = false := by
  have hdisjoint : blankRanges.all (disjoint (0x130, 0x130)) = true := by decide
  exact not_isBlank_of_disjoint hdisjoint h.ge h.le

theorem not_isBlank_within {run : Nat × Nat × Nat × Int} (hrun : run ∈ lowerRuns)
    (hwithin : Within run c.toNat) : isBlank c = false :=
  not_isBlank_of_disjoint (disjoint_lowerRuns run hrun).1 hwithin.1 hwithin.2.1

theorem not_isBlank_shifted {run : Nat × Nat × Nat × Int} {code : Nat} (hrun : run ∈ lowerRuns)
    (hwithin : Within run code) : isBlank (Char.ofNat (code + run.2.2.2).toNat) = false := by
  obtain ⟨-, hlow, hhigh⟩ := shifted_bounds hrun hwithin
  rcases toNat_ofNat_or (code + run.2.2.2).toNat with hvalue | hzero
  · rw [← hvalue] at hlow hhigh
    exact not_isBlank_of_disjoint (disjoint_lowerRuns run hrun).2 hlow hhigh
  · rw [hzero]
    decide

/-- Blanks stay blank, and nothing else becomes blank. -/
theorem isBlank_eq_of_mem_lowerChar (h : d ∈ lowerChar c) : isBlank d = isBlank c := by
  have hform := lowerForm c
  generalize lowerChar c = form at h hform
  cases hform with
  | ascii hascii =>
      obtain rfl := List.mem_singleton.mp h
      have htable := ascii_toLower c.toNat hascii
      rw [Char.ofNat_toNat] at htable
      exact htable.2.2.1
  | dotted hdotted =>
      have hboth : ∀ e ∈ ['i', Char.ofNat 0x307], isBlank e = false :=
        List.forall_mem_cons.mpr ⟨by decide, List.forall_mem_singleton.mpr (by decide)⟩
      rw [hboth d h, not_isBlank_dotted hdotted]
  | shifted hrun hwithin =>
      obtain rfl := List.mem_singleton.mp h
      rw [not_isBlank_shifted hrun hwithin, not_isBlank_within hrun hwithin]
  | other =>
      obtain rfl := List.mem_singleton.mp h
      rfl

theorem lowerChar_of_isBlank (h : isBlank c = true) : lowerChar c = [c] := by
  have hform := lowerForm c
  generalize lowerChar c = form at hform
  cases hform with
  | ascii hascii =>
      have htable := ascii_toLower c.toNat hascii
      rw [Char.ofNat_toNat] at htable
      rw [htable.2.2.2 h]
  | dotted hdotted => exact absurd h (Bool.eq_false_iff.mp (not_isBlank_dotted hdotted))
  | shifted hrun hwithin => exact absurd h (Bool.eq_false_iff.mp (not_isBlank_within hrun hwithin))
  | other => rfl

theorem lowerChar_ne_nil (c : Char) : lowerChar c ≠ [] := by
  have hform := lowerForm c
  generalize lowerChar c = form at hform
  cases hform <;> exact List.cons_ne_nil _ _

/-- Only the dotted capital I takes up more room in lower case. -/
theorem length_lowerChar (h : Char.ofNat 0x307 ∉ lowerChar c) : (lowerChar c).length = 1 := by
  have hform := lowerForm c
  generalize lowerChar c = form at h hform
  cases hform with
  | dotted => exact absurd (by simp) h
  | _ => rfl

/-! ## Slashes -/

theorem ofNat_ne_slash {code : Nat} (h : '/'.toNat < code) : Char.ofNat code ≠ '/' := by
  intro hslash
  rcases toNat_ofNat_or code with hvalue | hzero
  · exact absurd (hslash ▸ hvalue) (Nat.ne_of_lt h)
  · exact absurd (hslash ▸ hzero) (by decide)

theorem toLower_ne_slash (h : c ≠ '/') : c.toLower ≠ '/' := by
  intro hslash
  delta Char.toLower at hslash
  split at hslash
  · next hupper =>
      have hvalue := congrArg (fun d : Char => d.val.toNat) hslash
      have hlower : 'A'.val.toNat ≤ c.val.toNat := hupper.1
      have hbound : c.val.toNat ≤ 'Z'.val.toNat := hupper.2
      simp at hvalue hlower hbound
      omega
  · exact h hslash

/-- No other character becomes a slash. -/
theorem slash_not_mem_lowerChar (h : c ≠ '/') : '/' ∉ lowerChar c := by
  have hform := lowerForm c
  generalize lowerChar c = form at hform
  cases hform with
  | ascii => exact fun hmem => toLower_ne_slash h (List.mem_singleton.mp hmem).symm
  | dotted => decide
  | shifted hrun hwithin =>
      obtain ⟨-, hlow, -⟩ := shifted_bounds hrun hwithin
      obtain ⟨-, -, -, hfirst, -⟩ := shifted_lowerRuns _ hrun
      have hslash : '/'.toNat < 'Z'.toNat := by decide
      refine fun hmem => ofNat_ne_slash ?_ (List.mem_singleton.mp hmem).symm
      omega
  | other => exact fun hmem => h (List.mem_singleton.mp hmem).symm

/-! ## Characters that end words -/

/-- The character is neither cased nor ignored when a word's end is sought. -/
def EndsWords (c : Char) : Prop :=
  inRanges caseIgnorableRanges c = false ∧ inRanges casedRanges c = false

set_option maxRecDepth 2000 in
theorem endsWords_slash : EndsWords '/' := ⟨by decide, by decide⟩

theorem endsWords_of_isBlank (h : isBlank c = true) : EndsWords c := by
  obtain ⟨range, hrange, hfrom, hto⟩ := inRanges_iff.mp h
  have htables := List.all_eq_true.mp disjoint_blankRanges range hrange
  simp only [Bool.and_eq_true] at htables
  have hnot : ∀ ranges : List (Nat × Nat), ranges.all (disjoint range) = true →
      inRanges ranges c = false := by
    intro ranges hranges
    rw [Bool.eq_false_iff, ne_eq, inRanges_iff]
    rintro ⟨other, hother, hlow, hhigh⟩
    have hdisjoint := List.all_eq_true.mp hranges other hother
    simp only [disjoint, Bool.or_eq_true, Nat.blt_eq] at hdisjoint
    omega
  exact ⟨hnot _ htables.2, hnot _ htables.1⟩

theorem EndsWords.ne_sigma (h : EndsWords c) : c.toNat ≠ 0x3A3 := by
  intro hsigma
  have hcased : inRanges casedRanges (Char.ofNat 0x3A3) = true := by decide
  rw [← hsigma, Char.ofNat_toNat, h.2] at hcased
  cases hcased

/-! ## A character in its text -/

/-- Nothing behind a character that ends words counts for the word before it. -/
theorem meetsCased_append_cons (h : EndsWords c) (text rest : List Char) :
    meetsCased (text ++ c :: rest) = meetsCased text := by
  induction text with
  | nil =>
      have hnone : meetsCased (c :: rest) = false := by
        rw [meetsCased, List.dropWhile_cons_of_neg (by simp [h.1])]
        exact h.2
      rw [List.nil_append, hnone]
      rfl
  | cons d others ih =>
      rw [List.cons_append, meetsCased, meetsCased]
      by_cases hignored : inRanges caseIgnorableRanges d = true
      · rw [List.dropWhile_cons_of_pos hignored, List.dropWhile_cons_of_pos hignored]
        exact ih
      · rw [List.dropWhile_cons_of_neg hignored, List.dropWhile_cons_of_neg hignored]

/-- The lower-case form of a character between what is before it, given backwards, and what is
behind it. -/
def formWithin (before : List Char) (c : Char) (rest : List Char) : List Char :=
  if c.toNat = 0x3A3 then
    [Char.ofNat (if meetsCased before && !meetsCased rest then 0x3C2 else 0x3C3)]
  else lowerChar c

theorem lowerFrom_cons (before : List Char) (c : Char) (rest : List Char) :
    lowerFrom before (c :: rest) = formWithin before c rest ++ lowerFrom (c :: before) rest := rfl

section

variable {before rest : List Char}

/-- A capital sigma has one of two forms. -/
theorem formWithin_cases (before : List Char) (c : Char) (rest : List Char) :
    (c = Char.ofNat 0x3A3 ∧ ∃ form ∈ [Char.ofNat 0x3C2, Char.ofNat 0x3C3],
        formWithin before c rest = [form]) ∨
      (c.toNat ≠ 0x3A3 ∧ formWithin before c rest = lowerChar c) := by
  unfold formWithin
  by_cases hsigma : c.toNat = 0x3A3
  · rw [if_pos hsigma]
    refine .inl ⟨by rw [← hsigma, Char.ofNat_toNat], _, ?_, rfl⟩
    split <;> simp
  · rw [if_neg hsigma]
    exact .inr ⟨hsigma, rfl⟩

theorem formWithin_ne_nil : formWithin before c rest ≠ [] := by
  rcases formWithin_cases before c rest with ⟨-, form, -, hform⟩ | ⟨-, hform⟩
  · rw [hform]
    exact List.cons_ne_nil _ _
  · rw [hform]
    exact lowerChar_ne_nil c

theorem isLower_of_mem_formWithin (h : d ∈ formWithin before c rest) : IsLower d := by
  rcases formWithin_cases before c rest with ⟨-, form, hmem, hform⟩ | ⟨hsigma, hform⟩
  · rw [hform, List.mem_singleton] at h
    have hforms : ∀ e ∈ [Char.ofNat 0x3C2, Char.ofNat 0x3C3],
        lowerChar e = [e] ∧ e.toNat ≠ 0x3A3 :=
      List.forall_mem_cons.mpr
        ⟨by decide, List.forall_mem_singleton.mpr (by decide)⟩
    exact h ▸ hforms form hmem
  · rw [hform] at h
    exact isLower_of_mem_lowerChar hsigma h

theorem isBlank_eq_of_mem_formWithin (h : d ∈ formWithin before c rest) :
    isBlank d = isBlank c := by
  rcases formWithin_cases before c rest with ⟨rfl, form, hmem, hform⟩ | ⟨-, hform⟩
  · rw [hform, List.mem_singleton] at h
    have hforms : ∀ e ∈ [Char.ofNat 0x3C2, Char.ofNat 0x3C3],
        isBlank e = isBlank (Char.ofNat 0x3A3) :=
      List.forall_mem_cons.mpr ⟨by decide, List.forall_mem_singleton.mpr (by decide)⟩
    exact h ▸ hforms form hmem
  · rw [hform] at h
    exact isBlank_eq_of_mem_lowerChar h

theorem slash_not_mem_formWithin (h : c ≠ '/') : '/' ∉ formWithin before c rest := by
  rcases formWithin_cases before c rest with ⟨-, form, hmem, hform⟩ | ⟨-, hform⟩
  · have hforms : ∀ e ∈ [Char.ofNat 0x3C2, Char.ofNat 0x3C3], '/' ≠ e :=
      List.forall_mem_cons.mpr ⟨by decide, List.forall_mem_singleton.mpr (by decide)⟩
    rw [hform, List.mem_singleton]
    exact hforms form hmem
  · rw [hform]
    exact slash_not_mem_lowerChar h

theorem formWithin_append_cons (hends : EndsWords d) (before : List Char) (c : Char)
    (text rest : List Char) :
    formWithin before c (text ++ d :: rest) = formWithin before c text := by
  rw [formWithin, meetsCased_append_cons hends, formWithin]

end

/-! ## Words -/

/-- Nothing before a character that ends words counts for what is behind it. -/
theorem lowerFrom_behind (h : EndsWords c) (early before text : List Char) :
    lowerFrom (early ++ c :: before) text = lowerFrom early text := by
  induction text generalizing early with
  | nil => rfl
  | cons d rest ih =>
      have hrest := ih (d :: early)
      rw [List.cons_append] at hrest
      rw [lowerFrom, lowerFrom, hrest, meetsCased_append_cons h]

/-- **Words.**  What stands before and behind a character that ends words is put in lower case
separately. -/
theorem lowerFrom_append_cons (h : EndsWords c) (before text rest : List Char) :
    lowerFrom before (text ++ c :: rest) =
      lowerFrom before text ++ lowerChar c ++ lowerChars rest := by
  induction text generalizing before with
  | nil =>
      have hrest := lowerFrom_behind h [] before rest
      rw [List.nil_append] at hrest
      rw [List.nil_append, lowerFrom.eq_2, if_neg h.ne_sigma, hrest]
      rfl
  | cons d others ih =>
      rw [List.cons_append, lowerFrom, lowerFrom, ih, meetsCased_append_cons h]
      simp only [List.append_assoc]

theorem lowerChars_append_cons (h : EndsWords c) (text rest : List Char) :
    lowerChars (text ++ c :: rest) = lowerChars text ++ lowerChar c ++ lowerChars rest :=
  lowerFrom_append_cons h [] text rest

theorem lowerChars_append_slash (text rest : List Char) :
    lowerChars (text ++ '/' :: rest) = lowerChars text ++ '/' :: lowerChars rest := by
  rw [lowerChars_append_cons endsWords_slash]
  simp [lowerChar]

/-! ## Lower case -/

theorem isLower_of_mem_lowerFrom {before text : List Char} (h : d ∈ lowerFrom before text) :
    IsLower d := by
  induction text generalizing before with
  | nil => exact absurd h List.not_mem_nil
  | cons c rest ih =>
      rw [lowerFrom_cons, List.mem_append] at h
      exact h.elim isLower_of_mem_formWithin ih

theorem slash_not_mem_lowerFrom {text : List Char} (h : '/' ∉ text) (before : List Char) :
    '/' ∉ lowerFrom before text := by
  induction text generalizing before with
  | nil => exact List.not_mem_nil
  | cons c rest ih =>
      obtain ⟨hfirst, hrest⟩ := not_or.mp ((not_congr List.mem_cons).mp h)
      rw [lowerFrom_cons, List.mem_append, not_or]
      exact ⟨slash_not_mem_formWithin (Ne.symm hfirst), ih hrest _⟩

theorem slash_not_mem_lowerChars {text : List Char} (h : '/' ∉ text) :
    '/' ∉ lowerChars text :=
  slash_not_mem_lowerFrom h []

/-- **Lower case.**  What is in lower case stays as it is, wherever it stands. -/
theorem lowerFrom_eq_self {text : List Char} (h : ∀ c ∈ text, IsLower c) (before : List Char) :
    lowerFrom before text = text := by
  induction text generalizing before with
  | nil => rfl
  | cons c rest ih =>
      obtain ⟨⟨hlower, hsigma⟩, hrest⟩ := List.forall_mem_cons.mp h
      rw [lowerFrom, if_neg hsigma, hlower, ih hrest]
      rfl

/-- Lower case is reached at once. -/
theorem lowerChars_lowerChars (text : List Char) : lowerChars (lowerChars text) = lowerChars text :=
  lowerFrom_eq_self (fun _ => isLower_of_mem_lowerFrom) []

theorem lower_lower (text : String) : lower (lower text) = lower text := by
  rw [lower, lower, String.toList_ofList, lowerChars_lowerChars]

theorem length_formWithin (before : List Char) (c : Char) (rest : List Char) :
    (formWithin before c rest).length = (lowerChar c).length := by
  rcases formWithin_cases before c rest with ⟨rfl, form, -, hform⟩ | ⟨-, hform⟩
  · have hone : (lowerChar (Char.ofNat 0x3A3)).length = 1 := by decide
    rw [hform, hone]
    rfl
  · rw [hform]

/-- The lower-case form of a text may be longer than the text, but where its letters stand makes
no difference to its length. -/
theorem length_lowerFrom (before text : List Char) :
    (lowerFrom before text).length = (text.map fun c => (lowerChar c).length).sum := by
  induction text generalizing before with
  | nil => rfl
  | cons c rest ih =>
      rw [lowerFrom_cons, List.length_append, ih, length_formWithin, List.map_cons, List.sum_cons]

theorem length_eq_of_lowerFrom {before text : List Char}
    (h : Char.ofNat 0x307 ∉ lowerFrom before text) :
    (lowerFrom before text).length = text.length := by
  induction text generalizing before with
  | nil => rfl
  | cons c rest ih =>
      rw [lowerFrom_cons, List.mem_append, not_or] at h
      obtain ⟨hfirst, hrest⟩ := h
      have hone : (lowerChar c).length = 1 := by
        rcases formWithin_cases before c rest with ⟨rfl, -⟩ | ⟨-, hform⟩
        · decide
        · exact length_lowerChar (hform ▸ hfirst)
      rw [lowerFrom_cons, List.length_append, length_formWithin, hone, ih hrest, List.length_cons,
        Nat.add_comm]

/-! ## Slashes and blanks -/

/-- A slash in lower case was there before. -/
theorem exists_of_lowerFrom_eq {before text front path : List Char}
    (h : lowerFrom before text = front ++ '/' :: path) :
    ∃ upper rest, text = upper ++ '/' :: rest ∧ lowerFrom before upper = front ∧
      lowerChars rest = path := by
  induction text generalizing before front with
  | nil => simp [lowerFrom] at h
  | cons c others ih =>
      rw [lowerFrom_cons] at h
      rcases List.append_eq_append_iff.mp h with ⟨later, hfront, hlater⟩ | ⟨form, hform, hrest⟩
      · obtain ⟨upper, rest, rfl, hupper, hpath⟩ := ih hlater
        refine ⟨c :: upper, rest, rfl, ?_, hpath⟩
        rw [lowerFrom_cons, hupper, hfront, formWithin_append_cons endsWords_slash]
      · cases form with
        | nil =>
            have hlater : lowerFrom (c :: before) others = [] ++ '/' :: path := hrest.symm
            obtain ⟨upper, rest, rfl, hupper, hpath⟩ := ih hlater
            refine ⟨c :: upper, rest, rfl, ?_, hpath⟩
            rw [List.append_nil, formWithin_append_cons endsWords_slash] at hform
            rw [lowerFrom_cons, hupper, hform, List.append_nil]
        | cons e es =>
            -- The first character becomes the slash, so it is one.
            obtain ⟨rfl, hpath⟩ := List.cons.inj hrest
            have hmem : '/' ∈ formWithin before c others := by simp [hform]
            obtain rfl : c = '/' := Decidable.not_not.mp fun hother =>
              slash_not_mem_formWithin hother hmem
            have hsingle : front ++ '/' :: es = ['/'] := hform.symm
            obtain rfl : front = [] := by
              cases front with
              | nil => rfl
              | cons f fs => simp at hsingle
            obtain rfl : es = [] := by simpa using hsingle
            have hbehind : path = lowerFrom ('/' :: before) others := hpath
            refine ⟨[], others, rfl, rfl, ?_⟩
            rw [hbehind]
            exact (lowerFrom_behind endsWords_slash [] before others).symm

theorem lowerChars_append_blanks {trail : List Char} (h : ∀ c ∈ trail, isBlank c = true)
    (text : List Char) : lowerChars (text ++ trail) = lowerChars text ++ trail := by
  induction trail generalizing text with
  | nil => rw [List.append_nil, List.append_nil]
  | cons c rest ih =>
      obtain ⟨hc, hrest⟩ := List.forall_mem_cons.mp h
      have hblanks := ih hrest []
      rw [List.nil_append] at hblanks
      rw [lowerChars_append_cons (endsWords_of_isBlank hc), lowerChar_of_isBlank hc, hblanks]
      simp [lowerChars, lowerFrom]

theorem lowerChars_blanks_append {lead : List Char} (h : ∀ c ∈ lead, isBlank c = true)
    (text : List Char) : lowerChars (lead ++ text) = lead ++ lowerChars text := by
  induction lead with
  | nil => rfl
  | cons c rest ih =>
      obtain ⟨hc, hrest⟩ := List.forall_mem_cons.mp h
      have hsplit := lowerChars_append_cons (endsWords_of_isBlank hc) [] (rest ++ text)
      rw [List.nil_append] at hsplit
      rw [List.cons_append, hsplit, lowerChar_of_isBlank hc, ih hrest]
      rfl

theorem lowerFrom_ne_nil {before text : List Char} (h : text ≠ []) :
    lowerFrom before text ≠ [] := by
  cases text with
  | nil => exact absurd rfl h
  | cons c rest => exact List.append_ne_nil_of_left_ne_nil formWithin_ne_nil _

/-- A text in lower case ends in a blank if it did so before. -/
theorem exists_of_getLast?_lowerFrom {before text : List Char}
    (h : d ∈ (lowerFrom before text).getLast?) : ∃ c ∈ text.getLast?, isBlank d = isBlank c := by
  induction text generalizing before with
  | nil => cases h
  | cons c rest ih =>
      rw [lowerFrom_cons] at h
      cases rest with
      | nil =>
          rw [lowerFrom, List.append_nil] at h
          exact ⟨c, rfl, isBlank_eq_of_mem_formWithin (List.mem_of_getLast? h)⟩
      | cons e es =>
          rw [List.getLast?_append_of_ne_nil _ (lowerFrom_ne_nil (List.cons_ne_nil e es))] at h
          obtain ⟨last, hlast, hblank⟩ := ih h
          exact ⟨last, by simpa using hlast, hblank⟩

theorem bare_lowerFrom {before text : List Char} (h : Bare isBlank text) :
    Bare isBlank (lowerFrom before text) where
  first := by
    cases text with
    | nil => exact h.first
    | cons c rest =>
        intro d hd
        have hne : formWithin before c rest ≠ [] := formWithin_ne_nil
        rw [lowerFrom_cons, List.head?_append_of_ne_nil _ hne] at hd
        rw [isBlank_eq_of_mem_formWithin (List.mem_of_mem_head? hd)]
        exact h.first c rfl
  last := by
    intro d hd
    obtain ⟨c, hc, hblank⟩ := exists_of_getLast?_lowerFrom hd
    rw [hblank]
    exact h.last c hc

/-- **Blanks.**  It makes no difference whether blanks are trimmed before or after. -/
theorem trim_lowerChars (text : List Char) :
    trim isBlank (lowerChars text) = lowerChars (trim isBlank text) := by
  obtain ⟨lead, trail, htext, hlead, htrail⟩ := exists_trimmed isBlank text
  have hbare : Bare isBlank (lowerChars (trim isBlank text)) :=
    bare_lowerFrom (bare_trim isBlank text)
  have hlower : lowerChars text = lead ++ (lowerChars (trim isBlank text) ++ trail) := by
    rw [← lowerChars_append_blanks htrail, ← lowerChars_blanks_append hlead, ← htext]
  rw [hlower, trim_eq_of_bare hlead hbare htrail]

end Text

end ManifestLint
