import ManifestLint.Text.Ascii
import ManifestLint.Version.Strict
import ManifestLint.Proofs.Manifest.Specifiers
import ManifestLint.Proofs.Text.Lines
import ManifestLint.Proofs.Version.Precedence

/-!
# Full forms of versions

A full form is three numbers, perhaps a tag and perhaps metadata, the last two rows of identifiers.
In the grammar of semantic versions numbers are made of ASCII digits and have no zero in front, and
neither have those identifiers of a tag that are numbers.  The strict reader asks for less: behind
the first digit of a number it takes digits of any script, and in a tag it takes all identifiers.

* `Form`, `Form.Obeys`: forms whose numbers and identifiers are of some kind.
* `isNumber_toDigits`, `toDigits_ofDigitChars`: how numbers are written.
* `isStrictChars_iff`: the forms that the strict reader takes.
-/

namespace ManifestLint.Version

open ManifestLint.Text

/-! ## Forms -/

/-- A number: ASCII digits without a zero in front. -/
def IsNumber (digits : List Char) : Prop := digits ≠ [] ∧ IsNumeral digits

/-- A number for the strict reader: a zero alone, or another digit of ASCII and behind it decimal
digits of any script. -/
def IsWideNumber : List Char → Prop
  | [] => False
  | first :: more =>
    first = '0' ∧ more = [] ∨ ('1' ≤ first ∧ first ≤ '9') ∧ ∀ c ∈ more, isDecimal c = true

/-- An identifier: letters, digits and hyphens of ASCII. -/
def IsIdentifier (identifier : List Char) : Prop :=
  identifier ≠ [] ∧ ∀ c ∈ identifier, isIdentifierChar c = true

/-- An identifier of a tag in the grammar of semantic versions: if all its characters are digits, it
has no zero in front. -/
def IsTagIdentifier (identifier : List Char) : Prop :=
  IsIdentifier identifier ∧
    ((∀ c ∈ identifier, c.isDigit = true) → identifier.head? = some '0' → identifier = ['0'])

instance (identifier : List Char) : Decidable (IsIdentifier identifier) :=
  have : Decidable (∀ c ∈ identifier, isIdentifierChar c = true) := List.decidableBAll _ _
  inferInstanceAs (Decidable (_ ∧ _))

/-- Identifiers with points between them. -/
def dotted (identifiers : List (List Char)) : List Char := ['.'].intercalate identifiers

/-- Identifiers behind a mark, or nothing if there are none. -/
def marked (mark : Char) : List (List Char) → List Char
  | [] => []
  | first :: more => mark :: dotted (first :: more)

/-- The parts of a full form. -/
structure Form where
  major : List Char
  minor : List Char
  patch : List Char
  tag : List (List Char) := []
  metadata : List (List Char) := []

namespace Form

/-- The text of a form. -/
def text (form : Form) : List Char :=
  form.major ++ '.' :: (form.minor ++ '.' :: (form.patch ++
    (marked '-' form.tag ++ marked '+' form.metadata)))

/-- The form has numbers of a kind and, in its tag, identifiers of a kind. -/
structure Obeys (number identifier : List Char → Prop) (form : Form) : Prop where
  major : number form.major
  minor : number form.minor
  patch : number form.patch
  tag : ∀ part ∈ form.tag, identifier part
  metadata : ∀ part ∈ form.metadata, IsIdentifier part

/-- The version that a form says. -/
def version (form : Form) : Version where
  major := Nat.ofDigitChars 10 form.major 0
  minor := Nat.ofDigitChars 10 form.minor 0
  patch := Nat.ofDigitChars 10 form.patch 0
  prerelease := .ofList (dotted form.tag)
  build := .ofList (dotted form.metadata)

end Form

/-! ## Characters -/

variable {c : Char} {digits identifier rest text : List Char} {identifiers : List (List Char)}

/-- A table that has nothing of ASCII but the digits tells there what a digit is. -/
theorem inRanges_eq_isDigit {ranges : List (Nat × Nat)} (hdigits : (0x30, 0x39) ∈ ranges)
    (hothers : ∀ range ∈ ranges, range = (0x30, 0x39) ∨ 0x80 ≤ range.1) (h : isAscii c = true) :
    inRanges ranges c = c.isDigit := by
  have hcode : c.toNat < 0x80 := of_decide_eq_true h
  rw [Bool.eq_iff_iff, inRanges_iff, Char.isDigit_iff_toNat]
  constructor
  · rintro ⟨range, hmem, hfrom, hto⟩
    rcases hothers range hmem with rfl | hbeyond
    · exact ⟨hfrom, hto⟩
    · omega
  · exact fun hdigit => ⟨_, hdigits, hdigit⟩

/-- In ASCII all classes of digits are one. -/
theorem digits_of_ascii (h : isAscii c = true) :
    isDecimal c = c.isDigit ∧ isDigit c = c.isDigit :=
  ⟨inRanges_eq_isDigit (by decide) (by decide) h, inRanges_eq_isDigit (by decide) (by decide) h⟩

theorem isAscii_of_isIdentifierChar (h : isIdentifierChar c = true) : isAscii c = true :=
  decide_eq_true (Specifier.ascii_of_isWordChar h)

theorem isIdentifierChar_of_isDigit (h : c.isDigit = true) : isIdentifierChar c = true := by
  simp [isIdentifierChar, Char.isAlphanum, h]

theorem not_isBlank_of_isIdentifierChar (h : isIdentifierChar c = true) : isBlank c = false := by
  have hascii : c.toNat < 0x80 := of_decide_eq_true (isAscii_of_isIdentifierChar h)
  have hlow : ∀ code < 0x21, isIdentifierChar (Char.ofNat code) = false := by decide
  have hranges : ∀ range ∈ blankRanges, range.2 < 0x21 ∨ 0x80 ≤ range.1 := by decide
  rw [Bool.eq_false_iff]
  intro hblank
  obtain ⟨range, hmem, hfrom, hto⟩ := inRanges_iff.mp hblank
  rcases hranges range hmem with hbelow | hbeyond
  · have hnot := hlow c.toNat (by omega)
    rw [Char.ofNat_toNat, h] at hnot
    cases hnot
  · omega

theorem isAscii_of_isDigit (h : c.isDigit = true) : isAscii c = true :=
  isAscii_of_isIdentifierChar (isIdentifierChar_of_isDigit h)

/-! ## Numbers -/

/-- Only zero is written with a zero in front. -/
theorem eq_zero_of_head?_toDigits (number : Nat)
    (h : (Nat.toDigits 10 number).head? = some '0') : number = 0 := by
  induction number using Nat.strongRecOn with
  | ind number ih =>
      rw [Nat.toDigits_eq_if (by decide)] at h
      split at h
      · next hsmall =>
          interval_cases number <;> first | rfl | cases h
      · next hlarge =>
          rw [List.head?_append_of_ne_nil _ Nat.toDigits_ne_nil] at h
          have hrest := ih (number / 10) (by omega) h
          omega

/-- A number is written as one. -/
theorem isNumber_toDigits (number : Nat) : IsNumber (Nat.toDigits 10 number) := by
  refine ⟨Nat.toDigits_ne_nil, fun c hc => ?_, fun hzero => ?_⟩
  · exact Nat.isDigit_of_mem_toDigits (by decide) (by decide) hc
  · rw [eq_zero_of_head?_toDigits number hzero]
    rfl

/-- A number that was read is written as it was. -/
theorem toDigits_ofDigitChars (h : IsNumber digits) :
    Nat.toDigits 10 (Nat.ofDigitChars 10 digits 0) = digits := by
  have hwritten := isNumber_toDigits (Nat.ofDigitChars 10 digits 0)
  apply hwritten.2.eq_of_value h.2 ⟨hwritten.1, h.1⟩
  exact Nat.ofDigitChars_toDigits (by decide) (by decide)

theorem IsNumber.isWideNumber (h : IsNumber digits) : IsWideNumber digits := by
  cases digits with
  | nil => exact absurd rfl h.1
  | cons first more =>
      obtain ⟨hfirst, hmore⟩ := List.forall_mem_cons.mp h.2.1
      by_cases hzero : first = '0'
      · left
        have halone := h.2.2 (congrArg some hzero)
        exact ⟨hzero, (List.cons.inj halone).2⟩
      · right
        have hdigits : ∀ c ∈ more, isDecimal c = true := fun c hc =>
          (digits_of_ascii (isAscii_of_isDigit (hmore c hc))).1.trans (hmore c hc)
        refine ⟨?_, hdigits⟩
        have hrange := Char.isDigit_iff_toNat.mp hfirst
        have hother : first.toNat ≠ '0'.toNat := fun hsame => hzero (Char.toNat_inj.mp hsame)
        change '1'.toNat ≤ first.toNat ∧ first.toNat ≤ '9'.toNat
        have hvalues : '0'.toNat = 48 ∧ '1'.toNat = 49 ∧ '9'.toNat = 57 := by decide
        omega

/-- Of the numbers for the strict reader, those of ASCII are numbers. -/
theorem IsWideNumber.isNumber (h : IsWideNumber digits) (hascii : ∀ c ∈ digits, isAscii c = true) :
    IsNumber digits := by
  cases digits with
  | nil => exact h.elim
  | cons first more =>
      obtain ⟨-, hmore⟩ := List.forall_mem_cons.mp hascii
      refine ⟨List.cons_ne_nil _ _, ?_⟩
      rcases h with ⟨rfl, rfl⟩ | ⟨hfirst, hdigits⟩
      · decide
      · have hrange : '1'.toNat ≤ first.toNat ∧ first.toNat ≤ '9'.toNat := hfirst
        have hvalues : '0'.toNat = 48 ∧ '1'.toNat = 49 ∧ '9'.toNat = 57 := by decide
        refine ⟨List.forall_mem_cons.mpr ⟨?_, fun c hc => ?_⟩, fun hzero => ?_⟩
        · apply Char.isDigit_iff_toNat.mpr
          omega
        · rw [← (digits_of_ascii (hmore c hc)).1]
          exact hdigits c hc
        · have hsame : first = '0' := Option.some.inj hzero
          subst hsame
          omega

/-- A number is taken off a text where no decimal digit follows it. -/
theorem strictNumber?_append (h : IsWideNumber digits)
    (hrest : ∀ c ∈ rest.head?, isDecimal c = false) :
    strictNumber? (digits ++ rest) = some rest := by
  cases digits with
  | nil => exact h.elim
  | cons first more =>
      rw [List.cons_append, strictNumber?]
      rcases h with ⟨rfl, rfl⟩ | ⟨hfirst, hmore⟩
      · rfl
      · have hzero : first ≠ '0' := by
          rintro rfl
          exact absurd hfirst.1 (by decide)
        rw [if_neg hzero, if_pos hfirst, (span_append hmore hrest).2]

/-- What is taken off a text is a number. -/
theorem of_strictNumber? (h : strictNumber? text = some rest) :
    ∃ digits, IsWideNumber digits ∧ text = digits ++ rest := by
  cases text with
  | nil => cases h
  | cons first more =>
      rw [strictNumber?] at h
      split at h
      · next hzero =>
          cases h
          exact ⟨[first], .inl ⟨hzero, rfl⟩, rfl⟩
      · split at h
        · next hfirst =>
            cases h
            refine ⟨first :: more.takeWhile isDecimal, .inr ⟨hfirst, fun c hc => ?_⟩, ?_⟩
            · exact List.all_eq_true.mp List.all_takeWhile c hc
            · rw [List.cons_append, List.takeWhile_append_dropWhile]
        · cases h

theorem dropPoint?_eq_some_iff : dropPoint? text = some rest ↔ text = '.' :: rest := by
  constructor
  · intro h
    unfold dropPoint? at h
    split at h
    · rw [Option.some.inj h]
    · cases h
  · rintro rfl
    rfl

/-- Three numbers are taken off a text, with the points between them. -/
theorem strictNumbers?_append {major minor patch : List Char} (hmajor : IsWideNumber major)
    (hminor : IsWideNumber minor) (hpatch : IsWideNumber patch)
    (hrest : ∀ c ∈ rest.head?, isDecimal c = false) :
    strictNumbers? (major ++ '.' :: (minor ++ '.' :: (patch ++ rest))) = some rest := by
  have hpoint (more : List Char) : ∀ c ∈ ('.' :: more).head?, isDecimal c = false := by
    rintro c ⟨⟩
    exact (digits_of_ascii (by decide)).1
  simp [strictNumbers?, dropPoint?, strictNumber?_append hmajor (hpoint _),
    strictNumber?_append hminor (hpoint _), strictNumber?_append hpatch hrest]

theorem of_strictNumbers? (h : strictNumbers? text = some rest) :
    ∃ major minor patch, IsWideNumber major ∧ IsWideNumber minor ∧ IsWideNumber patch ∧
      text = major ++ '.' :: (minor ++ '.' :: (patch ++ rest)) := by
  simp only [strictNumbers?, Option.bind_eq_bind, Option.bind_eq_some_iff,
    dropPoint?_eq_some_iff] at h
  obtain ⟨_, hfirst, behind, rfl, _, hsecond, last, rfl, hthird⟩ := h
  obtain ⟨major, hmajor, rfl⟩ := of_strictNumber? hfirst
  obtain ⟨minor, hminor, rfl⟩ := of_strictNumber? hsecond
  obtain ⟨patch, hpatch, rfl⟩ := of_strictNumber? hthird
  exact ⟨major, minor, patch, hmajor, hminor, hpatch, rfl⟩

/-! ## Identifiers -/

theorem mem_dotted (h : c ∈ dotted identifiers) : c = '.' ∨ ∃ part ∈ identifiers, c ∈ part := by
  induction identifiers with
  | nil => cases h
  | cons first more ih =>
      rw [dotted] at h ih
      cases more with
      | nil =>
          rw [List.intercalate_singleton] at h
          exact .inr ⟨first, List.mem_cons_self, h⟩
      | cons second others =>
          rw [List.intercalate_cons_cons, List.append_assoc] at h
          rcases List.mem_append.mp h with hfirst | hbehind
          · exact .inr ⟨first, List.mem_cons_self, hfirst⟩
          · rcases List.mem_cons.mp hbehind with hpoint | hmore
            · exact .inl hpoint
            · exact (ih hmore).imp_right fun ⟨part, hpart, hc⟩ =>
                ⟨part, List.mem_cons_of_mem _ hpart, hc⟩

theorem subset_dotted {part : List Char} (h : part ∈ identifiers) : part ⊆ dotted identifiers := by
  induction identifiers with
  | nil => cases h
  | cons first more ih =>
      cases more with
      | nil =>
          rw [List.mem_singleton.mp h, dotted, List.intercalate_singleton]
          exact List.Subset.refl _
      | cons second others =>
          rw [dotted, List.intercalate_cons_cons]
          rcases List.mem_cons.mp h with rfl | hmore
          · exact List.subset_append_of_subset_left _ (List.subset_append_left _ _)
          · exact List.subset_append_of_subset_right _ (ih hmore)

/-- Identifiers are found again between the points. -/
theorem splitOn_dotted (hne : identifiers ≠ []) (h : ∀ part ∈ identifiers, IsIdentifier part) :
    (dotted identifiers).splitOn '.' = identifiers := by
  refine List.splitOn_intercalate '.' (fun part hpart hpoint => ?_) hne
  exact absurd ((h part hpart).2 '.' hpoint) (by decide)

theorem dotted_eq_nil_iff (h : ∀ part ∈ identifiers, IsIdentifier part) :
    dotted identifiers = [] ↔ identifiers = [] := by
  refine ⟨fun hnone => ?_, fun hnone => hnone ▸ rfl⟩
  by_contra hne
  have hsplit := splitOn_dotted hne h
  rw [hnone, List.splitOn_nil] at hsplit
  have hempty : [] ∈ identifiers := hsplit ▸ List.mem_cons_self
  exact (h [] hempty).1 rfl

/-- Identifiers are taken off a text that ends behind them or has a plus sign there. -/
theorem strictIdentifiers?_append (hne : identifiers ≠ [])
    (h : ∀ part ∈ identifiers, IsIdentifier part) (hrest : ∀ c ∈ rest.head?, c = '+') :
    strictIdentifiers? (dotted identifiers ++ rest) = some rest := by
  have hinside : ∀ c ∈ dotted identifiers, (isIdentifierChar c || decide (c = '.')) = true := by
    intro c hc
    rcases mem_dotted hc with rfl | ⟨part, hpart, hmem⟩
    · decide
    · rw [(h part hpart).2 c hmem, Bool.true_or]
  have hstop : ∀ c ∈ rest.head?, (isIdentifierChar c || decide (c = '.')) = false := by
    intro c hc
    rw [hrest c hc]
    decide
  obtain ⟨htake, hdrop⟩ := span_append hinside hstop
  have hall : (identifiers.all (!·.isEmpty)) = true := by
    refine List.all_eq_true.mpr fun part hpart => ?_
    rw [List.isEmpty_eq_false_iff.mpr (h part hpart).1, Bool.not_false]
  rw [strictIdentifiers?, htake, splitOn_dotted hne h, if_pos hall, hdrop]

theorem of_strictIdentifiers? (h : strictIdentifiers? text = some rest) :
    ∃ identifiers, identifiers ≠ [] ∧ (∀ part ∈ identifiers, IsIdentifier part) ∧
      text = dotted identifiers ++ rest := by
  rw [strictIdentifiers?] at h
  split at h
  · next hall =>
      cases h
      generalize hrow : text.takeWhile (fun c => isIdentifierChar c || decide (c = '.')) = row at hall
      have hinside : ∀ c ∈ row, (isIdentifierChar c || decide (c = '.')) = true := by
        rw [← hrow]
        exact List.all_eq_true.mp List.all_takeWhile
      refine ⟨row.splitOn '.', List.splitOn_ne_nil _ _, fun part hpart => ⟨?_, fun c hc => ?_⟩, ?_⟩
      · rintro rfl
        exact absurd (List.all_eq_true.mp hall [] hpart) (by decide)
      · have hmem : c ∈ row := by
          have hback : dotted (row.splitOn '.') = row := List.intercalate_splitOn '.'
          rw [← hback]
          exact subset_dotted hpart hc
        have hpoint : c ≠ '.' := by
          rintro rfl
          exact not_mem_of_mem_splitOn '.' row part hpart hc
        simpa [hpoint] using hinside c hmem
      · rw [dotted, List.intercalate_splitOn, ← hrow, List.takeWhile_append_dropWhile]
  · cases h

theorem head?_marked {mark : Char} (h : c ∈ (marked mark identifiers).head?) : c = mark := by
  cases identifiers with
  | nil => cases h
  | cons first more => exact (Option.some.inj h).symm

/-- Metadata is one row of identifiers. -/
theorem strictIdentifiers?_eq_nil_iff : strictIdentifiers? text = some [] ↔
    ∃ identifiers, identifiers ≠ [] ∧ (∀ part ∈ identifiers, IsIdentifier part) ∧
      text = dotted identifiers := by
  constructor
  · intro h
    obtain ⟨identifiers, hne, hall, htext⟩ := of_strictIdentifiers? h
    exact ⟨identifiers, hne, hall, htext.trans (List.append_nil _)⟩
  · rintro ⟨identifiers, hne, hall, rfl⟩
    have hread : strictIdentifiers? (dotted identifiers ++ []) = some [] :=
      strictIdentifiers?_append hne hall (by rintro c ⟨⟩)
    rwa [List.append_nil] at hread

/-- What follows the numbers is a tag, metadata, both or nothing. -/
theorem isStrictTail_iff : isStrictTail text = true ↔ ∃ tag metadata : List (List Char),
    (∀ part ∈ tag, IsIdentifier part) ∧ (∀ part ∈ metadata, IsIdentifier part) ∧
      text = marked '-' tag ++ marked '+' metadata := by
  constructor
  · intro h
    unfold isStrictTail at h
    split at h
    · exact ⟨[], [], by simp, by simp, rfl⟩
    · next rest =>
        split at h
        · next hread =>
            obtain ⟨tag, hne, htag, rfl⟩ := strictIdentifiers?_eq_nil_iff.mp hread
            obtain ⟨first, more, rfl⟩ := List.exists_cons_of_ne_nil hne
            exact ⟨first :: more, [], htag, by simp, (List.append_nil _).symm⟩
        · next build hread =>
            obtain ⟨tag, hne, htag, rfl⟩ := of_strictIdentifiers? hread
            obtain ⟨metadata, hother, hmetadata, rfl⟩ :=
              strictIdentifiers?_eq_nil_iff.mp (of_decide_eq_true h)
            obtain ⟨first, more, rfl⟩ := List.exists_cons_of_ne_nil hne
            obtain ⟨next, others, rfl⟩ := List.exists_cons_of_ne_nil hother
            exact ⟨first :: more, next :: others, htag, hmetadata, rfl⟩
        · cases h
    · obtain ⟨metadata, hother, hmetadata, rfl⟩ :=
        strictIdentifiers?_eq_nil_iff.mp (of_decide_eq_true h)
      obtain ⟨next, others, rfl⟩ := List.exists_cons_of_ne_nil hother
      exact ⟨[], next :: others, by simp, hmetadata, rfl⟩
    · cases h
  · rintro ⟨tag, metadata, htag, hmetadata, rfl⟩
    have hbuild (hne : metadata ≠ []) : strictIdentifiers? (dotted metadata) = some [] :=
      strictIdentifiers?_eq_nil_iff.mpr ⟨metadata, hne, hmetadata, rfl⟩
    cases tag with
    | nil =>
        cases metadata with
        | nil => rfl
        | cons next others => exact decide_eq_true (hbuild (List.cons_ne_nil _ _))
    | cons first more =>
        have hread := strictIdentifiers?_append (List.cons_ne_nil first more) htag
          (fun c hc => head?_marked hc : ∀ c ∈ (marked '+' metadata).head?, c = '+')
        change isStrictTail ('-' :: (dotted (first :: more) ++ marked '+' metadata)) = true
        rw [isStrictTail, hread]
        cases metadata with
        | nil => rfl
        | cons next others => exact decide_eq_true (hbuild (List.cons_ne_nil _ _))

/-! ## Forms that are taken -/

theorem Form.Obeys.mono {number other identifier kind : List Char → Prop} {form : Form}
    (h : form.Obeys number identifier) (hnumber : ∀ digits, number digits → other digits)
    (hidentifier : ∀ part, identifier part → kind part) : form.Obeys other kind where
  major := hnumber _ h.major
  minor := hnumber _ h.minor
  patch := hnumber _ h.patch
  tag := fun part hpart => hidentifier part (h.tag part hpart)
  metadata := h.metadata

/-- No digit stands behind the numbers. -/
theorem Form.not_isDecimal_of_head? (form : Form)
    (h : c ∈ (marked '-' form.tag ++ marked '+' form.metadata).head?) : isDecimal c = false := by
  have hmark : c = '-' ∨ c = '+' := by
    rw [List.head?_append] at h
    rcases Option.or_eq_some_iff.mp h with htag | ⟨-, hmetadata⟩
    · exact .inl (head?_marked htag)
    · exact .inr (head?_marked hmetadata)
  rcases hmark with rfl | rfl <;> exact (digits_of_ascii (by decide)).1

/-- **Full forms** are what the strict reader takes. -/
theorem isStrictChars_iff : isStrictChars text = true ↔
    ∃ form : Form, form.Obeys IsWideNumber IsIdentifier ∧ form.text = text := by
  constructor
  · intro h
    unfold isStrictChars at h
    split at h
    · next rest hread =>
        obtain ⟨major, minor, patch, hmajor, hminor, hpatch, rfl⟩ := of_strictNumbers? hread
        obtain ⟨tag, metadata, htag, hmetadata, rfl⟩ := isStrictTail_iff.mp h
        exact ⟨⟨major, minor, patch, tag, metadata⟩,
          ⟨hmajor, hminor, hpatch, htag, hmetadata⟩, rfl⟩
    · cases h
  · rintro ⟨form, hform, rfl⟩
    rw [isStrictChars, Form.text, strictNumbers?_append hform.major hform.minor hform.patch
      fun c hc => form.not_isDecimal_of_head? hc]
    exact isStrictTail_iff.mpr ⟨form.tag, form.metadata, hform.tag, hform.metadata, rfl⟩

end ManifestLint.Version
