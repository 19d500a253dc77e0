import ManifestLint.Proofs.Text.Lines
import ManifestLint.Proofs.Version.Precedence

/-!
# The range of a requirement

A requirement consists of an operator and the text of a version, its anchor.  It accepts the
versions of a range: those from the anchor on or up to it, in the order of precedence, and for a
caret or a tilde only as far as the next release that may break something.  Pre-releases have a
rule of their own.  The program tests single numbers instead; on every pair of versions both come
to the same.

* `consists_iff`: what a requirement consists of.
* `Operator.accepts_iff_within`: tests of single numbers and ranges.
* `Offer.satisfies_eq`: choices of choices.
* `satisfies_iff_within`: what a requirement accepts.
-/

namespace ManifestLint.Version

open ManifestLint.Text

/-! ## The operator of a requirement -/

/-- The spellings of an operator.  A caret may be left out. -/
def Operator.spellings : Operator → List (List Char)
  | caret => [['^'], []]
  | tilde => [['~']]
  | exact => [['=']]
  | atLeast => [['>', '=']]
  | above => [['>']]
  | atMost => [['<', '=']]
  | below => [['<']]

/-- A requirement consists of an operator and the text of a version, with blanks around both.  Of
all spellings that it starts with the longest one is its operator. -/
def Consists (requirement : List Char) (operator : Operator) (text : List Char) : Prop :=
  ∃ spelling ∈ operator.spellings, ∃ rest, trim isBlank requirement = spelling ++ rest ∧
    text = trim isBlank rest ∧
    ∀ other : Operator, ∀ longer ∈ other.spellings, longer <+: trim isBlank requirement →
      longer.length ≤ spelling.length

theorem mem_operatorTexts_iff {spelling : List Char} {operator : Operator} :
    (spelling, operator) ∈ operatorTexts ↔ spelling ∈ operator.spellings ∧ spelling ≠ [] := by
  cases operator <;> simp +contextual [operatorTexts, Operator.spellings, or_and_right]

/-- No spelling stands behind a shorter one. -/
theorem operatorTexts_falling :
    operatorTexts.Pairwise fun first second => second.1.length ≤ first.1.length := by
  decide

theorem operator_of_spelling {spelling : List Char} {first second : Operator}
    (hfirst : spelling ∈ first.spellings) (hsecond : spelling ∈ second.spellings) :
    first = second := by
  cases first <;> cases second <;> simp_all [Operator.spellings]

/-- The first spelling of the list that fits is the longest one. -/
theorem consists_splitOperator (requirement : List Char) :
    Consists requirement (splitOperator requirement).1 (splitOperator requirement).2 := by
  rw [splitOperator]
  cases hfound : operatorTexts.find? fun spelling =>
      spelling.1.isPrefixOf (trim isBlank requirement) with
  | none =>
      have htrimmed := (trim_of_bare (bare_trim isBlank requirement)).symm
      refine ⟨[], List.mem_of_getElem? (i := 1) rfl, _, rfl, htrimmed, ?_⟩
      intro other longer hlonger hstart
      by_contra hmore
      have hmem : (longer, other) ∈ operatorTexts :=
        mem_operatorTexts_iff.mpr ⟨hlonger, fun hnone => hmore (by simp [hnone])⟩
      exact List.find?_eq_none.mp hfound _ hmem (List.isPrefixOf_iff_prefix.mpr hstart)
  | some found =>
      obtain ⟨spelling, operator⟩ := found
      obtain ⟨hfits, before, after, hlist, hbefore⟩ := List.find?_eq_some_iff_append.mp hfound
      obtain ⟨rest, hrest⟩ := List.isPrefixOf_iff_prefix.mp hfits
      have hmem := mem_operatorTexts_iff.mp (List.mem_of_find?_eq_some hfound)
      have hbehind : (trim isBlank requirement).drop spelling.length = rest := by
        rw [← hrest, List.drop_left]
      refine ⟨spelling, hmem.1, rest, hrest.symm, congrArg (trim isBlank) hbehind, ?_⟩
      intro other longer hlonger hstart
      by_cases hnone : longer = []
      · simp [hnone]
      · have hother := mem_operatorTexts_iff.mpr ⟨hlonger, hnone⟩
        rw [hlist] at hother
        rcases List.mem_append.mp hother with hearlier | hlater
        · have hfails := hbefore _ hearlier
          rw [List.isPrefixOf_iff_prefix.mpr hstart] at hfails
          cases hfails
        · have hfalling := operatorTexts_falling
          rw [hlist] at hfalling
          rcases List.mem_cons.mp hlater with hsame | hafter
          · rw [(Prod.mk.inj hsame).1]
          · exact (List.pairwise_cons.mp (List.pairwise_append.mp hfalling).2.1).1 _ hafter

/-- **What a requirement consists of** is one operator and one text. -/
theorem consists_iff {requirement text : List Char} {operator : Operator} :
    Consists requirement operator text ↔ splitOperator requirement = (operator, text) := by
  constructor
  · rintro ⟨spelling, hspelling, rest, hrest, rfl, hlongest⟩
    obtain ⟨found, hfound, behind, hbehind, htext, hmost⟩ := consists_splitOperator requirement
    have hlength : found.length = spelling.length := by
      apply Nat.le_antisymm
      · exact hlongest _ found hfound ⟨behind, hbehind.symm⟩
      · exact hmost operator spelling hspelling ⟨rest, hrest.symm⟩
    obtain ⟨rfl, rfl⟩ := List.append_inj (hbehind.symm.trans hrest) hlength
    exact Prod.ext (operator_of_spelling hfound hspelling) htext
  · intro hsplit
    have hconsists := consists_splitOperator requirement
    rwa [hsplit] at hconsists

/-! ## Ranges -/

/-- The place of a release among all. -/
def release (major minor patch : Nat) : ℕ ×ₗ ℕ ×ₗ ℕ := toLex (major, toLex (minor, patch))

/-- The place of the release that a version is or leads to. -/
def place (version : Version) : ℕ ×ₗ ℕ ×ₗ ℕ := release version.major version.minor version.patch

/-- A version is in the range of an operator, given its order relative to the anchor.  The range of
a caret ends before the next major version, that is, as long as the major version is zero, before
the next minor one; the range of a tilde ends before the next minor version. -/
def Operator.Within (operator : Operator) (anchor offered : Version) (order : Ordering) : Prop :=
  match operator with
  | caret => order ≠ .lt ∧ offered.place <
      if 0 < anchor.major then release (anchor.major + 1) 0 0 else release 0 (anchor.minor + 1) 0
  | tilde => order ≠ .lt ∧ offered.place < release anchor.major (anchor.minor + 1) 0
  | exact => order = .eq
  | atLeast => order ≠ .lt
  | above => order = .gt
  | atMost => order ≠ .gt
  | below => order = .lt

theorem release_lt_iff {a b c x y z : Nat} :
    release a b c < release x y z ↔ a < x ∨ a = x ∧ (b < y ∨ b = y ∧ c < z) := by
  rw [release, release, Prod.Lex.toLex_lt_toLex, Prod.Lex.toLex_lt_toLex]

theorem compareTriple_compares (a b : Version) : (compareTriple a b).Compares a.place b.place :=
  compares_toLex ((compare_iff ..).mp rfl)
    (compares_toLex ((compare_iff ..).mp rfl) ((compare_iff ..).mp rfl))

/-- What is not below the anchor belongs to no earlier release. -/
theorem place_le_of_compare {anchor offered : Version} {order : Ordering}
    (hcompare : compare offered anchor = .ok order) (horder : order ≠ .lt) :
    anchor.place ≤ offered.place := by
  have hnumbers := compareTriple_compares offered anchor
  rw [← hnumbers.ne_lt]
  rintro hbelow
  rw [compare, hbelow] at hcompare
  exact horder (Except.ok.inj hcompare).symm

/-- **Ranges.**  Given that the version is not below the anchor, its numbers agree with those of the
anchor as far as the operator asks exactly if it is below the end of the range. -/
theorem Operator.accepts_iff_within {anchor offered : Version} {order : Ordering}
    (operator : Operator) (hcompare : compare offered anchor = .ok order) :
    operator.accepts anchor offered order = true ↔ operator.Within anchor offered order := by
  have hplace (horder : order ≠ .lt) := not_lt.mpr (place_le_of_compare hcompare horder)
  rw [place, place, release_lt_iff] at hplace
  cases operator with
  | caret =>
      simp only [accepts, Within, place, Bool.and_eq_true, Bool.or_eq_true, decide_eq_true_iff,
        bne_iff_ne, apply_ite (release offered.major offered.minor offered.patch < ·),
        release_lt_iff]
      split
      · next hmajor =>
          constructor
          · rintro ⟨⟨hsame, -⟩, horder⟩
            exact ⟨horder, .inl (by omega)⟩
          · rintro ⟨horder, hend⟩
            have := hplace horder
            exact ⟨⟨by omega, .inl (by omega)⟩, horder⟩
      · next hmajor =>
          constructor
          · rintro ⟨⟨hsame, hnonzero | hminor⟩, horder⟩
            · exact absurd hnonzero (by omega)
            · exact ⟨horder, .inr ⟨by omega, .inl (by omega)⟩⟩
          · rintro ⟨horder, hend⟩
            have := hplace horder
            exact ⟨⟨by omega, .inr (by omega)⟩, horder⟩
  | tilde =>
      simp only [accepts, Within, place, Bool.and_eq_true, decide_eq_true_iff, bne_iff_ne,
        release_lt_iff]
      constructor
      · rintro ⟨⟨hmajor, hminor⟩, horder⟩
        exact ⟨horder, .inr ⟨hmajor, .inl (by omega)⟩⟩
      · rintro ⟨horder, hend⟩
        have := hplace horder
        exact ⟨⟨by omega, by omega⟩, horder⟩
  | exact => simp [accepts, Within]
  | atLeast => simp [accepts, Within]
  | above => simp [accepts, Within]
  | atMost => simp [accepts, Within]
  | below => simp [accepts, Within]

/-! ## Choices of choices -/

mutual

/-- The texts that an offer leaves the choice of. -/
def Offer.texts : Offer → List String
  | .one text => [text]
  | .choice offers => Offer.allTexts offers

/-- The texts that several offers leave the choice of. -/
def Offer.allTexts : List Offer → List String
  | [] => []
  | offer :: rest => offer.texts ++ Offer.allTexts rest

end

theorem anySatisfies_append (requirement : String) (first second : List String) :
    anySatisfies requirement (first ++ second) = (do
      if ← anySatisfies requirement first then return true
      else anySatisfies requirement second) := by
  induction first with
  | nil => rfl
  | cons text rest ih =>
      rw [List.cons_append, anySatisfies, anySatisfies, ih]
      cases satisfies requirement text with
      | error refused => rfl
      | ok satisfied => cases satisfied <;> rfl

mutual

/-- An offer is asked about its texts, one after the other. -/
theorem Offer.satisfies_eq (requirement : String) :
    (offer : Offer) → offer.satisfies requirement = Version.anySatisfies requirement offer.texts
  | .one text => by
      rw [Offer.satisfies, Offer.texts, Version.anySatisfies, Version.anySatisfies]
      cases Version.satisfies requirement text with
      | error refused => rfl
      | ok satisfied => cases satisfied <;> rfl
  | .choice offers => by
      rw [Offer.satisfies, Offer.texts]
      exact Offer.anySatisfies_eq requirement offers

theorem Offer.anySatisfies_eq (requirement : String) :
    (offers : List Offer) →
      Offer.anySatisfies requirement offers =
        Version.anySatisfies requirement (Offer.allTexts offers)
  | [] => rfl
  | offer :: rest => by
      rw [Offer.anySatisfies, Offer.allTexts, anySatisfies_append,
        Offer.satisfies_eq requirement offer, Offer.anySatisfies_eq requirement rest]

end

theorem Offer.texts_subset {offer : Offer} {offers : List Offer} (h : offer ∈ offers) :
    offer.texts ⊆ Offer.allTexts offers := by
  induction offers with
  | nil => cases h
  | cons first rest ih =>
      rw [Offer.allTexts]
      rcases List.mem_cons.mp h with rfl | hrest
      · exact List.subset_append_left _ _
      · exact List.Subset.trans (ih hrest) (List.subset_append_right _ _)

theorem Offer.exists_of_mem_allTexts {text : String} {offers : List Offer}
    (h : text ∈ Offer.allTexts offers) : ∃ offer ∈ offers, text ∈ offer.texts := by
  induction offers with
  | nil => cases h
  | cons first rest ih =>
      rw [Offer.allTexts] at h
      rcases List.mem_append.mp h with hfirst | hrest
      · exact ⟨first, List.mem_cons_self, hfirst⟩
      · obtain ⟨offer, hoffer, htext⟩ := ih hrest
        exact ⟨offer, List.mem_cons_of_mem _ hoffer, htext⟩

/-! ## What a requirement accepts -/

section

variable {requirement : String} (hanchor : ∀ version ∈ anchor? requirement, version.Regular)

include hanchor

/-- Regular versions are never refused. -/
theorem anySatisfies_of_regular {texts : List String}
    (htexts : ∀ text ∈ texts, ∀ version ∈ parse? text, version.Regular) :
    ∃ satisfied, anySatisfies requirement texts = .ok satisfied ∧
      (satisfied = true ↔ ∃ text ∈ texts, satisfies requirement text = .ok true) := by
  have houtcome := anySatisfies_outcome requirement texts
  cases hsatisfied : anySatisfies requirement texts with
  | ok satisfied => exact ⟨satisfied, rfl, houtcome.of_ok hsatisfied⟩
  | error refused =>
      rcases houtcome.of_error hsatisfied with
        ⟨version, hversion, hdeceives⟩ | ⟨text, htext, version, hversion, hdeceives⟩
      · exact absurd hdeceives ((hanchor version hversion).not_deceives refused)
      · exact absurd hdeceives ((htexts text htext version hversion).not_deceives refused)

end

theorem compare_of_regular {a b : Version} (ha : a.Regular) (hb : b.Regular) :
    ∃ order, compare a b = .ok order := by
  cases hcompare : compare a b with
  | ok order => exact ⟨order, rfl⟩
  | error refused =>
      rcases (compare_outcome a b).of_error hcompare with hdeceives | hdeceives
      · exact absurd hdeceives (ha.not_deceives refused)
      · exact absurd hdeceives (hb.not_deceives refused)

theorem admitsPrerelease_iff {anchor offered : Version} :
    admitsPrerelease anchor offered = true ↔
      offered.prerelease = "" ∨ anchor.prerelease ≠ "" ∧ anchor.triple = offered.triple := by
  simp [admitsPrerelease]

/-- **What a requirement accepts.**  If identifiers of digits are made of ASCII digits, a version
whose text is not that of the requirement is accepted exactly if it is a release, or a pre-release
of the release that the requirement has a pre-release of, and is in the range of the requirement's
operator.  Of a choice it is enough that one offer is accepted. -/
theorem satisfies_iff_within {requirement : String}
    (hrequirement : ∀ version ∈ anchor? requirement, version.Regular) :
    (∀ published anchor offered, strip requirement ≠ strip published →
        anchor? requirement = some anchor → parse? published = some offered → offered.Regular →
          ∃ operator text order satisfied,
            (∀ other others, Consists requirement.toList other others ↔
              other = operator ∧ others = text) ∧
            parseChars? text = some anchor ∧
            compare offered anchor = .ok order ∧
            satisfies requirement published = .ok satisfied ∧
            (satisfied = true ↔
              (offered.prerelease = "" ∨
                anchor.prerelease ≠ "" ∧ anchor.triple = offered.triple) ∧
              operator.Within anchor offered order)) ∧
      ∀ offers : List Offer,
        (∀ text ∈ Offer.allTexts offers, ∀ version ∈ parse? text, version.Regular) →
          ∃ satisfied, (Offer.choice offers).satisfies requirement = .ok satisfied ∧
            (satisfied = true ↔ ∃ offer ∈ offers, offer.satisfies requirement = .ok true) := by
  refine ⟨?_, ?_⟩
  · intro published anchor offered hdiffers hanchor hoffered hregular
    obtain ⟨order, hcompare⟩ := compare_of_regular hregular (hrequirement anchor hanchor)
    have hresult : satisfies requirement published =
        .ok (admitsPrerelease anchor offered &&
          (splitOperator requirement.toList).1.accepts anchor offered order) := by
      rw [satisfies, if_neg hdiffers, hanchor, hoffered]
      dsimp only
      rw [hcompare]
      cases admitsPrerelease anchor offered <;> rfl
    refine ⟨(splitOperator requirement.toList).1, _, order, _, fun other others => ?_, hanchor,
      hcompare, hresult, ?_⟩
    · rw [consists_iff, Prod.ext_iff, eq_comm, eq_comm (b := others)]
    · rw [Bool.and_eq_true, admitsPrerelease_iff, Operator.accepts_iff_within _ hcompare]
  · intro offers hregular
    have hone : ∀ offer ∈ offers, offer.satisfies requirement = .ok true ↔
        ∃ text ∈ offer.texts, satisfies requirement text = .ok true := by
      intro offer hoffer
      obtain ⟨satisfied, hsatisfied, hany⟩ := anySatisfies_of_regular hrequirement
        fun text htext => hregular text (Offer.texts_subset hoffer htext)
      rw [Offer.satisfies_eq, hsatisfied, Except.ok.injEq, hany]
    obtain ⟨satisfied, hsatisfied, hany⟩ := anySatisfies_of_regular hrequirement hregular
    refine ⟨satisfied, (Offer.satisfies_eq requirement _).trans hsatisfied, hany.trans ⟨?_, ?_⟩⟩
    · rintro ⟨text, htext, hholds⟩
      obtain ⟨offer, hoffer, hmem⟩ := Offer.exists_of_mem_allTexts htext
      exact ⟨offer, hoffer, (hone offer hoffer).mpr ⟨text, hmem, hholds⟩⟩
    · rintro ⟨offer, hoffer, hholds⟩
      obtain ⟨text, htext, hsome⟩ := (hone offer hoffer).mp hholds
      exact ⟨text, Offer.texts_subset hoffer htext, hsome⟩

instance (version : Version) : Decidable version.Regular :=
  have (identifier : List Char) : Decidable (∀ c ∈ identifier, c.isDigit = true) :=
    List.decidableBAll _ _
  List.decidableBAll _ _

/-- A later pre-release of the same release is in the range, by itself and as one of a choice. -/
theorem later_candidate_within_range :
    let requirement := " ^ 0.3.1-rc.1"
    let anchor : Version := { major := 0, minor := 3, patch := 1, prerelease := "rc.1" }
    let offered : Version :=
      { major := 0, minor := 3, patch := 1, prerelease := "rc.02", build := "exp" }
    (∀ version ∈ anchor? requirement, version.Regular) ∧ anchor? requirement = some anchor ∧
      parse? "v0.3.1-rc.02+exp" = some offered ∧ offered.Regular ∧
      (∃ operator text order, Consists requirement.toList operator text ∧
        compare offered anchor = .ok order ∧ operator.Within anchor offered order) ∧
      (Offer.choice [.one "0.2.9", .choice [.one "v0.3.1-rc.02+exp"]]).satisfies requirement =
        .ok true := by
  intro requirement anchor offered
  have hanchor : anchor? requirement = some anchor := by decide
  have hoffered : parse? "v0.3.1-rc.02+exp" = some offered := by decide
  have hregular : offered.Regular := by decide
  have hrequirement : ∀ version ∈ anchor? requirement, version.Regular := by decide
  have hdiffers : Text.strip requirement ≠ Text.strip "v0.3.1-rc.02+exp" := by decide
  have hholds : satisfies requirement "v0.3.1-rc.02+exp" = .ok true := by decide
  obtain ⟨hone, hchoice⟩ := satisfies_iff_within hrequirement
  obtain ⟨operator, text, order, satisfied, hconsists, -, hcompare, hsatisfied, hwithin⟩ :=
    hone _ anchor offered hdiffers hanchor hoffered hregular
  refine ⟨hrequirement, hanchor, hoffered, hregular, ⟨operator, text, order, ?_, hcompare, ?_⟩, ?_⟩
  · exact (hconsists operator text).mpr ⟨rfl, rfl⟩
  · exact (hwithin.mp (Except.ok.inj (hsatisfied.symm.trans hholds))).2
  · obtain ⟨chosen, hchosen, hsome⟩ := hchoice [.one "0.2.9", .choice [.one "v0.3.1-rc.02+exp"]]
      (by decide)
    rw [hchosen, hsome.mpr ⟨.choice [.one "v0.3.1-rc.02+exp"], by simp, by decide⟩]

end ManifestLint.Version
