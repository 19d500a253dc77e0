import ManifestLint.Proofs.Sorting.Ordered
import ManifestLint.Proofs.Version.Precedence

/-!
# Picking a version

Texts in which every identifier of digits is written the usual way are sorted by their ranks, and
those of one rank stay in their order.  What is picked for a requirement is the first text of the
sorted list that satisfies it, so that none which does is above.  That the texts are sorted
once more after they have been filtered makes no difference.

* `sortTexts_newest_eq`: sorting, newest first.
* `latestSatisfying?_eq`: picking the newest of a list.
* `Index.Package.findSatisfying?_newest`: the record that is picked.
-/

namespace ManifestLint

namespace Version

open Sorting (Alike Rising mayPrecede)

variable {requirement text : String} {texts : List String}

/-! ## Sorting -/

/-- The rank of a text among texts that are sorted newest first. -/
def ageRank (text : String) :
    (WithBot (ℕ ×ₗ ℕ ×ₗ ℕ ×ₗ WithTop (List (ℕ ⊕ₗ List Char))))ᵒᵈ :=
  OrderDual.toDual (textRank text)

/-- Texts are ranked by anything that tells what comparing them gives. -/
theorem ranked_of_compares {ρ : Type} [LinearOrder ρ] {rank : String → ρ}
    (h : ∀ a ∈ texts, ∀ b ∈ texts,
      ∃ order, compareTexts a b = .ok order ∧ order.Compares (rank a) (rank b)) :
    Sorting.Ranked textBefore rank texts := by
  intro a ha b hb
  obtain ⟨order, hresult, horder⟩ := h a ha b hb
  rw [textBefore, hresult]
  cases order with
  | lt =>
      have hlt : rank a < rank b := horder
      simp [hlt, Except.map]
  | eq =>
      have heq : rank a = rank b := horder
      simp [heq, Except.map]
  | gt =>
      have hgt : rank b < rank a := horder
      simp [hgt.le, Except.map]

theorem ranked_textBefore (h : ∀ text ∈ texts, TextCanonical text) :
    Sorting.Ranked textBefore textRank texts :=
  ranked_of_compares fun a ha b hb => compareTexts_ranks (h a ha) (h b hb)

/-- **Newest first.**  Texts are sorted by rank, equals in their order. -/
theorem sortTexts_newest_eq (h : ∀ text ∈ texts, TextCanonical text) :
    sortTexts true texts = .ok (texts.mergeSort (mayPrecede ageRank)) :=
  Sorting.sortDownBy_eq (ranked_textBefore h)

theorem compareTexts_of_ageRank_le {a b : String} (ha : TextCanonical a) (hb : TextCanonical b)
    (h : ageRank b ≤ ageRank a) : ∃ order, compareTexts a b = .ok order ∧ order ≠ .gt := by
  obtain ⟨order, hresult, horder⟩ := compareTexts_ranks ha hb
  exact ⟨order, hresult, horder.ne_gt.mpr h⟩

/-! ## Filtering -/

theorem Canonical.regular {version : Version} (h : version.Canonical) : version.Regular :=
  fun identifier hmem hnumeric => (h identifier hmem hnumeric).1

/-- Whether a text satisfies a requirement, where no comparison is refused. -/
def meets (requirement text : String) : Bool := satisfies requirement text = .ok true

variable (hanchor : ∀ version ∈ anchor? requirement, version.Canonical)

include hanchor

/-- Canonical versions are never refused. -/
theorem satisfies_eq_meets (htext : TextCanonical text) :
    satisfies requirement text = .ok (meets requirement text) := by
  cases hsatisfies : satisfies requirement text with
  | ok satisfied => cases satisfied <;> simp [meets, hsatisfies]
  | error error =>
      rcases (satisfies_outcome requirement text).of_error hsatisfies with
        ⟨version, hversion, hdeceives⟩ | ⟨version, hversion, hdeceives⟩
      · exact absurd hdeceives ((hanchor version hversion).regular.not_deceives error)
      · exact absurd hdeceives ((htext version hversion).regular.not_deceives error)

theorem anySatisfies_eq (h : ∀ text ∈ texts, TextCanonical text) :
    anySatisfies requirement texts = .ok (texts.any (meets requirement)) := by
  induction texts with
  | nil => rfl
  | cons text rest ih =>
      obtain ⟨htext, hrest⟩ := List.forall_mem_cons.mp h
      rw [anySatisfies, satisfies_eq_meets hanchor htext, List.any_cons]
      cases meets requirement text with
      | true => rfl
      | false => exact ih hrest

omit hanchor in
/-- The first text of the sorted list that satisfies the requirement is picked, if none is
refused. -/
theorem latestSatisfying?_of_meets (h : ∀ text ∈ texts, TextCanonical text)
    (hmeets : ∀ text ∈ texts, satisfies requirement text = .ok (meets requirement text)) :
    latestSatisfying? requirement texts =
      .ok ((texts.mergeSort (mayPrecede ageRank)).find? (meets requirement)) := by
  have hfilter : texts.filterM (satisfies requirement) =
      .ok (texts.filter (meets requirement)) := filterM_eq_filter hmeets
  have hsorted : (texts.filter (meets requirement)).mergeSort (mayPrecede ageRank) =
      (texts.mergeSort (mayPrecede ageRank)).filter (meets requirement) := by
    refine (Sorting.eq_mergeSort ?_ ?_).symm
    · exact (Sorting.rising_mergeSort texts).sublist List.filter_sublist
    · exact (Sorting.alike_mergeSort texts).filter _
  have hcanonical : ∀ text ∈ texts.filter (meets requirement), TextCanonical text :=
    fun text htext => h text (List.mem_of_mem_filter htext)
  rw [latestSatisfying?, hfilter, ← List.head?_filter, ← hsorted]
  change (if (texts.filter (meets requirement)).isEmpty then pure none
    else do return (← sortTexts true (texts.filter (meets requirement))).head? :
      Except NotANumber (Option String)) = _
  rw [sortTexts_newest_eq hcanonical]
  split
  · next hempty =>
      rw [List.isEmpty_iff.mp hempty, List.mergeSort_nil]
      rfl
  · rfl

/-- **Picking.**  The first text of the sorted list that satisfies the requirement is picked. -/
theorem latestSatisfying?_eq (h : ∀ text ∈ texts, TextCanonical text) :
    latestSatisfying? requirement texts =
      .ok ((texts.mergeSort (mayPrecede ageRank)).find? (meets requirement)) :=
  latestSatisfying?_of_meets h fun text htext => satisfies_eq_meets hanchor (h text htext)

omit hanchor in
/-- A text of blanks satisfies only requirements of blanks. -/
theorem meets_empty (hrequirement : Text.strip requirement ≠ "") :
    meets requirement "" = false := by
  have hother : Text.strip requirement ≠ Text.strip "" := hrequirement
  rw [meets, satisfies, if_neg hother]
  cases anchor? requirement <;> rfl

end Version

namespace Index.Package

open Version
open Sorting (mayPrecede)

variable {package : Package} {requirement : String}

/-- The last record with a version is one of the package. -/
theorem get?_of_mem {version : String} (h : version ∈ package.versionTexts) :
    ∃ record, package.get? version = some record ∧ record ∈ package.records ∧
      record.version = version := by
  obtain ⟨published, hpublished, hversion⟩ := List.mem_map.mp h
  have hsome : (package.get? version).isSome = true := by
    rw [get?, List.find?_isSome]
    exact ⟨published, List.mem_reverse.mpr hpublished, decide_eq_true hversion⟩
  obtain ⟨record, hrecord⟩ := Option.isSome_iff_exists.mp hsome
  rw [get?] at hrecord
  refine ⟨record, hrecord, List.mem_reverse.mp (List.mem_of_find?_eq_some hrecord), ?_⟩
  simpa using List.find?_some hrecord

section

variable (hrequirement : Text.strip requirement ≠ "")
  (hanchor : ∀ version ∈ anchor? requirement, version.Canonical)
  (hpublished : ∀ text ∈ package.versionTexts, TextCanonical text)

include hpublished

theorem newestFirst_eq :
    package.newestFirst = .ok (package.versionTexts.mergeSort (mayPrecede ageRank)) :=
  sortTexts_newest_eq hpublished

/-- The record of the first text among the sorted ones that satisfies the requirement, unless that
text is empty, if no text is refused. -/
theorem findSatisfying?_of_meets (hmeets : ∀ text ∈ package.versionTexts,
      satisfies requirement text = .ok (meets requirement text)) :
    package.findSatisfying? requirement =
      .ok (((package.versionTexts.mergeSort (mayPrecede ageRank)).find?
        (meets requirement)).bind fun version =>
          if version = "" then none else package.get? version) := by
  have hsorted : ∀ text ∈ package.versionTexts.mergeSort (mayPrecede ageRank),
      TextCanonical text := fun text htext => hpublished text (List.mem_mergeSort.mp htext)
  have hpicked := latestSatisfying?_of_meets hsorted fun text htext =>
    hmeets text (List.mem_mergeSort.mp htext)
  rw [List.mergeSort_of_pairwise (Sorting.rising_iff.mp (Sorting.rising_mergeSort _))] at hpicked
  rw [findSatisfying?, newestFirst_eq hpublished]
  change (latestSatisfying? requirement _ >>= _) = _
  rw [hpicked]
  cases (package.versionTexts.mergeSort (mayPrecede ageRank)).find? (meets requirement) <;> rfl

include hanchor

theorem anySatisfies_newestFirst_eq :
    (package.newestFirst >>= anySatisfies requirement) =
      .ok ((package.versionTexts.mergeSort (mayPrecede ageRank)).any (meets requirement)) := by
  rw [newestFirst_eq hpublished]
  exact anySatisfies_eq hanchor fun text htext => hpublished text (List.mem_mergeSort.mp htext)

/-- The record of the first text among the sorted ones that satisfies the requirement, unless that
text is empty. -/
theorem findSatisfying?_eq_bind :
    package.findSatisfying? requirement =
      .ok (((package.versionTexts.mergeSort (mayPrecede ageRank)).find?
        (meets requirement)).bind fun version =>
          if version = "" then none else package.get? version) :=
  findSatisfying?_of_meets hpublished fun text htext =>
    satisfies_eq_meets hanchor (hpublished text htext)

include hrequirement

/-- The record of the first text among the sorted ones that satisfies the requirement. -/
theorem findSatisfying?_eq :
    package.findSatisfying? requirement =
      .ok (((package.versionTexts.mergeSort (mayPrecede ageRank)).find?
        (meets requirement)).bind package.get?) := by
  rw [findSatisfying?_eq_bind hanchor hpublished]
  cases hfound : (package.versionTexts.mergeSort (mayPrecede ageRank)).find?
      (meets requirement) with
  | none => rfl
  | some version =>
      have hsome : version ≠ "" := by
        rintro rfl
        have hmeets := List.find?_some hfound
        rw [meets_empty hrequirement] at hmeets
        cases hmeets
      exact congrArg Except.ok (if_neg hsome)

/-- **The best record.**  A record is picked exactly if some published version satisfies the
requirement.  Its version does, and none that does is above it. -/
theorem findSatisfying?_newest :
    ∃ best, package.findSatisfying? requirement = .ok best ∧
      (package.newestFirst >>= anySatisfies requirement) = .ok best.isSome ∧
      (best = none → ∀ record ∈ package.records,
        satisfies requirement record.version = .ok false) ∧
      ∀ record ∈ best, record ∈ package.records ∧
        satisfies requirement record.version = .ok true ∧
        ∀ other ∈ package.records, satisfies requirement other.version = .ok true →
          ∃ order, compareTexts other.version record.version = .ok order ∧ order ≠ .gt := by
  refine ⟨_, findSatisfying?_eq hrequirement hanchor hpublished, ?_, ?_, ?_⟩
  · rw [anySatisfies_newestFirst_eq hanchor hpublished, ← List.isSome_find?]
    cases hfound : (package.versionTexts.mergeSort (mayPrecede ageRank)).find?
        (meets requirement) with
    | none => rfl
    | some text =>
        obtain ⟨record, hget, -⟩ :=
          get?_of_mem (List.mem_mergeSort.mp (List.mem_of_find?_eq_some hfound))
        rw [Option.bind_some, hget]
        rfl
  · intro hnone record hrecord
    have htext : record.version ∈ package.versionTexts := List.mem_map_of_mem hrecord
    rw [satisfies_eq_meets hanchor (hpublished _ htext)]
    cases hfound : (package.versionTexts.mergeSort (mayPrecede ageRank)).find?
        (meets requirement) with
    | none =>
        have hfails := List.find?_eq_none.mp hfound _ (List.mem_mergeSort.mpr htext)
        rw [Bool.eq_false_of_not_eq_true hfails]
    | some text =>
        obtain ⟨other, hget, -⟩ :=
          get?_of_mem (List.mem_mergeSort.mp (List.mem_of_find?_eq_some hfound))
        rw [hfound, Option.bind_some, hget] at hnone
        cases hnone
  · intro record hrecord
    obtain ⟨text, hfound, hget⟩ := Option.bind_eq_some_iff.mp hrecord
    have hmem := List.mem_mergeSort.mp (List.mem_of_find?_eq_some hfound)
    obtain ⟨same, hsame, hrecords, hversion⟩ := get?_of_mem hmem
    obtain rfl := Option.some.inj (hget.symm.trans hsame)
    have hmeets := List.find?_some hfound
    subst hversion
    refine ⟨hrecords, of_decide_eq_true hmeets, fun other hother hsatisfies => ?_⟩
    have htext : other.version ∈ package.versionTexts := List.mem_map_of_mem hother
    refine compareTexts_of_ageRank_le (hpublished _ htext) (hpublished _ hmem) ?_
    exact (Sorting.rising_mergeSort _).le_of_find?_eq_some hfound _ (List.mem_mergeSort.mpr htext)
      (decide_eq_true hsatisfies)

end

end Index.Package

end ManifestLint
