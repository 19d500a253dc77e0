import ManifestLint.Proofs.Version.Picking

/-!
# Sorted versions and the latest of them

What users see of a sort is told without ranks: the texts of the list, each beside the next in
order, and those that no comparison tells apart as they stood.  A list is sorted if comparing any
two of its texts gives the opposite the other way round: they are then compared by value, whatever
zeros stand in front of their numbers.  The latest version for a
requirement is the first of the sorted list that satisfies it, though the list is sorted only after
it was filtered; and of a version that was published more than once the last record counts.

* `compareTexts_values`: comparing is comparing values, if the other way round gives the opposite.
* `IsSorted`: a list is another one in order.
* `sortTexts_isSorted_of_consistent`, `sortTexts_isSorted`: sorting in either direction.
* `latest_of_sorted`: the latest version and its record.
-/

namespace ManifestLint

namespace Version

open Sorting (mayPrecede)

variable {requirement : String} {texts : List String} {newestFirst : Bool}

/-! ## Comparing one way and the other -/

/-- Two comparisons give opposite orders. -/
def Opposite (x y : Except NotANumber Ordering) : Prop :=
  ∃ order, x = .ok order ∧ y = .ok order.swap

instance (x y : Except NotANumber Ordering) : Decidable (Opposite x y) :=
  decidable_of_iff (∃ order ∈ [Ordering.lt, .eq, .gt], x = .ok order ∧ y = .ok order.swap)
    ⟨fun ⟨order, _, h⟩ => ⟨order, h⟩, fun ⟨order, h⟩ => ⟨order, by cases order <;> simp, h⟩⟩

/-- Comparing any two texts of a list gives the opposite the other way round.  Two spellings of one
number are each above the other, so not every list is consistent. -/
def Consistent (texts : List String) : Prop :=
  ∀ a ∈ texts, ∀ b ∈ texts, Opposite (compareTexts a b) (compareTexts b a)

instance (texts : List String) : Decidable (Consistent texts) :=
  inferInstanceAs (Decidable (∀ a ∈ texts, ∀ b ∈ texts,
    Opposite (compareTexts a b) (compareTexts b a)))

/-- The value of an identifier: the number that it denotes, however it is written, or its code
points. -/
def identifierValue (identifier : List Char) : ℕ ⊕ₗ List Char :=
  if isNumeric identifier then Sum.inlₗ ((Text.decimalNumber? identifier).getD 0)
  else Sum.inrₗ identifier

/-- The value of a tag: those of its identifiers, and without a tag above all. -/
def tagValue (tag : List Char) : WithTop (List (ℕ ⊕ₗ List Char)) :=
  if tag.isEmpty then ⊤ else ((tag.splitOn '.').map identifierValue : List (ℕ ⊕ₗ List Char))

/-- The value of a version: its three numbers, then the value of its tag. -/
def versionValue (version : Version) : ℕ ×ₗ ℕ ×ₗ ℕ ×ₗ WithTop (List (ℕ ⊕ₗ List Char)) :=
  toLex (version.major, toLex (version.minor, toLex (version.patch,
    tagValue version.prerelease.toList)))

/-- The value of a text: that of its version, and without a version below all. -/
def textValue (text : String) : WithBot (ℕ ×ₗ ℕ ×ₗ ℕ ×ₗ WithTop (List (ℕ ⊕ₗ List Char))) :=
  (parse? text).map versionValue

/-- Identifiers are compared by value, but no two are equal. -/
theorem compareIdentifiers_of_ok {a b : List Char} {order : Ordering}
    (h : compareIdentifiers a b = .ok order) :
    order = if identifierValue a < identifierValue b then .lt else .gt := by
  unfold compareIdentifiers at h
  cases hnumeric : isNumeric a <;> cases hother : isNumeric b <;> rw [hnumeric, hother] at h
  · cases h
    simp only [identifierValue, hnumeric, hother, Bool.false_eq_true, if_false,
      Sum.Lex.inr_lt_inr_iff]
  · cases h
    simp [identifierValue, hnumeric, hother]
  · cases h
    simp [identifierValue, hnumeric, hother]
  · cases hfirst : Text.decimalNumber? a with
    | none => simp [identifierNumber, hfirst, bind, Except.bind] at h
    | some x =>
        cases hsecond : Text.decimalNumber? b with
        | none => simp [identifierNumber, hfirst, hsecond, bind, Except.bind] at h
        | some y =>
            simp only [identifierNumber, hfirst, hsecond] at h
            cases h
            simp only [identifierValue, hnumeric, hother, if_true, hfirst, hsecond,
              Option.getD_some, Sum.Lex.inl_lt_inl_iff]

/-- Identifiers are compared by value where the two ways give the opposite. -/
theorem compareIdentifiers_values {a b : List Char}
    (h : Opposite (compareIdentifiers a b) (compareIdentifiers b a)) :
    identifierValue a ≠ identifierValue b ∧ ∃ order, compareIdentifiers a b = .ok order ∧
      order.Compares (identifierValue a) (identifierValue b) := by
  obtain ⟨order, hresult, hback⟩ := h
  have horder := compareIdentifiers_of_ok hresult
  have hswap := compareIdentifiers_of_ok hback
  have hne : identifierValue a ≠ identifierValue b := by
    intro hsame
    rw [hsame, if_neg (lt_irrefl _)] at horder
    rw [hsame, if_neg (lt_irrefl _), horder] at hswap
    cases hswap
  exact ⟨hne, order, hresult, horder ▸ compares_of_ne hne⟩

theorem compareTags_values {xs ys : List (List Char)}
    (h : Opposite (compareTags xs ys) (compareTags ys xs)) :
    ∃ order, compareTags xs ys = .ok order ∧
      order.Compares (xs.map identifierValue) (ys.map identifierValue) := by
  induction xs generalizing ys with
  | nil =>
      cases ys with
      | nil => exact ⟨.eq, rfl, rfl⟩
      | cons y ys => exact ⟨.lt, rfl, List.Lex.nil⟩
  | cons x xs ih =>
      cases ys with
      | nil => exact ⟨.gt, rfl, List.Lex.nil⟩
      | cons y ys =>
          unfold compareTags at h ⊢
          by_cases hsame : x = y
          · subst hsame
            rw [if_pos rfl, if_pos rfl] at h
            obtain ⟨order, hresult, horder⟩ := ih h
            exact ⟨order, (if_pos rfl).trans hresult, compares_cons _ horder⟩
          · rw [if_neg hsame, if_neg (Ne.symm hsame)] at h
            obtain ⟨hne, order, hresult, horder⟩ := compareIdentifiers_values h
            exact ⟨order, (if_neg hsame).trans hresult, compares_cons_of_ne _ _ hne horder⟩

theorem comparePrerelease_values {a b : List Char}
    (h : Opposite (comparePrerelease a b) (comparePrerelease b a)) :
    ∃ order, comparePrerelease a b = .ok order ∧ order.Compares (tagValue a) (tagValue b) := by
  unfold comparePrerelease at h ⊢
  by_cases hsame : a = b
  · exact ⟨.eq, if_pos hsame, congrArg tagValue hsame⟩
  · rw [if_neg hsame, if_neg (Ne.symm hsame)] at h
    rw [if_neg hsame]
    cases a with
    | nil =>
        have hother : b.isEmpty = false := by
          rw [List.isEmpty_eq_false_iff]
          exact Ne.symm hsame
        refine ⟨.gt, rfl, ?_⟩
        simp [tagValue, hother]
    | cons c rest =>
        cases b with
        | nil => exact ⟨.lt, rfl, by simp [tagValue]⟩
        | cons d more =>
            obtain ⟨order, hresult, horder⟩ := compareTags_values h
            exact ⟨order, hresult, compares_coe_withTop horder⟩

theorem compareTriple_swap (a b : Version) : compareTriple b a = (compareTriple a b).swap := by
  simp only [compareTriple, Ordering.swap_then, Nat.compare_swap]

theorem compare_values {a b : Version} (h : Opposite (compare a b) (compare b a)) :
    ∃ order, compare a b = .ok order ∧ order.Compares (versionValue a) (versionValue b) := by
  have hnumbers := compares_triple a b
    (cmp_compares (tagValue a.prerelease.toList) (tagValue b.prerelease.toList))
  unfold compare at h ⊢
  rw [compareTriple_swap a b] at h
  cases htriple : compareTriple a b with
  | lt =>
      rw [htriple] at hnumbers
      exact ⟨.lt, rfl, hnumbers⟩
  | gt =>
      rw [htriple] at hnumbers
      exact ⟨.gt, rfl, hnumbers⟩
  | eq =>
      rw [htriple] at h
      obtain ⟨tags, hresult, htags⟩ := comparePrerelease_values h
      have hall := compares_triple a b htags
      rw [htriple] at hall
      exact ⟨tags, hresult, hall⟩

/-- **Texts are compared by value** where the two ways give the opposite. -/
theorem compareTexts_values {a b : String} (h : Opposite (compareTexts a b) (compareTexts b a)) :
    ∃ order, compareTexts a b = .ok order ∧ order.Compares (textValue a) (textValue b) := by
  refine compareTexts_compares fun v w hfirst hsecond => compare_values ?_
  rwa [compareTexts, compareTexts, hfirst, hsecond] at h

/-- A list is consistent if identifiers of digits are written the usual way. -/
theorem consistent_of_canonical (h : ∀ text ∈ texts, TextCanonical text) : Consistent texts := by
  intro a ha b hb
  obtain ⟨order, hresult, horder⟩ := compareTexts_ranks (h a ha) (h b hb)
  obtain ⟨back, hback, hopposite⟩ := compareTexts_ranks (h b hb) (h a ha)
  have hswap : back = order.swap := hopposite.inj (Ordering.compares_swap.mpr horder)
  exact ⟨order, hresult, hswap ▸ hback⟩

/-! ## Lists in order -/

/-- Whether comparing does not tell two texts apart. -/
def isEqual (a b : String) : Bool := compareTexts a b = .ok .eq

/-- A list is another one sorted, newest or oldest first: the same texts, none of which is on the
wrong side of another one, and equal ones in their order. -/
structure IsSorted (newestFirst : Bool) (texts sorted : List String) : Prop where
  perm : sorted.Perm texts
  ordered : sorted.Pairwise fun a b =>
    ∃ order, compareTexts a b = .ok order ∧ order ≠ if newestFirst then .lt else .gt
  stable : ∀ text ∈ texts, sorted.filter (isEqual text) = texts.filter (isEqual text)

/-- A list sorted by a rank is sorted, if the rank tells what comparing tells. -/
theorem isSorted_mergeSort {ρ : Type} [LinearOrder ρ] {rank : String → ρ}
    (hequal : ∀ a ∈ texts, ∀ b ∈ texts, isEqual a b = true ↔ rank a = rank b)
    (horder : ∀ a ∈ texts, ∀ b ∈ texts, rank a ≤ rank b →
      ∃ order, compareTexts a b = .ok order ∧ order ≠ if newestFirst then .lt else .gt) :
    IsSorted newestFirst texts (texts.mergeSort (mayPrecede rank)) where
  perm := List.mergeSort_perm texts _
  ordered := by
    refine (Sorting.rising_mergeSort texts).imp_of_mem fun {a b} ha hb hle => ?_
    exact horder a (List.mem_mergeSort.mp ha) b (List.mem_mergeSort.mp hb) hle
  stable := by
    intro text htext
    have hclass : ∀ other ∈ texts, isEqual text other = decide (rank other = rank text) :=
      fun other hother => Bool.eq_iff_iff.mpr <| by
        rw [hequal text htext other hother, decide_eq_true_iff, eq_comm]
    rw [List.filter_congr fun other hother => hclass other (List.mem_mergeSort.mp hother),
      List.filter_congr hclass]
    exact Sorting.alike_mergeSort texts (rank text)

/-- **Sorting.**  A consistent list is sorted in either direction. -/
theorem sortTexts_isSorted_of_consistent (newestFirst : Bool) (h : Consistent texts) :
    ∃ sorted, sortTexts newestFirst texts = .ok sorted ∧ IsSorted newestFirst texts sorted := by
  have hvalues : ∀ a ∈ texts, ∀ b ∈ texts,
      ∃ order, compareTexts a b = .ok order ∧ order.Compares (textValue a) (textValue b) :=
    fun a ha b hb => compareTexts_values (h a ha b hb)
  have hranked := ranked_of_compares hvalues
  have hequal : ∀ a ∈ texts, ∀ b ∈ texts, isEqual a b = true ↔ textValue a = textValue b := by
    intro a ha b hb
    obtain ⟨order, hresult, horder⟩ := hvalues a ha b hb
    rw [isEqual, hresult, decide_eq_true_iff, Except.ok.injEq]
    exact horder.eq_eq
  cases newestFirst with
  | true =>
      refine ⟨_, Sorting.sortDownBy_eq hranked, isSorted_mergeSort (fun a ha b hb => ?_) ?_⟩
      · rw [hequal a ha b hb, OrderDual.toDual_inj]
      · intro a ha b hb hle
        obtain ⟨order, hresult, horder⟩ := hvalues a ha b hb
        exact ⟨order, hresult, horder.ne_lt.mpr hle⟩
  | false =>
      refine ⟨_, Sorting.sortBy_eq hranked, isSorted_mergeSort hequal ?_⟩
      intro a ha b hb hle
      obtain ⟨order, hresult, horder⟩ := hvalues a ha b hb
      exact ⟨order, hresult, horder.ne_gt.mpr hle⟩

theorem sortTexts_isSorted (newestFirst : Bool) (h : ∀ text ∈ texts, TextCanonical text) :
    ∃ sorted, sortTexts newestFirst texts = .ok sorted ∧ IsSorted newestFirst texts sorted :=
  sortTexts_isSorted_of_consistent newestFirst (consistent_of_canonical h)

end Version

/-! ## The last record of a version -/

/-- The record that is kept for a version stands behind all others with it. -/
theorem Index.Package.get?_last {package : Package} {version : String} {record : Record}
    (h : package.get? version = some record) :
    record.version = version ∧ ∃ earlier later, package.records = earlier ++ record :: later ∧
      ∀ other ∈ later, other.version ≠ version := by
  obtain ⟨hversion, behind, ahead, hrecords, hbehind⟩ := List.find?_eq_some_iff_append.mp h
  refine ⟨of_decide_eq_true hversion, ahead.reverse, behind.reverse, ?_, ?_⟩
  · have hback := congrArg List.reverse hrecords
    simpa using hback
  · intro other hother
    simpa using hbehind other (List.mem_reverse.mp hother)

/-! ## The latest version -/

namespace Version

open Sorting (mayPrecede)

variable {requirement : String} {texts : List String}

/-- **The latest version.**  If the identifiers of digits are written the usual way, lists are
sorted in either direction.  There is no latest version for a requirement exactly if no text
satisfies it; otherwise it is the first of the sorted list that does, and none that does is above
it.  A package with these versions has the last record that carries it, unless its text is empty. -/
theorem latest_of_sorted (hanchor : ∀ version ∈ anchor? requirement, version.Canonical)
    (htexts : ∀ text ∈ texts, TextCanonical text) :
    (∀ newestFirst, ∃ sorted, sortTexts newestFirst texts = .ok sorted ∧
        IsSorted newestFirst texts sorted) ∧
      ∃ sorted latest, sortTexts true texts = .ok sorted ∧
        latestSatisfying? requirement texts = .ok latest ∧
        (latest = none ↔ ∀ text ∈ texts, satisfies requirement text = .ok false) ∧
        latest = sorted.find? (fun text => satisfies requirement text = .ok true) ∧
        (∀ text ∈ latest, ∀ other ∈ texts, satisfies requirement other = .ok true →
          ∃ order, compareTexts other text = .ok order ∧ order ≠ .gt) ∧
        ∀ package : Index.Package, package.versionTexts = texts →
          ∃ found, package.findSatisfying? requirement = .ok found ∧
            (latest = none ∨ latest = some "" → found = none) ∧
            ∀ version ∈ latest, version ≠ "" → ∃ record, found = some record ∧
              record.version = version ∧ ∃ earlier later,
                package.records = earlier ++ record :: later ∧
                ∀ other ∈ later, other.version ≠ version := by
  have hmeets : ∀ text ∈ texts, satisfies requirement text = .ok (meets requirement text) :=
    fun text htext => satisfies_eq_meets hanchor (htexts text htext)
  refine ⟨fun newestFirst => sortTexts_isSorted newestFirst htexts, _, _,
    sortTexts_newest_eq htexts, latestSatisfying?_eq hanchor htexts, ?_, rfl, ?_, ?_⟩
  · rw [List.find?_eq_none]
    constructor
    · intro hnone text htext
      have hfails := hnone text (List.mem_mergeSort.mpr htext)
      rw [hmeets text htext, Bool.eq_false_of_not_eq_true hfails]
    · intro hnone text htext hholds
      have hmem := List.mem_mergeSort.mp htext
      have hfails : meets requirement text = false :=
        Except.ok.inj ((hmeets text hmem).symm.trans (hnone text hmem))
      rw [hfails] at hholds
      cases hholds
  · intro text hfound other hother hholds
    have hmem := List.mem_mergeSort.mp (List.mem_of_find?_eq_some hfound)
    refine compareTexts_of_ageRank_le (htexts other hother) (htexts text hmem) ?_
    exact (Sorting.rising_mergeSort _).le_of_find?_eq_some hfound other
      (List.mem_mergeSort.mpr hother) (decide_eq_true hholds)
  · rintro package rfl
    refine ⟨_, package.findSatisfying?_eq_bind hanchor htexts, ?_, ?_⟩
    · rintro (hnone | hempty)
      · rw [hnone]
        rfl
      · rw [hempty]
        rfl
    · intro version hfound hversion
      have hmem := List.mem_mergeSort.mp (List.mem_of_find?_eq_some hfound)
      obtain ⟨record, hget, -⟩ := Index.Package.get?_of_mem hmem
      obtain ⟨hsame, hlast⟩ := Index.Package.get?_last hget
      refine ⟨record, ?_, hsame, hlast⟩
      rw [Option.mem_def.mp hfound]
      exact (if_neg hversion).trans hget

/-- Of the releases that differ in their metadata only the first one is the latest, and of its two
records the last one counts. -/
theorem latest_of_republished :
    let releases := ["1.0.0", "1.2.0+mac", "soon", "1.2.0+linux", "2.0.0-rc.1", "1.2.0+mac"]
    (∀ version ∈ anchor? "^1.0", version.Canonical) ∧
      (∀ text ∈ releases, TextCanonical text) ∧
      latestSatisfying? "^1.0" releases = .ok (some "1.2.0+mac") ∧
      ∀ package : Index.Package, package.versionTexts = releases → ∃ record earlier later,
        package.findSatisfying? "^1.0" = .ok (some record) ∧
          package.records = earlier ++ record :: later ∧ record.version = "1.2.0+mac" ∧
          ∀ other ∈ later, other.version ≠ "1.2.0+mac" := by
  intro releases
  have hanchor : ∀ version ∈ anchor? "^1.0", version.Canonical := by decide
  have hreleases : ∀ text ∈ releases, TextCanonical text := by decide
  have hlatest : latestSatisfying? "^1.0" releases = .ok (some "1.2.0+mac") := by decide +kernel
  obtain ⟨-, sorted, latest, -, hsame, -, -, -, hpackage⟩ := latest_of_sorted hanchor hreleases
  obtain rfl := Except.ok.inj (hlatest.symm.trans hsame)
  refine ⟨hanchor, hreleases, hlatest, fun package hversions => ?_⟩
  obtain ⟨found, hfound, -, hlast⟩ := hpackage package hversions
  obtain ⟨record, rfl, hversion, earlier, later, hrecords, hothers⟩ :=
    hlast "1.2.0+mac" rfl (by decide)
  exact ⟨record, earlier, later, hfound, hrecords, hversion, hothers⟩

end Version

end ManifestLint
