import Mathlib.Data.List.TakeDrop
import ManifestLint.Index.Package
import ManifestLint.Proofs.Sorting.Outcome

/-!
# Which comparisons are refused

An identifier of a pre-release is **deceptive** if it looks like a number and denotes
none: all its characters are digits, and one of them has no decimal value.  A
comparison of versions is refused for no other reason than a deceptive identifier of
one of them; so is whatever sorts versions or matches them against a requirement.
What is not refused is right: a sort gives the versions of the package, and a
requirement is satisfied by one of a list if it says so.

A version is **regular** if those of its identifiers that look like numbers are made of
ASCII digits.  They denote numbers then, so that a regular version compares with every
other one; leading zeros do no harm.  A release has no identifiers at all, and neither
has a version that was found in a text.

* `compare_outcome`, `sortTexts_outcome`, `satisfies_outcome` and so on: for each
  operation what it gives, and whose identifier it is refused for.
* `Index.Package.newestFirst_outcome`, `findSatisfying?_outcome`: the operations on a
  package.
* `Regular.not_deceives`: no comparison is refused because of a regular version.
* `prerelease_of_coerced`: what is found in a text is a release.
-/

namespace ManifestLint

namespace Version

/-- The identifier looks like a number, and denotes none. -/
def Deceptive (identifier : List Char) : Prop :=
  isNumeric identifier = true ∧ Text.decimalNumber? identifier = none

/-- The identifiers of the pre-release tag. -/
def identifiers (version : Version) : List (List Char) := version.prerelease.toList.splitOn '.'

/-- A refusal names a deceptive identifier of a version. -/
def Deceives (version : Version) (error : NotANumber) : Prop :=
  ∃ identifier ∈ version.identifiers, Deceptive identifier ∧ error = ⟨.ofList identifier⟩

/-- A refusal names a deceptive identifier of the version that a text denotes. -/
def TextDeceives (text : String) (error : NotANumber) : Prop :=
  ∃ version, parse? text = some version ∧ version.Deceives error

/-- A refusal names a deceptive identifier of the version that a requirement is
anchored on. -/
def AnchorDeceives (requirement : String) (error : NotANumber) : Prop :=
  ∃ version, anchor? requirement = some version ∧ version.Deceives error

/-- A refusal names a deceptive identifier of some text of a list. -/
def SomeDeceives (texts : List String) (error : NotANumber) : Prop :=
  ∃ text ∈ texts, TextDeceives text error

/-- A refusal names a deceptive identifier. -/
def NotANumber.Justified (error : NotANumber) : Prop := Deceptive error.identifier.toList

theorem Deceives.justified {version : Version} {error : NotANumber} (h : version.Deceives error) :
    error.Justified := by
  obtain ⟨identifier, -, hdeceptive, rfl⟩ := h
  rw [NotANumber.Justified, String.toList_ofList]
  exact hdeceptive

theorem SomeDeceives.justified {texts : List String} {error : NotANumber}
    (h : SomeDeceives texts error) : error.Justified := by
  obtain ⟨text, -, version, -, hdeceives⟩ := h
  exact hdeceives.justified

theorem AnchorDeceives.justified {requirement : String} {error : NotANumber}
    (h : AnchorDeceives requirement error) : error.Justified := by
  obtain ⟨version, -, hdeceives⟩ := h
  exact hdeceives.justified

/-! ## Comparing -/

theorem identifierNumber_outcome {identifier : List Char} (hnumeric : isNumeric identifier = true) :
    EndsIn (fun number => Text.decimalNumber? identifier = some number)
      (fun error => Deceptive identifier ∧ error = ⟨.ofList identifier⟩)
      (identifierNumber identifier) := by
  unfold identifierNumber
  cases hnumber : Text.decimalNumber? identifier with
  | some number => exact rfl
  | none => exact ⟨⟨hnumeric, hnumber⟩, rfl⟩

theorem compareIdentifiers_outcome (a b : List Char) :
    EndsIn (fun _ => True)
      (fun error => ∃ identifier, (identifier = a ∨ identifier = b) ∧ Deceptive identifier ∧
        error = ⟨.ofList identifier⟩)
      (compareIdentifiers a b) := by
  unfold compareIdentifiers
  cases ha : isNumeric a with
  | false => cases isNumeric b <;> exact trivial
  | true =>
      cases hb : isNumeric b with
      | false => exact trivial
      | true =>
          refine ((identifierNumber_outcome ha).weaken fun error herror => ?_).bind fun x _ =>
            ((identifierNumber_outcome hb).weaken fun error herror => ?_).bind fun y _ => trivial
          · exact ⟨a, .inl rfl, herror⟩
          · exact ⟨b, .inr rfl, herror⟩

theorem compareTags_outcome (xs ys : List (List Char)) :
    EndsIn (fun _ => True)
      (fun error => ∃ identifier, (identifier ∈ xs ∨ identifier ∈ ys) ∧
        Deceptive identifier ∧ error = ⟨.ofList identifier⟩)
      (compareTags xs ys) := by
  induction xs generalizing ys with
  | nil => cases ys <;> exact trivial
  | cons x xs ih =>
      cases ys with
      | nil => exact trivial
      | cons y ys =>
          unfold compareTags
          split
          · refine (ih ys).weaken fun error herror => ?_
            obtain ⟨identifier, hmem, hdeceptive⟩ := herror
            exact ⟨identifier, hmem.imp (List.mem_cons_of_mem _) (List.mem_cons_of_mem _),
              hdeceptive⟩
          · refine (compareIdentifiers_outcome x y).weaken fun error herror => ?_
            obtain ⟨identifier, rfl | rfl, hdeceptive⟩ := herror
            · exact ⟨identifier, .inl (List.mem_cons_self ..), hdeceptive⟩
            · exact ⟨identifier, .inr (List.mem_cons_self ..), hdeceptive⟩

/-- **Comparing.**  The order of two versions is refused only because of a deceptive
identifier of one of them. -/
theorem compare_outcome (a b : Version) :
    EndsIn (fun _ => True) (fun error => a.Deceives error ∨ b.Deceives error) (compare a b) := by
  have hprerelease : EndsIn (fun _ => True) (fun error => a.Deceives error ∨ b.Deceives error)
      (comparePrerelease a.prerelease.toList b.prerelease.toList) := by
    unfold comparePrerelease
    split
    · exact trivial
    · split
      · exact trivial
      · split
        · exact trivial
        · refine (compareTags_outcome _ _).weaken fun error herror => ?_
          obtain ⟨identifier, hmem | hmem, hdeceptive⟩ := herror
          · exact .inl ⟨identifier, hmem, hdeceptive⟩
          · exact .inr ⟨identifier, hmem, hdeceptive⟩
  unfold compare
  split
  · exact hprerelease
  · exact trivial

theorem compareOptions_outcome (a b : Option Version) :
    EndsIn (fun _ => True)
      (fun error => ∃ version, (a = some version ∨ b = some version) ∧ version.Deceives error)
      (compareOptions a b) := by
  rcases a with _ | a <;> rcases b with _ | b
  · exact trivial
  · exact trivial
  · exact trivial
  · refine (compare_outcome a b).weaken fun error herror => ?_
    rcases herror with ha | hb
    · exact ⟨a, .inl rfl, ha⟩
    · exact ⟨b, .inr rfl, hb⟩

theorem textBefore_outcome (a b : String) :
    EndsIn (fun _ => True) (fun error => TextDeceives a error ∨ TextDeceives b error)
      (textBefore a b) := by
  refine EndsIn.map ((compareOptions_outcome _ _).weaken fun error herror => ?_)
    fun _ _ => trivial
  obtain ⟨version, ha | hb, hdeceives⟩ := herror
  · exact .inl ⟨version, ha, hdeceives⟩
  · exact .inr ⟨version, hb, hdeceives⟩

/-- **Sorting versions.**  The sorted texts are those of the list. -/
theorem sortTexts_outcome (newestFirst : Bool) (texts : List String) :
    EndsIn (fun sorted => sorted.Perm texts) (SomeDeceives texts)
      (sortTexts newestFirst texts) := by
  have hcompared : Sorting.Compared (SomeDeceives texts) textBefore texts := by
    intro a ha b hb
    refine (textBefore_outcome a b).weaken fun error herror => ?_
    rcases herror with hdeceives | hdeceives
    · exact ⟨a, ha, hdeceives⟩
    · exact ⟨b, hb, hdeceives⟩
  unfold sortTexts
  split
  · exact Sorting.sortDownBy_outcome hcompared
  · exact Sorting.sortBy_outcome hcompared

/-! ## Matching against a requirement -/

theorem satisfies_outcome (requirement published : String) :
    EndsIn (fun satisfied => satisfies requirement published = .ok satisfied)
      (fun error => AnchorDeceives requirement error ∨ TextDeceives published error)
      (satisfies requirement published) := by
  cases hsatisfies : satisfies requirement published with
  | ok satisfied => exact rfl
  | error error =>
      have hrefused : EndsIn (fun _ => True)
          (fun error => AnchorDeceives requirement error ∨ TextDeceives published error)
          (satisfies requirement published) := by
        unfold satisfies
        split
        · exact trivial
        · split
          · next anchor offered hanchor hoffered =>
              split
              · refine EndsIn.map ((compare_outcome offered anchor).weaken fun error herror => ?_)
                  fun _ _ => trivial
                rcases herror with hpublished | hrequired
                · exact .inr ⟨offered, hoffered, hpublished⟩
                · exact .inl ⟨anchor, hanchor, hrequired⟩
              · exact trivial
          · exact trivial
      exact hrefused.of_error hsatisfies

/-- Some version of a list satisfies a requirement if it is said so, and otherwise
none does. -/
theorem anySatisfies_outcome (requirement : String) (texts : List String) :
    EndsIn (fun satisfied => satisfied = true ↔
        ∃ text ∈ texts, satisfies requirement text = .ok true)
      (fun error => AnchorDeceives requirement error ∨ SomeDeceives texts error)
      (anySatisfies requirement texts) := by
  induction texts with
  | nil => simp [anySatisfies, EndsIn]
  | cons published rest ih =>
      unfold anySatisfies
      refine EndsIn.bind ((satisfies_outcome requirement published).weaken fun error herror => ?_)
        fun satisfied hsatisfied => ?_
      · rcases herror with hrequired | hpublished
        · exact .inl hrequired
        · exact .inr ⟨published, List.mem_cons_self .., hpublished⟩
      · cases satisfied with
        | true => exact iff_of_true rfl ⟨published, List.mem_cons_self .., hsatisfied⟩
        | false =>
            refine (ih.mono fun others hothers => ?_).weaken fun error herror => ?_
            · rw [hothers]
              simp [hsatisfied]
            · rcases herror with hrequired | ⟨text, hmem, hdeceives⟩
              · exact .inl hrequired
              · exact .inr ⟨text, List.mem_cons_of_mem _ hmem, hdeceives⟩

/-- The version that is picked is one of the list and satisfies the requirement; none
is picked only if none does. -/
theorem latestSatisfying?_outcome (requirement : String) (texts : List String) :
    EndsIn (fun picked => match picked with
        | some text => text ∈ texts ∧ satisfies requirement text = .ok true
        | none => ∀ text ∈ texts, satisfies requirement text ≠ .ok true)
      (fun error => AnchorDeceives requirement error ∨ SomeDeceives texts error)
      (latestSatisfying? requirement texts) := by
  unfold latestSatisfying?
  have hfilter : EndsIn
      (fun matching => ∀ text, text ∈ matching ↔
        text ∈ texts ∧ satisfies requirement text = .ok true)
      (fun error => AnchorDeceives requirement error ∨ SomeDeceives texts error)
      (texts.filterM (satisfies requirement)) := by
    refine filterM_endsIn fun text hmem => ?_
    refine ((satisfies_outcome requirement text).mono fun satisfied hsatisfied => ?_).weaken
      fun error herror => herror.imp_right fun hdeceives => ⟨text, hmem, hdeceives⟩
    rw [hsatisfied, Except.ok.injEq]
  refine hfilter.bind fun matching hmatching => ?_
  split
  · next hempty =>
      rw [List.isEmpty_iff.mp hempty] at hmatching
      exact fun text hmem hsatisfied => by simpa using (hmatching text).mpr ⟨hmem, hsatisfied⟩
  · next hsome =>
      refine ((sortTexts_outcome true matching).weaken fun error herror => ?_).bind
        fun sorted hsorted => ?_
      · obtain ⟨text, hmem, hdeceives⟩ := herror
        exact .inr ⟨text, ((hmatching text).mp hmem).1, hdeceives⟩
      · cases sorted with
        | nil => exact absurd (List.isEmpty_iff.mpr hsorted.symm.eq_nil) hsome
        | cons text rest => exact (hmatching text).mp (hsorted.subset (List.mem_cons_self ..))

end Version

namespace Index.Package

open Version

variable (package : Package)

/-- The texts of the published versions. -/
def versionTexts : List String := package.records.map (·.version)

/-- The versions of a package, newest first, are all its published ones. -/
theorem newestFirst_outcome :
    EndsIn (fun versions => versions.Perm package.versionTexts)
      (SomeDeceives package.versionTexts) package.newestFirst :=
  sortTexts_outcome true package.versionTexts

theorem findSatisfying?_outcome (requirement : String) :
    EndsIn (fun _ => True)
      (fun error => AnchorDeceives requirement error ∨ SomeDeceives package.versionTexts error)
      (package.findSatisfying? requirement) := by
  refine (package.newestFirst_outcome.weaken fun _ => .inr).bind fun versions hversions => ?_
  refine ((latestSatisfying?_outcome requirement versions).weaken fun error herror => ?_).bind
    fun picked _ => ?_
  · refine herror.imp_right fun hdeceives => ?_
    obtain ⟨text, hmem, htext⟩ := hdeceives
    exact ⟨text, hversions.subset hmem, htext⟩
  · cases picked <;> exact trivial

/-- A record is picked from the sorted versions. -/
theorem newestFirst_of_findSatisfying? {package : Package} {requirement : String}
    {found : Option Record} (h : package.findSatisfying? requirement = .ok found) :
    ∃ versions, package.newestFirst = .ok versions := by
  cases hnewest : package.newestFirst with
  | ok versions => exact ⟨versions, rfl⟩
  | error refused =>
      rw [findSatisfying?, hnewest] at h
      cases h

/-- Some published version satisfies a requirement if it is said so. -/
theorem anySatisfies_newestFirst_outcome (requirement : String) :
    EndsIn (fun satisfied => satisfied = true ↔
        ∃ text ∈ package.versionTexts, satisfies requirement text = .ok true)
      (fun error => AnchorDeceives requirement error ∨ SomeDeceives package.versionTexts error)
      (package.newestFirst >>= anySatisfies requirement) := by
  refine (package.newestFirst_outcome.weaken fun _ => .inr).bind fun versions hversions => ?_
  refine ((anySatisfies_outcome requirement versions).mono fun satisfied hsatisfied => ?_).weaken
    fun error herror => ?_
  · rw [hsatisfied]
    constructor
    · rintro ⟨text, hmem, htext⟩
      exact ⟨text, hversions.subset hmem, htext⟩
    · rintro ⟨text, hmem, htext⟩
      exact ⟨text, hversions.symm.subset hmem, htext⟩
  · refine herror.imp_right fun hdeceives => ?_
    obtain ⟨text, hmem, htext⟩ := hdeceives
    exact ⟨text, hversions.subset hmem, htext⟩

end Index.Package

/-! ## Versions that are never refused -/

namespace Version

/-- The identifiers that look like numbers are made of ASCII digits. -/
def Regular (version : Version) : Prop :=
  ∀ identifier ∈ version.identifiers, isNumeric identifier = true →
    ∀ c ∈ identifier, c.isDigit = true

/-- An ASCII digit has the value that its place among them says. -/
theorem decimalValue?_of_isDigit {c : Char} (h : c.isDigit = true) :
    Text.decimalValue? c = some (c.toNat - '0'.toNat) := by
  have hrange : 0x30 ≤ c.toNat ∧ c.toNat ≤ 0x39 := Char.isDigit_iff_toNat.mp h
  have hfind : Text.decimalRanges.find? (fun range =>
      range.1 ≤ c.toNat && c.toNat ≤ range.2) = some (0x30, 0x39) :=
    List.find?_cons_of_pos (by simpa using hrange)
  have hzero : '0'.toNat = 0x30 := rfl
  rw [Text.decimalValue?, hfind, Option.map_some, Option.some.injEq]
  omega

/-- ASCII digits denote the number that they are read as. -/
theorem decimalNumber?_of_isDigit {digits : List Char} (h : ∀ c ∈ digits, c.isDigit = true) :
    Text.decimalNumber? digits = some (Nat.ofDigitChars 10 digits 0) := by
  have hfold : ∀ start : Nat, digits.foldlM (fun number c =>
      (Text.decimalValue? c).map (10 * number + ·)) start =
        some (Nat.ofDigitChars 10 digits start) := by
    induction digits with
    | nil => exact fun start => rfl
    | cons c rest ih =>
        intro start
        obtain ⟨hc, hrest⟩ := List.forall_mem_cons.mp h
        rw [List.foldlM_cons, decimalValue?_of_isDigit hc, Nat.ofDigitChars_cons]
        exact ih hrest _
  exact hfold 0

/-- **Regular versions.**  No comparison is refused because of one. -/
theorem Regular.not_deceives {version : Version} (h : version.Regular) (error : NotANumber) :
    ¬ version.Deceives error := by
  rintro ⟨identifier, hmem, ⟨hnumeric, hnone⟩, -⟩
  cases hnone.symm.trans (decimalNumber?_of_isDigit (h identifier hmem hnumeric))

theorem regular_of_release {version : Version} (h : version.prerelease = "") :
    version.Regular := by
  intro identifier hmem hnumeric
  have hempty : identifier = [] := by
    rw [identifiers, h] at hmem
    exact List.mem_singleton.mp hmem
  subst hempty
  cases hnumeric

/-! ## Versions found in a text -/

theorem readNumber?_subset {text rest : List Char} {number : Nat}
    (h : readNumber? text = some (number, rest)) : rest ⊆ text := by
  rw [readNumber?, List.span_eq_takeWhile_dropWhile] at h
  split at h
  · cases h
  · next hspan =>
      cases h
      cases hspan
      exact List.dropWhile_subset _

/-- What follows the numbers of a text is a part of it. -/
theorem readNumbers_subset (count : Nat) (text : List Char) :
    (readNumbers count text).2 ⊆ text := by
  fun_induction readNumbers count text with
  | case1 text => exact fun _ hmem => hmem
  | case2 count text hnone => exact fun _ hmem => hmem
  | case3 text number rest hread =>
      exact readNumber?_subset hread
  | case4 count text number rest hread hcount numbers last hrest ih =>
      rw [hrest] at ih
      exact fun c hc => readNumber?_subset hread (List.mem_cons_of_mem _ (ih hc))
  | case5 count text number rest _ hread =>
      exact readNumber?_subset hread

theorem trim_subset (p : Char → Bool) (text : List Char) : Text.trim p text ⊆ text := by
  intro c hc
  rw [Text.trim, Text.trimEnd, List.mem_reverse] at hc
  have hstart : c ∈ Text.trimStart p text := List.mem_reverse.mp (List.dropWhile_subset _ hc)
  exact List.dropWhile_subset _ hstart

theorem dropV_subset (text : List Char) : dropV text ⊆ text := by
  unfold dropV
  split
  · exact List.subset_cons_self ..
  · exact List.subset_cons_self ..
  · exact fun _ hmem => hmem

/-- A text without a hyphen denotes a release. -/
theorem prerelease_of_no_hyphen {text : List Char} (h : '-' ∉ text) {version : Version}
    (hparse : parseChars? text = some version) : version.prerelease = "" := by
  have hrest : '-' ∉ (readNumbers 3 (dropV (Text.trim Text.isBlank text))).2 := fun hmem =>
    h (trim_subset _ _ (dropV_subset _ (readNumbers_subset _ _ hmem)))
  rw [parseChars?] at hparse
  split at hparse
  · cases hparse
  · next major more rest hnumbers =>
      rw [hnumbers] at hrest
      cases hparse
      dsimp only [readTags]
      split
      · exact absurd List.mem_cons_self hrest
      · rfl
      · rfl

theorem hyphen_not_mem_toDigits (number : Nat) : '-' ∉ Nat.toDigits 10 number := by
  intro hmem
  have hdigit : '-'.isDigit = true :=
    Nat.isDigit_of_mem_toDigits (by decide) (by decide) hmem
  cases hdigit

/-- What is found in a text is a release. -/
theorem prerelease_of_coerced {text found : String} (h : coerced? text = some found)
    {version : Version} (hparse : parse? found = some version) : version.prerelease = "" := by
  refine prerelease_of_no_hyphen (fun hmem => ?_) hparse
  obtain ⟨numbers, hnumbers, rfl⟩ := Option.map_eq_some_iff.mp h
  rw [coercedChars?] at hnumbers
  split at hnumbers
  · cases hnumbers
  · cases hnumbers
    simp [hyphen_not_mem_toDigits] at hmem

end Version

end ManifestLint
