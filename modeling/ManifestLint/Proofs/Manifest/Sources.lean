import Mathlib.Data.List.Pairwise
import ManifestLint.Proofs.Manifest.Assignments
import ManifestLint.Proofs.Toml.Stretches

/-!
# Where fields stand

Every field of a manifest that was read off its text points back at the text.  Fields never
overlap, not even at their ends, because a string is never directly followed by a key; so a
position belongs to one dependency at most, and it does not matter in which order they are
searched.

* `Field.PointsAt`: what it means that a field points at its source.
* `Assignment.stop_lt_start`: an assignment ends before the next one starts.
* `parse_points_at_sources`: all of it, for every text that is accepted.
-/

namespace ManifestLint

open ManifestLint.Toml

/-! ## Searching -/

section

variable {α : Type} {p : α → Bool} {list : List α}

/-- Where at most one element is looked for, it is the one that is found. -/
theorem find?_eq_some_iff_of_pairwise
    (h : list.Pairwise fun a b => ¬ (p a = true ∧ p b = true)) {a : α} :
    list.find? p = some a ↔ a ∈ list ∧ p a = true := by
  constructor
  · exact fun hfind => ⟨List.mem_of_find?_eq_some hfind, List.find?_some hfind⟩
  · rintro ⟨hmem, ha⟩
    have : Std.Symm fun a b => ¬ (p a = true ∧ p b = true) := ⟨fun _ _ hno h => hno h.symm⟩
    obtain ⟨b, hfind⟩ := Option.isSome_iff_exists.mp (List.find?_isSome.mpr ⟨a, hmem, ha⟩)
    have hb := List.find?_some hfind
    by_cases hsame : b = a
    · rw [hfind, hsame]
    · exact absurd ⟨hb, ha⟩ (h.forall (List.mem_of_find?_eq_some hfind) hmem hsame)

/-- Where at most one element is looked for, the order of the others does not matter. -/
theorem find?_eq_of_perm {other : List α} (hperm : other.Perm list)
    (h : list.Pairwise fun a b => ¬ (p a = true ∧ p b = true)) :
    other.find? p = list.find? p := by
  have hother := (hperm.pairwise_iff fun hno hboth => hno hboth.symm).mpr h
  ext a
  rw [find?_eq_some_iff_of_pairwise hother, find?_eq_some_iff_of_pairwise h, hperm.mem_iff]

end

/-! ## Spans -/

/-- No position lies in both of two spans, ends included. -/
def Toml.Span.Apart (span other : Span) : Prop :=
  ∀ position, ¬ (span.contains position = true ∧ other.contains position = true)

theorem Toml.Span.apart_of_lt {span other : Span} (h : span.stop < other.start) :
    span.Apart other := by
  rintro position ⟨hspan, hother⟩
  simp only [contains, Bool.and_eq_true, decide_eq_true_eq] at hspan hother
  exact absurd (hspan.2.trans_lt h) hother.1.not_gt

/-- The span of the value of an assignment is that of its token: on one line the token is as
long as its text. -/
theorem Manifest.valueSpan_eq {token : Token}
    (hstop : token.stop = token.start.after token.text) : valueSpan token = token.span := by
  rw [valueSpan, Token.span]
  split
  · next hline =>
      have hfeed : '\n' ∉ token.text := by
        have hcount := Position.line_after token.start token.text
        rw [← hstop, ← hline] at hcount
        rw [← List.count_eq_zero]
        omega
      rw [Position.after_of_no_feed hfeed] at hstop
      rw [hstop]
      simp
  · rfl

/-- The span of an assignment, from its key to its value. -/
def Manifest.Assignment.span (source : Assignment) : Span := ⟨source.key.start, source.value.stop⟩

/-- A field points at an assignment of a document: it reaches from the start of the key to the
end of the value, and what the document has between the ends of the value, which is a part of
the field, is the raw text. -/
structure Field.PointsAt (field : Field) (document : List Char) (source : Manifest.Assignment) :
    Prop where
  stands : source.StandsIn (significant (scan document).tokens)
  key : field.key = source.name
  span : field.span = source.span
  raw : field.raw = .ofList source.value.text
  value : field.valueSpan = source.value.span
  cut : field.valueSpan.cut document = field.raw.toList
  within : field.span.containsSpan field.valueSpan = true

namespace Manifest

variable {document : List Char} {source : Assignment}

theorem tiles_scan (document : List Char) : Tiles .origin (scan document).tokens document :=
  tiles_scanFrom ..

theorem Assignment.StandsIn.mem (h : source.StandsIn (significant (scan document).tokens)) :
    source.key ∈ (scan document).tokens ∧ source.value ∈ (scan document).tokens := by
  obtain ⟨equals, after, -, htokens⟩ := h
  have hmem (token : Token) (h : token ∈ significant (scan document).tokens) :
      token ∈ (scan document).tokens := List.mem_of_mem_filter h
  exact ⟨hmem _ (by simp [htokens]), hmem _ (by simp [htokens])⟩

/-- A key starts before its value does. -/
theorem Assignment.StandsIn.start_le (h : source.StandsIn (significant (scan document).tokens)) :
    source.key.start ≤ source.value.start := by
  have hkey := (tiles_scan document).stop_eq _ h.mem.1
  obtain ⟨equals, after, -, htokens⟩ := h
  have hpairs : (significant (scan document).tokens).Pairwise fun token next =>
      token.stop ≤ next.start := (tiles_scan document).pairwise.filter _
  rw [htokens] at hpairs
  have hvalue : source.key.stop ≤ source.value.start :=
    (List.pairwise_cons.mp (List.pairwise_append.mp hpairs).2.1).1 _ (by simp)
  calc source.key.start
      ≤ source.key.start.after source.key.text := Position.le_after ..
    _ = source.key.stop := hkey.symm
    _ ≤ source.value.start := hvalue

theorem field_pointsAt (h : source.StandsIn (significant (scan document).tokens)) :
    (field source.key source.value).PointsAt document source := by
  have hvalue := h.mem.2
  have hspan : valueSpan source.value = source.value.span :=
    valueSpan_eq ((tiles_scan document).stop_eq _ hvalue)
  refine ⟨h, rfl, rfl, rfl, hspan, ?_, ?_⟩
  · change (valueSpan source.value).cut document = (String.ofList source.value.text).toList
    rw [hspan, (tiles_scan document).cut_span _ hvalue, String.toList_ofList]
  · change Span.containsSpan source.span (valueSpan source.value) = true
    rw [hspan]
    simp [Span.containsSpan, Assignment.span, Token.span, h.start_le]

theorem packageField_pointsAt (slot : PackageKey)
    (h : source.StandsIn (significant (scan document).tokens)) :
    (packageField slot source.key source.value).PointsAt document source := by
  obtain ⟨hstands, hkey, hspan, hraw, hvalue, hcut, hwithin⟩ := field_pointsAt h
  unfold packageField
  dsimp only
  split <;> exact ⟨hstands, hkey, hspan, hraw, hvalue, hcut, hwithin⟩

/-! ## Dependencies -/

/-- An assignment ends before the next one starts. -/
theorem Assignment.stop_lt_start {first second : Assignment}
    (hfirst : first.StandsIn (significant (scan document).tokens))
    (hsecond : second.StandsIn (significant (scan document).tokens))
    (h : first.Precedes second) : first.value.stop < second.key.start := by
  obtain ⟨sign, rest, hassign, -⟩ := hfirst
  obtain ⟨equals, after, hother, htokens⟩ := hsecond
  obtain ⟨middle, between, hbefore⟩ := h
  have hsplit : significant (scan document).tokens =
      (first.before ++ [first.key, middle]) ++ first.value ::
        (between ++ second.key :: equals :: second.value :: after) := by
    simp [htokens, hbefore]
  exact stop_lt_start_of_significant hsplit (isAssignment_iff.mp hassign).2.2
    (isAssignment_iff.mp hother).2.1

/-- The assignments of a document are apart from each other. -/
theorem assignments_apart (document : List Char) :
    (assignments (significant (scan document).tokens)).Pairwise fun first second =>
      first.span.Apart second.span := by
  refine (assignments_pairwise _).imp_of_mem fun hfirst hsecond hprecedes => ?_
  exact Span.apart_of_lt (Assignment.stop_lt_start (standsIn_of_mem hfirst)
    (standsIn_of_mem hsecond) hprecedes)

theorem mem_dependenciesOf {table? : Assignment → Option String} {found : List Assignment}
    {realm : Realm} {told : Dependency} :
    told ∈ dependenciesOf table? found realm ↔ ∃ source ∈ found,
      table? source = some realm.table ∧ told = dependency source.key source.value := by
  simp [dependenciesOf, and_assoc, eq_comm]

/-- The dependencies of a manifest are apart from each other, whatever their realms are. -/
theorem items_apart (document : List Char) :
    (ofTokens (scan document).tokens).dependencies.items.Pairwise fun item other =>
      item.2.span.Apart other.2.span := by
  let found := assignments (significant (scan document).tokens)
  have hapart : found.Pairwise fun first second => first.span.Apart second.span :=
    assignments_apart document
  have : Std.Symm fun first second : Assignment => first.span.Apart second.span :=
    ⟨fun _ _ h position hboth => h position hboth.symm⟩
  have hrealms : Realm.all.Pairwise (· ≠ ·) := by decide
  refine List.pairwise_flatMap.mpr ⟨fun realm _ => ?_, hrealms.imp fun {realm other} hne => ?_⟩
  · rw [get_dependencies_ofTokens, dependenciesOf, List.pairwise_map, List.pairwise_map]
    exact hapart.filter _
  · -- Assignments of two realms differ in the headings before them.
    intro item hitem second hsecond
    obtain ⟨told, htold, rfl⟩ := List.mem_map.mp hitem
    obtain ⟨later, hlater, rfl⟩ := List.mem_map.mp hsecond
    rw [get_dependencies_ofTokens, mem_dependenciesOf] at htold hlater
    obtain ⟨source, hsource, htable, rfl⟩ := htold
    obtain ⟨target, htarget, hother, rfl⟩ := hlater
    refine hapart.forall hsource htarget fun hsame => hne (Realm.table_inj ?_)
    exact Option.some.inj (htable.symm.trans (hsame ▸ hother))

variable {text : String} {manifest : Manifest}

/-- **Sources.**  Whatever text a manifest was read from, its fields point at it.  A field of
the package table is undeclared or points at an assignment in the text, and so does every
dependency: it reaches from the start of its key to the end of its value, and what the text has
between the ends of the value is its raw text.  No position lies in two dependencies; so the
one at a position is the only one there, in whatever order the realms are searched. -/
theorem parse_points_at_sources (h : parse text = .ok manifest) :
    (∀ slot, manifest.package.get slot = slot.undeclared ∨
      ∃ source, (manifest.package.get slot).PointsAt text.toList source) ∧
    (∀ item ∈ manifest.dependencies.items,
      ∃ source, item.2.toField.PointsAt text.toList source) ∧
    (manifest.dependencies.items.Pairwise fun item other => item.2.span.Apart other.2.span) ∧
    ∀ position,
      (∀ item, manifest.dependencyAt? position = some item ↔
        item ∈ manifest.dependencies.items ∧ item.2.span.contains position = true) ∧
      ∀ order : List Realm, order.Perm Realm.all →
        (order.flatMap fun realm => (manifest.dependencies.get realm).map (realm, ·)).find?
            (fun item => item.2.span.contains position) =
          manifest.dependencyAt? position := by
  obtain ⟨-, -, rfl⟩ := parse_eq_ok_iff.mp h
  have hstands : ∀ source ∈ assignments (significant (scan text.toList).tokens),
      source.StandsIn (significant (scan text.toList).tokens) := fun _ => standsIn_of_mem
  have hsingle (position : Position) :
      (ofTokens (scan text.toList).tokens).dependencies.items.Pairwise fun item other =>
        ¬ (item.2.span.contains position = true ∧ other.2.span.contains position = true) :=
    (items_apart text.toList).imp fun h => h position
  refine ⟨fun slot => ?_, fun item hitem => ?_, items_apart text.toList, fun position =>
    ⟨fun item => find?_eq_some_iff_of_pairwise (hsingle position), fun order horder =>
      find?_eq_of_perm (horder.flatMap_right _) (hsingle position)⟩⟩
  · rw [get_package_ofTokens, fieldOf, lastField]
    split
    · next source hlast =>
        have hmem := List.mem_of_getLast? hlast
        exact .inr ⟨source, packageField_pointsAt slot (hstands _ (List.mem_of_mem_filter hmem))⟩
    · exact .inl rfl
  · obtain ⟨realm, -, hmem⟩ := List.mem_flatMap.mp hitem
    obtain ⟨told, htold, rfl⟩ := List.mem_map.mp hmem
    rw [get_dependencies_ofTokens, mem_dependenciesOf] at htold
    obtain ⟨source, hsource, -, rfl⟩ := htold
    exact ⟨source, field_pointsAt (hstands source hsource)⟩

/-- A template, and three dependencies side by side, the second of which spans two lines. -/
theorem sources_of_neighbours :
    let text := "[package]\nname = \"<NAME>\"\n[dependencies]\n" ++
      "t = \x7b a = \"b/c@1.0.0\",d = \"\"\"e/f\n@1.0.0\"\"\",g='h/i@2.0.0'\x7d\n"
    ∃ manifest item, parse text = .ok manifest ∧
      (∃ source, manifest.package.name.PointsAt text.toList source) ∧
      item ∈ manifest.dependencies.items ∧ item.2.span = ⟨⟨3, 22⟩, ⟨4, 9⟩⟩ ∧
      (∃ source, item.2.toField.PointsAt text.toList source) ∧
      ∀ order : List Realm, order.Perm Realm.all →
        (order.flatMap fun realm => (manifest.dependencies.get realm).map (realm, ·)).find?
          (fun item => item.2.span.contains ⟨4, 3⟩) = some item := by
  intro text
  have hread : let manifest := ofTokens (scan text.toList).tokens
      ((scan text.toList).errors = [] ∧ (scan text.toList).tokens ≠ []) ∧
        manifest.package.get .name ≠ PackageKey.name.undeclared ∧
        (manifest.dependencyAt? ⟨4, 3⟩).map (·.2.span) = some ⟨⟨3, 22⟩, ⟨4, 9⟩⟩ := by
    rw [show text.toList = _ from String.toList_append, String.toList_ofList, String.toList_ofList]
    decide +kernel
  let manifest := ofTokens (scan text.toList).tokens
  obtain ⟨⟨herrors, htokens⟩, hdeclared, hfound⟩ := hread
  have hparse : parse text = .ok manifest := parse_eq_ok_iff.mpr ⟨herrors, htokens, rfl⟩
  obtain ⟨item, hitem, hspan⟩ := Option.map_eq_some_iff.mp hfound
  obtain ⟨hpackage, hitems, -, hat⟩ := parse_points_at_sources hparse
  have hmem := ((hat ⟨4, 3⟩).1 item).mp hitem
  refine ⟨manifest, item, hparse, (hpackage .name).resolve_left hdeclared, hmem.1, hspan,
    hitems item hmem.1, fun order horder => ?_⟩
  rw [(hat ⟨4, 3⟩).2 order horder, hitem]

end Manifest

end ManifestLint
