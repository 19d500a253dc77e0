import ManifestLint.Proofs.Manifest.Sources

/-!
# Members of tables

An assignment is a direct member of a table if the last heading before it names just that
table, its key is not dotted and no inline table is open around it.  The reader goes by the
last heading it noticed, so it reads every direct member; but it also reads assignments inside
of inline tables, assignments to dotted keys, and those behind headings it does not notice.

* `Assignment.table?`: the table that an assignment is a direct member of.
* `dependenciesOf_eq_iff`, `fieldOf_eq_iff`: when reading strays nowhere.
* `reads_direct_members_iff`: what is read of every text that is accepted.
-/

namespace ManifestLint.Manifest

open ManifestLint.Toml

/-! ## Direct members -/

/-- An inline table is open where an assignment begins. -/
def Assignment.isNested (source : Assignment) : Bool :=
  source.before.countP (·.category = .rightCurly) < source.before.countP (·.category = .leftCurly)

/-- The key of an assignment is the last part of a dotted one. -/
def Assignment.isDotted (source : Assignment) : Bool :=
  source.before.getLast?.any (·.category = .dot)

/-- The table that an assignment is a direct member of, if it is one with a bare name. -/
def Assignment.table? (source : Assignment) : Option String :=
  if source.isNested || source.isDotted then none
  else (headings source.before).getLast?.bind bareName?

/-- A direct member of a table is taken for one. -/
theorem Assignment.heading?_of_table? {source : Assignment} {name : String}
    (h : source.table? = some name) : source.heading? = some name := by
  unfold table? at h
  split at h
  · cases h
  · obtain ⟨path, hlast, hname⟩ := Option.bind_eq_some_iff.mp h
    obtain ⟨others, hsplit⟩ := List.getLast?_eq_some_iff.mp hlast
    rw [heading?, noticed?, hsplit, List.filterMap_append]
    simp [hname]

/-! ## Reading by membership -/

section

variable {α β : Type} {p q : α → Bool}

/-- A stricter condition leaves as much of a list just if it holds of all that is left. -/
theorem map_filter_eq_iff (list : List α) (f : α → β) (hstrict : ∀ a, q a = true → p a = true) :
    (list.filter p).map f = (list.filter q).map f ↔
      ∀ a ∈ list, p a = true → q a = true := by
  constructor
  · intro h a hmem ha
    have hlength := congrArg List.length h
    rw [List.length_map, List.length_map] at hlength
    have hsub : (list.filter q).Sublist (list.filter p) := List.monotone_filter_right list hstrict
    have hleft : a ∈ list.filter p := List.mem_filter.mpr ⟨hmem, ha⟩
    rw [← hsub.eq_of_length hlength.symm] at hleft
    exact (List.mem_filter.mp hleft).2
  · intro h
    have hfilter : list.filter p = list.filter q :=
      List.filter_congr fun a hmem => Bool.eq_iff_iff.mpr ⟨h a hmem, hstrict a⟩
    rw [hfilter]

end

theorem dependenciesOf_eq_iff (found : List Assignment) (realm : Realm) :
    dependenciesOf Assignment.heading? found realm = dependenciesOf Assignment.table? found realm ↔
      ∀ source ∈ found, source.heading? = some realm.table → source.table? = some realm.table := by
  have hiff := map_filter_eq_iff found (fun source => dependency source.key source.value)
    (p := fun source => source.heading? = some realm.table)
    (q := fun source => source.table? = some realm.table)
    (by simpa using fun source => Assignment.heading?_of_table?)
  simpa [dependenciesOf] using hiff

/-- The settings that are direct members are among those that are read. -/
theorem settingsOf_table? (found : List Assignment) (slot : PackageKey) :
    settingsOf Assignment.table? found slot =
      (settingsOf Assignment.heading? found slot).filter fun source =>
        source.table? = some "package" := by
  rw [settingsOf, settingsOf, List.filter_filter]
  refine List.filter_congr fun source _ => ?_
  by_cases hdirect : source.table? = some "package"
  · simp [hdirect, Assignment.heading?_of_table? hdirect]
  · simp [hdirect]

variable {document : List Char}

/-- An assignment is not empty. -/
theorem Assignment.StandsIn.start_lt_stop {source : Assignment}
    (h : source.StandsIn (significant (scan document).tokens)) :
    source.span.start < source.span.stop := by
  have hvalue := (tiles_scan document).stop_eq _ h.mem.2
  have hne := (tiles_scan document).ne_nil _ h.mem.2
  calc source.key.start
      ≤ source.value.start := h.start_le
    _ < source.value.start.after source.value.text := Position.lt_after _ hne
    _ = source.value.stop := hvalue.symm

/-- Fields that are read off different assignments of a document differ. -/
theorem packageField_inj {slot : PackageKey} {source other : Assignment}
    (hsource : source ∈ assignments (significant (scan document).tokens))
    (hother : other ∈ assignments (significant (scan document).tokens))
    (h : packageField slot source.key source.value = packageField slot other.key other.value) :
    source = other := by
  have hstands := standsIn_of_mem hsource
  have : Std.Symm fun first second : Assignment => first.span.Apart second.span :=
    ⟨fun _ _ h position hboth => h position hboth.symm⟩
  by_contra hne
  have hapart := (assignments_apart document).forall hsource hother hne
  have hspan : source.span = other.span := by
    rw [← (packageField_pointsAt slot hstands).span, h,
      (packageField_pointsAt slot (standsIn_of_mem hother)).span]
  have hstart : source.span.contains source.key.start = true := by
    rw [Span.contains, Bool.and_eq_true, decide_eq_true_eq, decide_eq_true_eq]
    exact ⟨le_rfl, hstands.start_lt_stop.le⟩
  exact hapart source.key.start ⟨hstart, hspan ▸ hstart⟩

theorem packageField_ne_undeclared (slot : PackageKey) {source : Assignment}
    (hsource : source ∈ assignments (significant (scan document).tokens)) :
    packageField slot source.key source.value ≠ slot.undeclared := by
  intro h
  have hstands := standsIn_of_mem hsource
  have hspan : source.span = Span.empty := by
    rw [← (packageField_pointsAt slot hstands).span, h]
    rfl
  have hlt := hstands.start_lt_stop
  rw [hspan] at hlt
  exact hlt.ne rfl

/-- The field under a key is that of a direct member just if its last setting is one. -/
theorem fieldOf_eq_iff (document : List Char) (slot : PackageKey) :
    let found := assignments (significant (scan document).tokens)
    fieldOf Assignment.heading? found slot = fieldOf Assignment.table? found slot ↔
      ∀ source ∈ (settingsOf Assignment.heading? found slot).getLast?,
        source.table? = some "package" := by
  intro found
  rw [fieldOf, fieldOf, settingsOf_table?]
  have hfound : ∀ source ∈ settingsOf Assignment.heading? found slot, source ∈ found :=
    fun source hsource => List.mem_of_mem_filter hsource
  rcases List.eq_nil_or_concat' (settingsOf Assignment.heading? found slot) with
    hnil | ⟨others, last, hsplit⟩
  · simp [hnil]
  rw [hsplit] at hfound ⊢
  have hlast : last ∈ found := hfound last (by simp)
  by_cases hdirect : last.table? = some "package"
  · simp [hdirect, lastField]
  · refine iff_of_false (fun h => ?_) (by simpa using hdirect)
    have hread : lastField slot slot.undeclared (others ++ [last]) =
        packageField slot last.key last.value := by simp [lastField]
    rw [hread, lastField] at h
    split at h
    · next other hother =>
        obtain ⟨hmem, hmember⟩ := List.mem_filter.mp (List.mem_of_getLast? hother)
        obtain rfl := packageField_inj hlast (hfound other hmem) h
        exact hdirect (by simpa using hmember)
    · exact packageField_ne_undeclared slot hlast h

variable {text : String} {manifest : Manifest}

/-- **Members.**  Of every text that is accepted the assignments behind the last heading with a
single bare key are read.  These are the direct members of the table, and what else there is
changes nothing, just if each one read into a list of dependencies is a direct member of its
table, and for each key of the package table the last one read is. -/
theorem reads_direct_members_iff (h : parse text = .ok manifest) :
    let found := assignments (significant (scan text.toList).tokens)
    ((∀ realm, manifest.dependencies.get realm =
          dependenciesOf Assignment.heading? found realm) ∧
      ∀ slot, manifest.package.get slot = fieldOf Assignment.heading? found slot) ∧
    (((∀ realm, manifest.dependencies.get realm =
          dependenciesOf Assignment.table? found realm) ∧
      ∀ slot, manifest.package.get slot = fieldOf Assignment.table? found slot) ↔
      (∀ realm : Realm, ∀ source ∈ found, source.heading? = some realm.table →
        source.table? = some realm.table) ∧
      ∀ slot, ∀ source ∈ (settingsOf Assignment.heading? found slot).getLast?,
        source.table? = some "package") := by
  intro found
  obtain ⟨-, -, rfl⟩ := parse_eq_ok_iff.mp h
  refine ⟨⟨get_dependencies_ofTokens, get_package_ofTokens⟩, and_congr ?_ ?_⟩
  · refine forall_congr' fun realm => ?_
    rw [get_dependencies_ofTokens]
    exact dependenciesOf_eq_iff found realm
  · refine forall_congr' fun slot => ?_
    rw [get_package_ofTokens]
    exact fieldOf_eq_iff text.toList slot

/-- A dotted assignment that is overruled and a nested one behind another heading. -/
def overruledText : String :=
  "[package]\ni.name = 'x'\nname = 'a'\n[place]\nz = \x7b name = 'c' \x7d\n" ++
    "[dependencies]\nt = 'd'\n"

/-- Assignments that are no direct members, and change nothing. -/
theorem direct_members_read :
    let found := assignments (significant (scan overruledText.toList).tokens)
    ∃ manifest, parse overruledText = .ok manifest ∧ found.length = 4 ∧
      (∀ realm, manifest.dependencies.get realm =
        dependenciesOf Assignment.table? found realm) ∧
      (∀ slot, manifest.package.get slot = fieldOf Assignment.table? found slot) ∧
      manifest.package.name.text = "a" := by
  intro found
  have hread : let tokens := (scan overruledText.toList).tokens
      ((scan overruledText.toList).errors = [] ∧ tokens ≠ []) ∧
        (assignments (significant tokens)).length = 4 ∧
        (∀ realm ∈ Realm.all, ∀ source ∈ assignments (significant tokens),
          source.heading? = some realm.table → source.table? = some realm.table) ∧
        (∀ slot ∈ PackageKey.all, ∀ source ∈
          (settingsOf Assignment.heading? (assignments (significant tokens)) slot).getLast?,
          source.table? = some "package") ∧
        (ofTokens tokens).package.name.text = "a" := by
    rw [show overruledText.toList = _ from String.toList_append, String.toList_ofList,
      String.toList_ofList]
    decide +kernel
  obtain ⟨⟨herrors, htokens⟩, hlength, hlisted, hset, hname⟩ := hread
  have hparse := parse_eq_ok_iff.mpr ⟨herrors, htokens, rfl⟩
  obtain ⟨hdependencies, hpackage⟩ := (reads_direct_members_iff hparse).2.mpr
    ⟨fun realm => hlisted realm (by cases realm <;> simp [Realm.all]),
      fun slot => hset slot (by cases slot <;> simp [PackageKey.all])⟩
  exact ⟨_, hparse, hlength, hdependencies, hpackage, hname⟩

/-- A text without any direct member: there are assignments in a table that is a value, with a
dotted key, behind a dotted heading and behind a quoted one. -/
def strayText : String :=
  "[package]\nm = \x7b name = 'a' \x7d\ni.version = '1'\n[package.m]\nrealm = 'dev'\n" ++
    "['x']\nregistry = 'r'\n[dependencies]\nf = \x7b u = 'b' \x7d\nx.y = 'c'\n" ++
    "[dependencies.t]\nz = 'd'\n"

/-- Assignments that are no direct members of any table with a bare name, all of which are
read. -/
theorem stray_assignments_read :
    ∃ manifest, parse strayText = .ok manifest ∧
      (∀ source ∈ assignments (significant (scan strayText.toList).tokens),
        source.table? = none) ∧
      (∀ slot, manifest.package.get slot ≠ slot.undeclared) ∧
      manifest.dependencies.shared.map (·.text) = ["b", "c", "d"] := by
  -- One evaluation of the scanner is enough for everything.
  have hread : let tokens := (scan strayText.toList).tokens
      ((scan strayText.toList).errors = [] ∧ tokens ≠ []) ∧
        (∀ source ∈ assignments (significant tokens), source.table? = none) ∧
        (∀ slot ∈ PackageKey.all, (ofTokens tokens).package.get slot ≠ slot.undeclared) ∧
        (ofTokens tokens).dependencies.shared.map (·.text) = ["b", "c", "d"] := by
    rw [show strayText.toList = _ from
      String.toList_append.trans (congrArg₂ (· ++ ·) String.toList_append String.toList_ofList),
      String.toList_ofList, String.toList_ofList]
    decide +kernel
  obtain ⟨⟨herrors, htokens⟩, hstray, hdeclared, hshared⟩ := hread
  refine ⟨_, parse_eq_ok_iff.mpr ⟨herrors, htokens, rfl⟩, hstray, fun slot =>
    hdeclared slot ?_, hshared⟩
  cases slot <;> simp [PackageKey.all]

end ManifestLint.Manifest
