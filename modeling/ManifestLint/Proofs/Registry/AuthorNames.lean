import ManifestLint.Proofs.Registry.Searching

/-!
# The authors of a chain

There are two ways to ask a chain for its authors.  One walks along the whole chain and
gathers the names that the roots list, each where it stands first, past all roots that
cannot be read.  The other looks for one name, stops at the first root that lists it, and
remembers what it could not read.  If each request has one reply and the trees are well
formed, both tell of the same authors: a name is gathered if and only if it is valid.

* `Plain.listing`: the names that an index lists.
* `Plain.authorNames_eq`: what is gathered from the listings of a chain.
* `Instant.author_valid_iff_listed`: both ways compared.
-/

namespace ManifestLint

/-! ## Gathering names -/

namespace Lookup

variable {listed : List String}

/-- Names are added where they stand first. -/
theorem addNames_eraseDups (listed more : List String) :
    addNames listed.eraseDups more = (listed ++ more).eraseDups := by
  induction more generalizing listed with
  | nil => simp [addNames]
  | cons name rest ih =>
      have hnew : (if name ∈ listed.eraseDups then listed.eraseDups
          else listed.eraseDups ++ [name]) = (listed ++ [name]).eraseDups := by
        rw [List.eraseDups_append]
        by_cases hmem : name ∈ listed
        · simp [List.removeAll, hmem]
        · simp [List.removeAll, hmem, List.eraseDups_cons]
      rw [addNames_cons, hnew, ih, List.append_assoc, List.singleton_append]

theorem nodup_addNames (h : listed.Nodup) (more : List String) :
    (addNames listed more).Nodup := by
  induction more generalizing listed with
  | nil => exact h
  | cons name rest ih =>
      rw [addNames_cons]
      apply ih
      by_cases hmem : name ∈ listed
      · rw [if_pos hmem]
        exact h
      · rw [if_neg hmem, List.nodup_append]
        refine ⟨h, List.pairwise_singleton _ _, ?_⟩
        intro old hold other hother hsame
        obtain rfl := List.mem_singleton.mp hother
        exact hmem (hsame ▸ hold)

end Lookup

namespace Plain

variable (replies : Request → Reply) (handle index : Handle)

/-- The entries of all trees are well formed. -/
def WellFormedTrees : Prop :=
  ∀ request entries, request.kind = .tree → (replies request).entries? = some entries →
    ∀ entry ∈ entries, Index.WellFormed entry

/-- The names of the authors' subtrees at the root of an index, in their order, if the root can
be read. -/
def listing : Option (List String) :=
  (replies (index.request .tree Read.rootId)).entries?.map fun entries =>
    (Index.subtreesIn entries).map (·.name)

/-- The listings of the indexes of a client's chain. -/
def listings : List (Option (List String)) := (chain replies handle).map (listing replies)

variable {replies handle index}

/-- Gathering starts with the first root that was read, and leaves out no later one. -/
theorem namesAmong_eq (names : Option (List String)) (readings : List (Option Index.Root)) :
    namesAmong (names.map List.eraseDups) readings =
      if names = none ∧ ∀ reading ∈ readings, reading = none then none
      else some ((names.getD [] ++
        (readings.filterMap (·.map Index.Root.names)).flatten).eraseDups) := by
  induction readings generalizing names with
  | nil => cases names <;> simp [namesAmong]
  | cons reading rest ih =>
      cases reading with
      | none => simp [namesAmong, ih]
      | some root =>
          have hadd : Lookup.addNames ((names.map List.eraseDups).getD []) root.names =
              (names.getD [] ++ root.names).eraseDups := by
            rw [← Lookup.addNames_eraseDups]
            cases names <;> rfl
          have hrest := ih (some (names.getD [] ++ root.names))
          rw [Option.map_some] at hrest
          rw [namesAmong, hadd, hrest]
          simp

theorem nodup_of_namesAmong {readings : List (Option Index.Root)} {names : Option (List String)}
    {gathered : List String} (hnames : ∀ earlier ∈ names, earlier.Nodup)
    (h : namesAmong names readings = some gathered) : gathered.Nodup := by
  induction readings generalizing names with
  | nil => exact hnames gathered h
  | cons reading rest ih =>
      cases reading with
      | none => exact ih hnames h
      | some root =>
          refine ih ?_ h
          intro earlier hearlier
          obtain rfl := Option.some.inj hearlier
          apply Lookup.nodup_addNames
          cases names with
          | none => exact List.nodup_nil
          | some names => exact hnames names rfl

/-! ## What is listed -/

namespace WellFormedTrees

variable (h : WellFormedTrees replies)

include h

/-- A root that is a tree can be read, lists what the tree lists, and has ids for it. -/
theorem listing_eq (index : Handle) :
    listing replies index = (root replies index).toOption.map Index.Root.names ∧
    ∀ found, root replies index = .ok found → ∀ entry ∈ found.authors, Index.HasId entry := by
  rw [listing]
  cases hentries : (replies (index.request .tree Read.rootId)).entries? with
  | none =>
      cases hroot : root replies index with
      | error error =>
          refine ⟨rfl, ?_⟩
          rintro found ⟨⟩
      | ok found =>
          rw [root] at hroot
          cases htree : tree replies index Read.rootId with
          | error error =>
              rw [htree] at hroot
              cases hroot
          | ok entries => cases hentries.symm.trans (entries_of_tree htree)
  | some entries =>
      have hformed := h _ entries rfl hentries
      obtain ⟨other, hother, hauthors⟩ := Index.Root.ofEntries_wellFormed hformed
      rw [root_of_entries hentries hother]
      refine ⟨?_, ?_⟩
      · simp [Except.toOption, Index.Root.names, hauthors]
      · intro found hfound
        obtain rfl := Except.ok.inj hfound
        exact hauthors ▸ Index.hasId_subtreesIn hformed

theorem listings_eq : listings replies handle =
    ((chain replies handle).map fun index => (root replies index).toOption).map
      (·.map Index.Root.names) := by
  rw [List.map_map]
  exact List.map_congr_left fun index _ => (h.listing_eq index).1

/-- **Names.**  Nothing is gathered if no root can be read; otherwise every name that a root
lists is, in the order of the chain and of its trees, where it stands first. -/
theorem authorNames_eq : authorNames replies handle =
    if ∀ names ∈ listings replies handle, names = none then none
    else some ((listings replies handle).filterMap id).flatten.eraseDups := by
  have hnames := namesAmong_eq none
    ((chain replies handle).map fun index => (root replies index).toOption)
  have hread : ∀ readings : List (Option Index.Root),
      (∀ names ∈ readings.map (·.map Index.Root.names), names = none) ↔
        ∀ reading ∈ readings, reading = none := by
    intro readings
    simp
  rw [h.listings_eq, List.filterMap_map]
  simp only [hread]
  simpa [authorNames] using hnames

/-- **Validity.**  An author is valid if some root lists the name in lower case. -/
theorem authorValidity_eq_valid_iff (author : String) :
    authorValidity replies handle author = .valid ↔
      ∃ names, some names ∈ listings replies handle ∧ Text.lower author ∈ names := by
  have hlisted : ∀ {index : Handle} {found : Index.Root}, root replies index = .ok found →
      ((found.idOf? (Text.lower author)).isSome = true ↔ Text.lower author ∈ found.names) := by
    intro index found hfound
    have hids := (h.listing_eq index).2 found hfound
    have hnone : Index.idOf? found.authors (Text.lower author) = none ↔
        Text.lower author ∉ found.authors.map (·.name) := Index.idOf?_eq_none_iff hids
    rw [Option.isSome_iff_ne_none, ne_eq, Index.Root.idOf?, hnone, Decidable.not_not]
    rfl
  rw [h.listings_eq]
  constructor
  · intro hvalid
    cases hfound : (found replies handle (root replies) (·.idOf? (Text.lower author))).value with
    | none =>
        rw [authorValidity, Lookup.Found.validity, hfound] at hvalid
        dsimp only at hvalid
        split at hvalid <;> cases hvalid
    | some id =>
        obtain ⟨level, hlevel, hid⟩ := Lookup.mem_of_foundAmong hfound
        obtain ⟨index, hindex⟩ := exists_index hlevel
        refine ⟨level.names, List.mem_map.mpr ⟨some level, hlevel, rfl⟩, ?_⟩
        exact (hlisted hindex).mp (Option.isSome_iff_exists.mpr ⟨id, hid⟩)
  · rintro ⟨names, hnames, hmem⟩
    obtain ⟨reading, hreading, hsome⟩ := List.mem_map.mp hnames
    obtain ⟨level, rfl, rfl⟩ := Option.map_eq_some_iff.mp hsome
    obtain ⟨index, hindex⟩ := exists_index hreading
    apply Lookup.Found.validity_of_isSome
    exact Lookup.foundAmong_isSome hreading ((hlisted hindex).mpr hmem) false

end WellFormedTrees

end Plain

namespace Instant

open Registry (coherence cooling)

variable {answer replies : Request → Reply} {world : World Registry} {instant : Instant Registry}

/-- **Authors.**  Let each request have one reply, and let the entries of all trees be well
formed; indexes may be unreadable.  Whatever is in the caches, asking a client for the
names of authors gives nothing if no index of its chain can be read.  Otherwise it gives
every name that an index of the chain lists, in the order of the chain and of the trees,
where it stands first and there only; and an author is valid, at any other time, if and
only if the name in lower case is among these. -/
theorem author_valid_iff_listed (hformed : Plain.WellFormedTrees replies)
    (hcoherence : world.Keeps (coherence answer replies)) (hcooling : world.Keeps cooling)
    (hcoherent : instant.state.Coherent answer replies) (hcooldown : cooling.state instant.state)
    (handle : Handle) :
    let listings := Plain.listings replies handle
    ∃ names, instant.ended world (Lookup.authorNames handle) = .ok names ∧
      (names = none ↔ ∀ listing ∈ listings, listing = none) ∧
      ∀ gathered, names = some gathered →
        gathered.Nodup ∧ gathered = (listings.filterMap id).flatten.eraseDups ∧
        ∀ (later : Instant Registry), later.state.Coherent answer replies →
          cooling.state later.state → ∀ author : String,
            (later.ended world (Lookup.authorValidity handle author) = .ok .valid ↔
              Text.lower author ∈ gathered) := by
  intro listings
  have hnames : Plain.authorNames replies handle =
      if ∀ names ∈ listings, names = none then none
      else some (listings.filterMap id).flatten.eraseDups := hformed.authorNames_eq
  refine ⟨Plain.authorNames replies handle, ?_, ?_, ?_⟩
  · exact ended_eq_of_settles (settles_authorNames handle) (Lookup.browses_authorNames handle)
      hcoherence hcooling hcoherent hcooldown
  · rw [hnames]
    split
    · next hnone => exact iff_of_true rfl hnone
    · next hsome => exact iff_of_false nofun hsome
  · intro gathered hgathered
    have hlist : gathered = (listings.filterMap id).flatten.eraseDups := by
      rw [hnames] at hgathered
      split at hgathered
      · cases hgathered
      · exact (Option.some.inj hgathered).symm
    refine ⟨Plain.nodup_of_namesAmong (by simp) hgathered, hlist, ?_⟩
    intro later hlater hlaterCooldown author
    have hended := ended_eq_of_settles (settles_authorValidity handle author)
      (Lookup.browses_authorValidity handle author) hcoherence hcooling hlater hlaterCooldown
    have hvalid : Plain.authorValidity replies handle author = .valid ↔
        ∃ names, some names ∈ listings ∧ Text.lower author ∈ names :=
      hformed.authorValidity_eq_valid_iff author
    rw [hended, Except.ok.injEq, hvalid, hlist, List.mem_eraseDups, List.mem_flatten]
    simp [listings]

end Instant

/-- Only objects among the elements of a payload are tables. -/
theorem Json.object_mem_of_mem_tables {members : Entries String Json} {elements : List Json}
    (h : members ∈ Json.tables elements) : .object members ∈ elements := by
  obtain ⟨element, helement, hsome⟩ := List.mem_filterMap.mp h
  cases element with
  | object others =>
      obtain rfl := Option.some.inj hsome
      exact helement
  | _ => cases hsome

/-! ## Three indexes

The first index lists an author twice, in two spellings, and declares two others: one that
cannot be read, and one that lists an author of the first one again before a new one. -/

namespace ThreeIndexes

open PassedOver (entry)

/-- What the first index declares. -/
def declaration : String :=
  "\x7b\"fallback_registries\": [\"https://github.com/o/f\", \"https://github.com/o/g\"]\x7d"

/-- The replies of the host. -/
def answer (request : Request) : Reply :=
  match request.repository, request.idText with
  | "r", "main" => .ok (.found (.array [entry "Ann" "tree" "t1", entry "bob" "tree" "t2",
      entry "ANN" "tree" "t3", entry "config.json" "blob" "c"]))
  | "r", "c" => .ok (.found (.string declaration))
  | "g", "main" => .ok (.found (.array [entry "Bob" "tree" "t4", entry "cy" "tree" "t5"]))
  | _, _ => .ok { status := 404 }

/-- The client of the first index. -/
def client : Handle := .shared ⟨"o", "r"⟩

/-- A new registry. -/
def start : Instant Registry := ⟨.new {} (some defaultCooldown) none, 0⟩

theorem wellFormed_of_entry {path kind id : String} {members : Entries String Json}
    (h : .object members = entry path kind id) : Index.WellFormed members := by
  obtain rfl := Json.object.inj h
  exact ⟨⟨path, rfl⟩, id, rfl⟩

theorem wellFormedTrees : Plain.WellFormedTrees answer := by
  intro request entries _ hentries members hmem
  unfold answer at hentries
  split at hentries <;> cases hentries <;> have hobject := Json.object_mem_of_mem_tables hmem
  · simp only [List.mem_cons, List.not_mem_nil, or_false] at hobject
    rcases hobject with hentry | hentry | hentry | hentry <;> exact wellFormed_of_entry hentry
  · obtain ⟨c, -, hstring⟩ := List.mem_map.mp hobject
    cases hstring
  · simp only [List.mem_cons, List.not_mem_nil, or_false] at hobject
    rcases hobject with hentry | hentry <;> exact wellFormed_of_entry hentry

end ThreeIndexes

open ThreeIndexes in
/-- The authors are gathered past the index that cannot be read, each once, and are valid in
any spelling. -/
theorem authors_of_three_indexes :
    let world : World Registry := .steady answer
    start.ended world (Lookup.authorNames client) = .ok (some ["ann", "bob", "cy"]) ∧
      start.ended world (Lookup.authorValidity client "CY") = .ok .valid ∧
      start.ended world (Lookup.authorValidity client "dee") ≠ .ok .valid := by
  intro world
  have hcoherence : world.Keeps (Registry.coherence answer answer) :=
    World.keeps_coherence_steady answer answer
  have hcoherent : start.state.Coherent answer answer :=
    Registry.coherent_new answer {} (some defaultCooldown) none
  obtain ⟨names, hended, hnone, hlisted⟩ :=
    Instant.author_valid_iff_listed wellFormedTrees hcoherence (World.keeps_cooling_steady answer)
      hcoherent rfl client
  have hlistings : Plain.listings answer client =
      [some ["ann", "bob", "ann"], none, some ["bob", "cy"]] := by decide +kernel
  rw [hlistings] at hnone hlisted
  cases names with
  | none => exact nomatch hnone.mp rfl (some ["bob", "cy"]) (by simp)
  | some gathered =>
      obtain ⟨-, hgathered, hvalid⟩ := hlisted gathered rfl
      have hfirst : gathered = ["ann", "bob", "cy"] := hgathered.trans (by decide)
      subst hfirst
      refine ⟨hended, (hvalid start hcoherent rfl "CY").mpr (by decide), fun hdee => ?_⟩
      exact absurd ((hvalid start hcoherent rfl "dee").mp hdee) (by decide +kernel)

end ManifestLint
