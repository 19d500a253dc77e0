import ManifestLint.Proofs.Registry.Walking

/-!
# Whether a name exists

The answers to the questions whether an author or a package exists, in terms of
what the indexes of the chain show.
-/

namespace ManifestLint.Instant

variable (world : World Registry) (instant : Instant Registry) (handle : Handle)

/-- The names of the authors that an index shows. -/
def authorsShown : Option (List String) :=
  (instant.subtreesShown world handle).map fun subtrees => subtrees.map (·.name)

/-- The names of the packages that an index shows of an author. -/
def packageNamesShown (author : String) : Option (List String) :=
  (instant.packagesShown world handle author).map fun packages => packages.map (·.name)

variable {world}

/-- A root lists a name if it has an id for it. -/
theorem finds_root (hworld : world.Orderly) (name : String) :
    Finds world Read.root (·.idOf? name) (authorsShown world) name := by
  intro instant handle hready
  rw [value_root, authorsShown, ← rootShown_authors handle hworld]
  cases hroot : instant.rootShown world handle with
  | none => rfl
  | some root =>
      have hids := hasIds_rootShown handle hworld hready hroot
      have hnone : root.idOf? name = none ↔ name ∉ root.authors.map (·.name) :=
        Index.idOf?_eq_none_iff hids
      refine ⟨_, rfl, ?_⟩
      rw [Option.isSome_iff_ne_none, ne_eq, hnone, Decidable.not_not]

/-- The author whose packages a lookup has read, if one of them has a name. -/
def pickListing (name : String) (found : Option Index.Author) : Option Index.Author :=
  found.filter fun listed => name ∈ listed.names

theorem finds_author (hworld : world.Orderly) (author name : String) :
    Finds world (Read.author · author) (pickListing name)
      (fun instant handle => instant.packageNamesShown world handle author) name := by
  intro instant handle hready
  simp only [packageNamesShown, ← value_author handle hworld author]
  rcases instant.value world (Read.author handle author) with _ | (_ | listed)
  · rfl
  · exact ⟨_, rfl, by simp [pickListing]⟩
  · refine ⟨_, rfl, ?_⟩
    simp [pickListing, Index.Author.names, Option.filter]

/-- A search along the chain of a client judges a name by what the chain shows. -/
theorem judged_search {α β : Type} {read : Handle → Read α} {pick : α → Option β}
    {shown : Instant Registry → Handle → Option (List String)} {name : String}
    (hworld : world.Orderly) (hready : instant.state.Ready)
    (hread : ∀ handle, Keeps Registry.readiness (fun _ => True) (fun _ => True) (read handle))
    (hfinds : Finds world read pick shown name) {chain : List Handle}
    (hchain : instant.value world (Lookup.chain handle) = some chain) :
    ∃ found, instant.value world (Lookup.search handle read pick) = some found ∧
      Judged found.validity
        (levels world (instant.after world (Lookup.chain handle)) read shown chain) name := by
  have hstart := (keeps_chain handle).after hworld.keeps hready
  rw [Lookup.search, value_bind_some _ _ hchain]
  exact judged_searchFrom hworld hstart hread hfinds chain false [] (by simp) (by simp)

section

variable {chain : List Handle} (hworld : world.Orderly) (hready : instant.state.Ready)

include hworld hready

theorem judged_author (author : String)
    (hchain : instant.value world (Lookup.chain handle) = some chain) :
    ∃ validity, instant.value world (Lookup.authorValidity handle author) = some validity ∧
      Judged validity
        (levels world (instant.after world (Lookup.chain handle)) Read.root
          (authorsShown world) chain)
        (Text.lower author) := by
  have hfinds := finds_root hworld (Text.lower author)
  obtain ⟨found, hfound, hjudged⟩ := judged_search instant handle hworld hready
    (fun handle => (keeps_root handle).mono fun _ _ => trivial) hfinds hchain
  refine ⟨found.validity, ?_, hjudged⟩
  exact value_bind_some world instant hfound fun found =>
    (pure found.validity : Lookup Validity)

theorem judged_package (author name : String)
    (hchain : instant.value world (Lookup.chain handle) = some chain) :
    ∃ validity,
      instant.value world (Lookup.packageValidity handle author name) = some validity ∧
      Judged validity
        (levels world (instant.after world (Lookup.chain handle)) (Read.author · author)
          (fun instant handle => instant.packageNamesShown world handle author) chain)
        (Text.lower name) := by
  have hfinds := finds_author hworld author (Text.lower name)
  obtain ⟨found, hfound, hjudged⟩ := judged_search instant handle hworld hready
    (fun handle => keeps_author handle author) hfinds hchain
  refine ⟨found.validity, ?_, hjudged⟩
  exact value_bind_some world instant hfound fun found =>
    (pure found.validity : Lookup Validity)

end

/-- **The answers.**  Whatever the requests are answered with and whatever others
do meanwhile, a lookup builds a chain and says whether an author, or a package
of an author, exists: it does if an index of the chain that can be read lists the
name in lower case, it does not if every index was read and none lists it, and
nothing is known otherwise. -/
theorem validity_judged (hworld : world.Orderly) (hready : instant.state.Ready)
    (author name : String) :
    ∃ chain, instant.value world (Lookup.chain handle) = some chain ∧
      let start := instant.after world (Lookup.chain handle)
      (∃ validity,
        instant.value world (Lookup.authorValidity handle author) = some validity ∧
        Judged validity (levels world start Read.root (authorsShown world) chain)
          (Text.lower author)) ∧
      ∃ validity,
        instant.value world (Lookup.packageValidity handle author name) = some validity ∧
        Judged validity
          (levels world start (Read.author · author)
            (fun instant handle => instant.packageNamesShown world handle author) chain)
          (Text.lower name) := by
  obtain ⟨chain, hchain, -⟩ := (keeps_chain handle).value hworld.keeps hready
  exact ⟨chain, hchain, judged_author instant handle hworld hready author hchain,
    judged_package instant handle hworld hready author name hchain⟩

/-- An author is found under a name in another case. -/
theorem author_valid_in_other_case :
    let tree : Json :=
      .array [.object [("path", .string "Ann"), ("type", .string "tree"), ("sha", .string "a1")]]
    let world : World Registry := .steady fun _ => .ok (.found tree)
    let start : Instant Registry := ⟨.new {} (some defaultCooldown) none, 0⟩
    let handle : Handle := .alone "own" ⟨"owner", "index"⟩
    start.value world (Lookup.authorValidity handle "aNN") = some .valid := by
  intro tree world start handle
  have hworld : world.Orderly := by
    refine World.orderly_steady fun request entries _ hentries entry hmem => ?_
    obtain rfl := Option.some.inj hentries
    obtain rfl := List.mem_singleton.mp hmem
    exact ⟨⟨"Ann", rfl⟩, "a1", rfl⟩
  obtain ⟨chain, hchain, ⟨validity, hvalue, hjudged⟩, -⟩ :=
    validity_judged start handle hworld (Registry.ready_new ..) "aNN" ""
  obtain rfl : [handle] = chain := Option.some.inj hchain
  rw [hvalue, hjudged.valid.mpr ⟨["ann"], ?_, ?_⟩]
  · exact List.mem_singleton.mpr rfl
  · decide

end ManifestLint.Instant
