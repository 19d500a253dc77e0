import ManifestLint.Proofs.Registry.Offering
import ManifestLint.Proofs.Registry.VersionVerdict

/-!
# Searching without a state

If each request has one reply, a search along a chain is a computation from the
replies, also where indexes on the way cannot be read: every one of them is read in
one way or fails in one way, and what is found is what is found among these plain
readings.

* `Plain.found`: the outcome of a search, and `Instant.settles_found`, that every search
  ends so.
* `Plain.authorNames`, `Plain.packageNames`, `Plain.versions`: what the indexes of a chain
  list.  `Plain.authorValidity`, `packageValidity`, `versionValidity`: what they say of a
  name.
* `Plain.authorValidity_of_mem`, `packageValidity_of_mem`, `versionValidity_of_mem`: what
  is listed is valid, if the names in the trees are spelt as they are looked up.
-/

namespace ManifestLint

namespace Lookup

variable {α β : Type} {pick : α → Option β} {readings : List (Option α)}

/-- One index that has what is looked for is enough. -/
theorem foundAmong_isSome {level : α} (hmem : some level ∈ readings)
    (hpick : (pick level).isSome = true) (failed : Bool) :
    (foundAmong pick failed readings).value.isSome = true := by
  rcases passed_or_hit pick readings with hpassed | ⟨before, value, hhit⟩
  · have hnone : pick level = none := hpassed (some level) hmem
    rw [hnone] at hpick
    cases hpick
  · rw [foundAmong_of_hit hhit]
    rfl

/-- What is found was read. -/
theorem mem_of_foundAmong {failed : Bool} {value : β}
    (h : (foundAmong pick failed readings).value = some value) :
    ∃ level, some level ∈ readings ∧ pick level = some value := by
  rcases passed_or_hit pick readings with hpassed | ⟨before, other, hhit⟩
  · rw [foundAmong_of_passed hpassed] at h
    cases h
  · rw [foundAmong_of_hit hhit] at h
    obtain rfl := Option.some.inj h
    obtain ⟨-, level, after, rfl, hpick⟩ := hhit
    exact ⟨level, by simp, hpick⟩

theorem Found.validity_of_isSome {found : Found β} (h : found.value.isSome = true) :
    found.validity = .valid := by
  obtain ⟨value, hvalue⟩ := Option.isSome_iff_exists.mp h
  rw [validity, hvalue]

theorem addNames_cons (names : List String) (first : String) (rest : List String) :
    addNames names (first :: rest) =
      addNames (if first ∈ names then names else names ++ [first]) rest := rfl

theorem mem_addNames {names more : List String} {name : String} :
    name ∈ addNames names more ↔ name ∈ names ∨ name ∈ more := by
  induction more generalizing names with
  | nil => simp [addNames]
  | cons first rest ih =>
      rw [addNames_cons, ih]
      split
      · next hfirst =>
          constructor
          · rintro (hold | hrest)
            · exact .inl hold
            · exact .inr (List.mem_cons_of_mem _ hrest)
          · rintro (hold | hmore)
            · exact .inl hold
            · rcases List.mem_cons.mp hmore with rfl | hrest
              · exact .inl hfirst
              · exact .inr hrest
      · simp [or_assoc]

end Lookup

namespace Plain

variable (replies : Request → Reply) (handle : Handle)

/-! ## Computations from the replies -/

/-- What a search along the chain of a client finds. -/
def found {α β : Type} (plain : Handle → Except ReadError α) (pick : α → Option β) :
    Lookup.Found β :=
  Lookup.foundAmong pick false ((chain replies handle).map fun index => (plain index).toOption)

/-- The names of the authors among the readings of roots. -/
def namesAmong (names : Option (List String)) : List (Option Index.Root) → Option (List String)
  | [] => names
  | none :: rest => namesAmong names rest
  | some root :: rest => namesAmong (some (Lookup.addNames (names.getD []) root.names)) rest

/-- The authors of a client's chain. -/
def authorNames : Option (List String) :=
  namesAmong none ((chain replies handle).map fun index => (root replies index).toOption)

/-- The packages of an author. -/
def packageNames (author : String) : Option (List String) :=
  (found replies handle (Plain.author replies · (Text.lower author)) id).value.map (·.names)

/-- What is found of a package. -/
def packageFound (author name : String) : Lookup.Found Index.Package :=
  found replies handle (package replies · (Text.lower author) (Text.lower name)) id

/-- The versions of a package, newest first. -/
def versions (author name : String) : Except Fault (Option (List String)) :=
  match (packageFound replies handle author name).value with
  | none => .ok none
  | some package => (package.newestFirst.mapError .notANumber).map some

/-- Whether an author exists. -/
def authorValidity (author : String) : Validity :=
  (found replies handle (root replies) (·.idOf? (Text.lower author))).validity

/-- Whether a package exists. -/
def packageValidity (author name : String) : Validity :=
  (found replies handle (Plain.author replies · (Text.lower author))
    (Instant.pickListing (Text.lower name))).validity

/-- Whether a version exists. -/
def versionValidity (author name requirement : String) : Except Fault Validity :=
  Lookup.verdictOn requirement (packageFound replies handle author name)

/-! ## Names that are spelt as they are looked up -/

/-- The entries of all trees are well formed, and what is listed in lower case stays as
it is if it is put in lower case again. -/
def WellNamed : Prop :=
  ∀ request entries, request.kind = .tree → (replies request).entries? = some entries →
    ∀ entry ∈ entries, Index.WellFormed entry ∧
      Text.lower (Index.nameOf entry) = Index.nameOf entry

variable {replies handle} {index : Handle}

/-- The tables of a tree are entries of a reply. -/
theorem entries_of_tree {id : Json} {entries : List (Entries String Json)}
    (h : tree replies index id = .ok entries) :
    (replies (index.request .tree id)).entries? = some entries := by
  rw [tree, payload] at h
  rw [Reply.entries?]
  cases hreply : replies (index.request .tree id) with
  | error fault =>
      rw [hreply] at h
      cases h
  | ok result =>
      rw [hreply] at h
      dsimp only at h
      split at h
      · next hok =>
          change (result.payload.elements.mapError ReadError.shape >>= fun elements =>
            pure (Json.tables elements)) = .ok entries at h
          rw [Reply.payload?, if_pos hok, Option.bind_some]
          cases helements : result.payload.elements with
          | error error =>
              rw [helements] at h
              cases h
          | ok elements =>
              rw [helements] at h
              cases h
              rfl
      · cases h

namespace WellNamed

variable (h : WellNamed replies)

include h

/-- What a root lists has an id, and a name as it is looked up. -/
theorem listed_root {root : Index.Root} (hroot : Plain.root replies index = .ok root) :
    ∀ listed ∈ root.authors, Index.HasId listed ∧ Text.lower listed.name = listed.name := by
  cases htree : tree replies index Read.rootId with
  | error error =>
      rw [Plain.root, htree] at hroot
      cases hroot
  | ok entries =>
      have hentries := h _ entries rfl (entries_of_tree htree)
      obtain ⟨other, hother, hauthors⟩ :=
        Index.Root.ofEntries_wellFormed fun entry hmem => (hentries entry hmem).1
      have hsame := hroot.symm.trans (root_of_entries (entries_of_tree htree) hother)
      obtain rfl := Except.ok.inj hsame
      intro listed hlisted
      rw [hauthors] at hlisted
      obtain ⟨entry, hentry, rfl⟩ := List.mem_map.mp hlisted
      obtain ⟨hformed, hname⟩ := hentries entry (List.mem_filter.mp hentry).1
      exact ⟨hformed.hasId, hname⟩

/-- What an author lists has a name as it is looked up. -/
theorem listed_author {key : String} {author : Index.Author}
    (hauthor : Plain.author replies index key = .ok (some author)) :
    ∀ name ∈ author.names, Text.lower name = name := by
  rw [Plain.author] at hauthor
  cases hroot : Plain.root replies index with
  | error error =>
      rw [hroot] at hauthor
      cases hauthor
  | ok root =>
      rw [hroot] at hauthor
      simp only [bind, Except.bind] at hauthor
      split at hauthor
      · cases hauthor
      · next id hid =>
          cases htree : tree replies index id with
          | error error =>
              rw [htree] at hauthor
              cases hauthor
          | ok entries =>
              have hentries := h _ entries rfl (entries_of_tree htree)
              have hother := Index.Author.ofEntries_wellFormed key id
                fun entry hmem => (hentries entry hmem).1
              rw [htree] at hauthor
              simp only [hother] at hauthor
              cases hauthor
              intro name hname
              obtain ⟨listed, hlisted, rfl⟩ := List.mem_map.mp hname
              obtain ⟨entry, hentry, rfl⟩ := List.mem_map.mp hlisted
              exact (hentries entry (List.mem_filter.mp hentry).1).2

end WellNamed

/-! ## What is listed is valid -/

theorem mem_namesAmong {readings : List (Option Index.Root)} {names : Option (List String)}
    {name : String} :
    name ∈ (namesAmong names readings).getD [] ↔
      name ∈ names.getD [] ∨ ∃ root, some root ∈ readings ∧ name ∈ root.names := by
  induction readings generalizing names with
  | nil => simp [namesAmong]
  | cons first rest ih =>
      cases first with
      | none => simp [namesAmong, ih]
      | some root =>
          rw [namesAmong, ih, Option.getD_some, Lookup.mem_addNames, or_assoc]
          refine or_congr_right ?_
          constructor
          · rintro (hfirst | ⟨other, hother, hname⟩)
            · exact ⟨root, List.mem_cons_self, hfirst⟩
            · exact ⟨other, List.mem_cons_of_mem _ hother, hname⟩
          · rintro ⟨other, hother, hname⟩
            rcases List.mem_cons.mp hother with hsame | hrest
            · exact .inl (Option.some.inj hsame ▸ hname)
            · exact .inr ⟨other, hrest, hname⟩

/-- A reading of a chain is that of one of its indexes. -/
theorem exists_index {α : Type} {plain : Handle → Except ReadError α} {level : α}
    (h : some level ∈ (chain replies handle).map fun index => (plain index).toOption) :
    ∃ index, plain index = .ok level := by
  obtain ⟨index, -, hlevel⟩ := List.mem_map.mp h
  exact ⟨index, eq_ok_of_toOption hlevel⟩

theorem authorValidity_of_mem (hnamed : WellNamed replies) {name : String}
    (hmem : name ∈ (authorNames replies handle).getD []) :
    authorValidity replies handle name = .valid := by
  rcases mem_namesAmong.mp hmem with hnone | ⟨root, hroot, hname⟩
  · cases hnone
  · obtain ⟨index, hindex⟩ := exists_index hroot
    have hlisted := hnamed.listed_root hindex
    obtain ⟨listed, hauthor, rfl⟩ := List.mem_map.mp hname
    refine Lookup.Found.validity_of_isSome (Lookup.foundAmong_isSome hroot ?_ false)
    have hid : root.idOf? listed.name ≠ none := fun hnone =>
      (Index.idOf?_eq_none_iff fun entry hentry => (hlisted entry hentry).1).mp hnone hname
    rw [(hlisted listed hauthor).2]
    exact Option.isSome_iff_ne_none.mpr hid

theorem packageValidity_of_mem (hnamed : WellNamed replies) {author name : String}
    (hmem : name ∈ (packageNames replies handle author).getD []) :
    packageValidity replies handle author name = .valid := by
  rw [packageNames] at hmem
  cases hfound : (found replies handle (Plain.author replies · (Text.lower author)) id).value with
  | none =>
      rw [hfound] at hmem
      cases hmem
  | some listed =>
      rw [hfound] at hmem
      have hname : name ∈ listed.names := hmem
      obtain ⟨level, hlevel, rfl⟩ := Lookup.mem_of_foundAmong hfound
      obtain ⟨index, hindex⟩ := exists_index hlevel
      refine Lookup.Found.validity_of_isSome (Lookup.foundAmong_isSome hlevel ?_ false)
      rw [hnamed.listed_author hindex name hname]
      simp [Instant.pickListing, Option.filter, hname]

end Plain

namespace Version

/-- The versions that a text denotes, published or as a requirement, are regular. -/
structure RegularText (text : String) : Prop where
  published : ∀ version, parse? text = some version → version.Regular
  required : ∀ version, anchor? text = some version → version.Regular

end Version

namespace Plain

variable {replies : Request → Reply} {handle : Handle}

/-- A package that is found was published by an index of the chain. -/
theorem exists_of_packageFound {author name : String} {package : Index.Package}
    (h : (packageFound replies handle author name).value = some package) :
    ∃ index ∈ chain replies handle, ∀ text ∈ package.versionTexts,
      Publishes replies index (Text.lower author) (Text.lower name) text := by
  obtain ⟨level, hlevel, rfl⟩ := Lookup.mem_of_foundAmong h
  obtain ⟨index, hindex, hread⟩ := List.mem_map.mp hlevel
  exact ⟨index, hindex, fun text htext => ⟨package, eq_ok_of_toOption hread, htext⟩⟩

/-- A published version satisfies itself, and no comparison on the way to it is
refused. -/
theorem versionValidity_of_mem {author name requirement : String} {versions : List String}
    (hregular : ∀ index ∈ chain replies handle, ∀ author name text,
      Publishes replies index author name text → Version.RegularText text)
    (hversions : Plain.versions replies handle author name = .ok (some versions))
    (hmem : requirement ∈ versions) :
    versionValidity replies handle author name requirement = .ok .valid := by
  rw [Plain.versions] at hversions
  rw [versionValidity, Lookup.verdictOn]
  cases hfound : (packageFound replies handle author name).value with
  | none =>
      rw [hfound] at hversions
      cases hversions
  | some package =>
      obtain ⟨index, hindex, hpublished⟩ := exists_of_packageFound hfound
      have htexts : ∀ text ∈ package.versionTexts, Version.RegularText text :=
        fun text htext => hregular index hindex _ _ text (hpublished text htext)
      rw [hfound] at hversions
      cases hnewest : package.newestFirst with
      | error error =>
          simp only [hnewest] at hversions
          cases hversions
      | ok sorted =>
          simp only [hnewest] at hversions
          obtain rfl : sorted = versions := Option.some.inj (Except.ok.inj hversions)
          have hperm : sorted.Perm package.versionTexts :=
            package.newestFirst_outcome.of_ok hnewest
          have hrequired := htexts requirement (hperm.subset hmem)
          have hself : Version.satisfies requirement requirement = .ok true := if_pos rfl
          have houtcome := package.anySatisfies_newestFirst_outcome requirement
          dsimp only
          change EndsIn _ _ (Instant.satisfies requirement package) at houtcome
          cases hsatisfied : Instant.satisfies requirement package with
          | error error =>
              rcases houtcome.of_error hsatisfied with
                ⟨version, hanchor, hdeceives⟩ | ⟨text, htext, version, hparse, hdeceives⟩
              · exact absurd hdeceives ((hrequired.required version hanchor).not_deceives error)
              · have hversion := (htexts text htext).published version hparse
                exact absurd hdeceives (hversion.not_deceives error)
          | ok satisfied =>
              have htrue : satisfied = true :=
                (houtcome.of_ok hsatisfied).mpr ⟨requirement, hperm.subset hmem, hself⟩
              rw [htrue]
              rfl

end Plain

/-! ## Searching through a coherent registry -/

namespace Instant

open Registry (coherence cooling)

variable {answer replies : Request → Reply}

/-- The chain is found whether or not the configuration can be read. -/
theorem settles_chain_always (handle : Handle) :
    Settles (coherence answer replies) (· = .noCooldown) (Lookup.chain handle)
      (.ok (Plain.chain replies handle)) :=
  settles_chain (.inr rfl)

section

variable {α β : Type} {read : Handle → Read α} {plain : Handle → Except ReadError α}
  (hread : ∀ index, Settles (coherence answer replies) (fun _ => False) (read index) (plain index))

include hread

theorem settles_foundAmong (pick : α → Option β) (failed : Bool) (indexes : List Handle) :
    Settles (coherence answer replies) (· = .noCooldown)
      (Lookup.searchFrom read pick failed indexes)
      (.ok (Lookup.foundAmong pick failed
        (indexes.map fun index => (plain index).toOption))) := by
  induction indexes generalizing failed with
  | nil => exact settles_pure _
  | cons index rest ih =>
      refine (settles_attempt index (hread index)).bind_ok ?_
      rw [List.map_cons]
      cases (plain index).toOption with
      | none => exact ih true
      | some level =>
          simp only [Lookup.foundAmong]
          cases pick level with
          | some value => exact settles_pure _
          | none => exact ih failed

/-- **Searches.**  Every search finds what is found among the plain readings. -/
theorem settles_found (pick : α → Option β) (handle : Handle) :
    Settles (coherence answer replies) (· = .noCooldown) (Lookup.search handle read pick)
      (.ok (Plain.found replies handle plain pick)) :=
  (settles_chain_always handle).bind_ok (settles_foundAmong hread pick false _)

end

variable (handle : Handle) (author name requirement : String)

theorem settles_namesAlong (names : Option (List String)) (indexes : List Handle) :
    Settles (coherence answer replies) (· = .noCooldown) (Lookup.namesAlong names indexes)
      (.ok (Plain.namesAmong names
        (indexes.map fun index => (Plain.root replies index).toOption))) := by
  induction indexes generalizing names with
  | nil => exact settles_pure names
  | cons index rest ih =>
      refine (settles_attempt index (settles_root index)).bind_ok ?_
      rw [List.map_cons]
      cases (Plain.root replies index).toOption with
      | none => exact ih names
      | some root => exact ih _

theorem settles_authorNames :
    Settles (coherence answer replies) (· = .noCooldown) (Lookup.authorNames handle)
      (.ok (Plain.authorNames replies handle)) :=
  (settles_chain_always handle).bind_ok (settles_namesAlong none _)

theorem settles_packageNames :
    Settles (coherence answer replies) (· = .noCooldown) (Lookup.packageNames handle author)
      (.ok (Plain.packageNames replies handle author)) :=
  (settles_found (fun index => settles_author index author) id handle).bind_ok (settles_pure _)

theorem settles_packageFound :
    Settles (coherence answer replies) (· = .noCooldown) (Lookup.package handle author name)
      (.ok (Plain.packageFound replies handle author name)) :=
  settles_found (fun index => settles_package index author name) id handle

theorem settles_versions :
    Settles (coherence answer replies) (· = .noCooldown) (Lookup.versions handle author name)
      (Plain.versions replies handle author name) := by
  refine (settles_packageFound handle author name).bind_ok ?_
  rw [Plain.versions]
  cases (Plain.packageFound replies handle author name).value with
  | none => exact settles_pure _
  | some package =>
      exact (settles_ofVersions package.newestFirst).bind fun versions _ => settles_pure _

theorem settles_authorValidity :
    Settles (coherence answer replies) (· = .noCooldown) (Lookup.authorValidity handle author)
      (.ok (Plain.authorValidity replies handle author)) :=
  (settles_found settles_root _ handle).bind_ok (settles_pure _)

theorem settles_packageValidity :
    Settles (coherence answer replies) (· = .noCooldown)
      (Lookup.packageValidity handle author name)
      (.ok (Plain.packageValidity replies handle author name)) :=
  (settles_found (fun index => settles_author index author) _ handle).bind_ok (settles_pure _)

theorem settles_versionValidity :
    Settles (coherence answer replies) (· = .noCooldown)
      (Lookup.versionValidity handle author name requirement)
      (Plain.versionValidity replies handle author name requirement) := by
  refine (settles_packageFound handle author name).bind_ok ?_
  rw [Plain.versionValidity]
  rcases Plain.packageFound replies handle author name with ⟨_ | package, failed⟩
  · exact settles_pure _
  · have hsatisfies : Settles (coherence answer replies) (· = .noCooldown)
        (do
          let versions ← Lookup.ofVersions package.newestFirst
          let satisfied ← Lookup.ofVersions (Version.anySatisfies requirement versions)
          return if satisfied then .valid else .invalid : Lookup Validity)
        (((satisfies requirement package).mapError .notANumber).map
          fun satisfied => if satisfied then .valid else .invalid) := by
      rw [← bind_assoc, ← Lookup.ofVersions_bind]
      exact (settles_ofVersions _).bind fun satisfied _ => settles_pure _
    exact hsatisfies

/-- If the notices have a cooldown, a lookup ends with what the replies determine. -/
theorem ended_eq_of_settles {α : Type} {lookup : Lookup α} {expected : Except Fault α}
    {world : World Registry} {instant : Instant Registry}
    (hsettles : Settles (coherence answer replies) (· = .noCooldown) lookup expected)
    (hbrowses : Lookup.Browses (fun _ => True) lookup)
    (hcoherence : world.Keeps (coherence answer replies)) (hcooling : world.Keeps cooling)
    (hcoherent : instant.state.Coherent answer replies) (hcooldown : cooling.state instant.state) :
    instant.ended world lookup = expected := by
  rcases hsettles.ended_cases hcoherence hcoherent with hexpected | ⟨fault, hnone, hfault⟩
  · exact hexpected
  · have hended := (keeps_cooling_browses hbrowses).ended hcooling hcooldown
    obtain ⟨error, -, hrefused⟩ := hended.of_error hfault
    cases hnone.symm.trans hrefused

end Instant

end ManifestLint
