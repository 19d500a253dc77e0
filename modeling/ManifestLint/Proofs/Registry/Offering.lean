import ManifestLint.Proofs.Registry.Determined
import ManifestLint.Proofs.Registry.Validity
import ManifestLint.Proofs.Version.Refusals

/-!
# What the indexes of a chain offer

An index is **well answered** if every part of it that is listed can be read: the root
and the subtrees of the authors are trees with well-formed entries, and the history of
a package is a text.  If that is so for all indexes of a chain, lookups along the chain
never pass one that could not be read, and what they find can be said without a state.

* `Plain.Lists`, `Plain.Publishes`: what an index offers.
* `Plain.offered?`: the package that a chain offers, by the first index that lists it.
* `Instant.tells_authorValidity`, `tells_packageValidity`, `settles_offered`: lookups along
  such a chain.
-/

namespace ManifestLint

namespace Plain

variable (replies : Request → Reply)

/-- The chain with the clients of further URLs behind it, unsupported ones and
repetitions left out. -/
def extend (chain : List Handle) : List String → List Handle
  | [] => chain
  | url :: rest =>
    match Handle.find? url with
    | none => extend chain rest
    | some handle =>
      if chain.any (·.url = handle.url) then extend chain rest
      else extend (chain ++ [handle]) rest

/-- The chain of a client. -/
def chain (handle : Handle) : List Handle :=
  match handle with
  | .alone .. => [handle]
  | .shared _ =>
    match config replies handle with
    | .ok (some config) => extend [handle] config.fallbacks
    | _ => [handle]

/-- The index lists an author, under a name in lower case. -/
def ListsAuthor (index : Handle) (name : String) : Prop :=
  ∃ found, author replies index name = .ok (some found)

/-- The index lists a package under an author, both under names in lower case. -/
def Lists (index : Handle) (author name : String) : Prop :=
  ∃ found, Plain.author replies index author = .ok (some found) ∧ name ∈ found.names

/-- The index is the first one of a chain that lists a package. -/
def FirstToList (chain : List Handle) (author name : String) (index : Handle) : Prop :=
  ∃ before after, chain = before ++ index :: after ∧
    (∀ earlier ∈ before, ¬ Lists replies earlier author name) ∧ Lists replies index author name

/-- The index has published a version of a package. -/
def Publishes (index : Handle) (author name version : String) : Prop :=
  ∃ found, package replies index author name = .ok (some found) ∧ version ∈ found.versionTexts

/-- The versions that an index has published are regular. -/
def RegularVersions (index : Handle) : Prop :=
  ∀ author name text version, Publishes replies index author name text →
    Version.parse? text = some version → version.Regular

/-- The package of a chain, in the first index that lists it. -/
def offered? (chain : List Handle) (author name : String) : Option Index.Package :=
  chain.findSome? fun index => (package replies index author name).toOption.bind id

/-- All parts of an index that are listed can be read. -/
structure WellAnswered (index : Handle) : Prop where
  root : ∃ entries, (replies (index.request .tree Read.rootId)).entries? = some entries ∧
    ∀ entry ∈ entries, Index.WellFormed entry
  authors : ∀ root, Plain.root replies index = .ok root → ∀ listed ∈ root.authors,
    ∃ entries, (replies (index.request .tree listed.id)).entries? = some entries ∧
      ∀ entry ∈ entries, Index.WellFormed entry
  packages : ∀ key author, Plain.author replies index key = .ok (some author) →
    ∀ listed ∈ author.packages,
      ∃ text, (replies (index.request .blob listed.id)).payload? = some (.string text)

variable {replies} {index : Handle}

/-! ## Reading -/

theorem payload_eq {kind : RequestKind} {id payload : Json}
    (h : (replies (index.request kind id)).payload? = some payload) :
    Plain.payload replies index kind id = .ok payload := by
  rw [Plain.payload]
  cases hreply : replies (index.request kind id) with
  | error fault =>
      rw [hreply] at h
      cases h
  | ok result =>
      rw [hreply, Reply.payload?] at h
      split at h
      · next hok =>
          cases h
          simp [hok]
      · cases h

theorem tree_eq {id : Json} {entries : List (Entries String Json)}
    (h : (replies (index.request .tree id)).entries? = some entries) :
    tree replies index id = .ok entries := by
  obtain ⟨payload, hpayload, helements⟩ := Option.bind_eq_some_iff.mp h
  obtain ⟨elements, hok, rfl⟩ := Option.map_eq_some_iff.mp helements
  rw [tree, payload_eq hpayload]
  change (payload.elements.mapError ReadError.shape >>= _) = _
  rw [eq_ok_of_toOption hok]
  rfl

/-- The root is made of the entries of its tree. -/
theorem root_of_entries {entries : List (Entries String Json)} {found : Index.Root}
    (h : (replies (index.request .tree Read.rootId)).entries? = some entries)
    (hfound : Index.Root.ofEntries entries = .ok found) : root replies index = .ok found := by
  rw [root, tree_eq h]
  change (Index.Root.ofEntries entries).mapError ReadError.shape = .ok found
  rw [hfound]
  rfl

/-- A version that an index has published stands in a history that is stored in a blob. -/
theorem Publishes.exists_blob {author name version : String}
    (h : Publishes replies index author name version) :
    ∃ id text, Plain.payload replies index .blob id = .ok (.string text) ∧
      version ∈ (Record.history text.toList).map (·.version) := by
  obtain ⟨found, hfound, hversion⟩ := h
  rw [Plain.package] at hfound
  cases hauthor : Plain.author replies index (Text.lower author) with
  | error error =>
      rw [hauthor] at hfound
      cases hfound
  | ok listed =>
      rw [hauthor] at hfound
      simp only [bind, Except.bind] at hfound
      split at hfound
      · cases hfound
      · next id _ =>
          cases hpayload : Plain.payload replies index .blob id with
          | error error =>
              rw [hpayload] at hfound
              cases hfound
          | ok payload =>
              rw [hpayload] at hfound
              cases payload with
              | string text =>
                  cases hfound
                  exact ⟨id, text, hpayload, hversion⟩
              | _ => cases hfound

namespace WellAnswered

variable (h : WellAnswered replies index)

include h

/-- The root can be read, and what it lists has an id. -/
theorem root_eq : ∃ root, Plain.root replies index = .ok root ∧
    ∀ listed ∈ root.authors, Index.HasId listed := by
  obtain ⟨entries, hentries, hformed⟩ := h.root
  obtain ⟨root, hroot, hauthors⟩ := Index.Root.ofEntries_wellFormed hformed
  exact ⟨root, root_of_entries hentries hroot, hauthors ▸ Index.hasId_subtreesIn hformed⟩

/-- An author is found if the root lists it, and what is listed has an id. -/
theorem author_eq {root : Index.Root} (hroot : Plain.root replies index = .ok root)
    (key : String) : ∃ found, Plain.author replies index key = .ok found ∧
      found.isSome = (root.idOf? key).isSome ∧
      ∀ author ∈ found, ∀ listed ∈ author.packages, Index.HasId listed := by
  rw [Plain.author, hroot]
  cases hid : root.idOf? key with
  | none =>
      refine ⟨none, ?_, rfl, by simp⟩
      simp only [bind, Except.bind, hid]
      rfl
  | some id =>
      obtain ⟨listed, hlisted, -, rfl⟩ := Index.mem_of_idOf? hid
      obtain ⟨entries, hentries, hformed⟩ := h.authors root hroot listed hlisted
      have hauthor := Index.Author.ofEntries_wellFormed key listed.id hformed
      refine ⟨some ⟨key, listed.id, Index.packagesIn entries⟩, ?_, rfl, ?_⟩
      · simp only [bind, Except.bind, hid, tree_eq hentries, hauthor]
        rfl
      · intro author hsame package hpackage
        obtain rfl := Option.some.inj hsame
        obtain ⟨entry, hentry, rfl⟩ := List.mem_map.mp hpackage
        exact (hformed entry (List.mem_filter.mp hentry).1).hasId

theorem listsAuthor_iff {root : Index.Root} (hroot : Plain.root replies index = .ok root)
    (key : String) : ListsAuthor replies index key ↔ (root.idOf? key).isSome = true := by
  obtain ⟨found, hfound, hsome, -⟩ := h.author_eq hroot key
  rw [ListsAuthor, hfound, ← hsome, Option.isSome_iff_exists]
  simp

theorem exists_author (key : String) : ∃ found, Plain.author replies index key = .ok found := by
  obtain ⟨root, hroot, -⟩ := h.root_eq
  obtain ⟨found, hfound, -⟩ := h.author_eq hroot key
  exact ⟨found, hfound⟩

/-- A package is found if its author lists it.  The author is read under the name in
lower case once more. -/
theorem package_eq {author : String} (hlower : Text.lower author = author) (name : String) :
    ∃ found, Plain.package replies index author name = .ok found ∧
      (found.isSome = true ↔ Lists replies index author name) := by
  obtain ⟨root, hroot, -⟩ := h.root_eq
  obtain ⟨listed, hlisted, -, hids⟩ := h.author_eq hroot author
  rw [Plain.package, hlower, Lists, hlisted]
  cases listed with
  | none =>
      refine ⟨none, ?_, by simp⟩
      simp only [bind, Except.bind, Option.bind_none]
      rfl
  | some listed =>
      have hnone : listed.idOf? name = none ↔ name ∉ listed.names :=
        Index.idOf?_eq_none_iff (hids listed rfl)
      cases hid : listed.idOf? name with
      | none =>
          refine ⟨none, ?_, by simpa using hnone.mp hid⟩
          simp only [bind, Except.bind, Option.bind_some, hid]
          rfl
      | some id =>
          obtain ⟨entry, hentry, -, rfl⟩ := Index.mem_of_idOf? hid
          obtain ⟨text, htext⟩ := h.packages author listed hlisted entry hentry
          have hname : name ∈ listed.names := by
            apply Decidable.not_not.mp
            intro hunlisted
            rw [hnone.mpr hunlisted] at hid
            cases hid
          refine ⟨some ⟨author, name, Record.history text.toList⟩, ?_, by simpa using hname⟩
          simp only [bind, Except.bind, Option.bind_some, hid, payload_eq htext, historyText]
          rfl

end WellAnswered

/-! ## Chains -/

section

variable {indexes : List Handle} (h : ∀ index ∈ indexes, WellAnswered replies index)
  {author : String} (hlower : Text.lower author = author) (name : String)

include h hlower

/-- **The offer.**  A chain offers what the first index has that lists the package. -/
theorem offered?_eq_some_iff (package : Index.Package) :
    offered? replies indexes author name = some package ↔
      ∃ index, FirstToList replies indexes author name index ∧
        Plain.package replies index author name = .ok (some package) := by
  have hread : ∀ index ∈ indexes,
      ((Plain.package replies index author name).toOption.bind id = none ↔
        ¬ Lists replies index author name) ∧
      ((Plain.package replies index author name).toOption.bind id = some package ↔
        Lists replies index author name ∧
          Plain.package replies index author name = .ok (some package)) := by
    intro index hindex
    obtain ⟨found, hpackage, hlists⟩ := (h index hindex).package_eq hlower name
    rw [← hlists, hpackage]
    cases found <;> simp [Except.toOption]
  rw [offered?, List.findSome?_eq_some_iff]
  constructor
  · rintro ⟨before, index, after, rfl, hindex, hbefore⟩
    obtain ⟨hlists, hpackage⟩ := (hread index (by simp)).2.mp hindex
    refine ⟨index, ⟨before, after, rfl, fun earlier hearlier => ?_, hlists⟩, hpackage⟩
    exact (hread earlier (List.mem_append_left _ hearlier)).1.mp (hbefore earlier hearlier)
  · rintro ⟨index, ⟨before, after, rfl, hbefore, hlists⟩, hpackage⟩
    refine ⟨before, index, after, rfl, ?_, fun earlier hearlier => ?_⟩
    · exact (hread index (by simp)).2.mpr ⟨hlists, hpackage⟩
    · exact (hread earlier (List.mem_append_left _ hearlier)).1.mpr (hbefore earlier hearlier)

theorem offered?_isSome_iff :
    (offered? replies indexes author name).isSome = true ↔
      ∃ index ∈ indexes, Lists replies index author name := by
  rw [offered?, List.findSome?_isSome_iff]
  refine exists_congr fun index => and_congr_right fun hindex => ?_
  obtain ⟨found, hpackage, hlists⟩ := (h index hindex).package_eq hlower name
  rw [← hlists, hpackage]
  rfl

end

end Plain

/-! ## Lookups -/

/-- The validity says whether something holds. -/
def Validity.Tells (holds : Prop) : Validity → Prop
  | valid => holds
  | invalid => ¬ holds
  | indeterminate => False

namespace Instant

open Registry (coherence)

variable {answer replies : Request → Reply} {spurious : Fault → Prop}

/-- An attempt gives what the plain reading gives; it is not reported if that is a
value. -/
theorem settles_attempt_of {α : Type} (handle : Handle) {read : Read α}
    {plain : Except ReadError α}
    (hread : Settles (coherence answer replies) (fun _ => False) read plain)
    (hplain : (∃ value, plain = .ok value) ∨ spurious .noCooldown) :
    Settles (coherence answer replies) spurious (Lookup.attempt handle read)
      (.ok plain.toOption) := by
  rcases hplain with ⟨value, rfl⟩ | hspurious
  · refine (keeps_lift hread).bind fun ended hended => ?_
    cases ended with
    | ok other =>
        obtain rfl := Except.ok.inj hended
        exact settles_pure _
    | error error => nomatch hended.resolve_right id
  · refine (settles_attempt handle hread).weaken fun fault hfault => ?_
    rcases hfault with hexpected | rfl
    · exact .inl hexpected
    · exact .inr hspurious

theorem settles_extend (chain : List Handle) (urls : List String) :
    Settles (coherence answer replies) spurious (Lookup.extend chain urls)
      (.ok (Plain.extend chain urls)) := by
  induction urls generalizing chain with
  | nil => exact settles_pure chain
  | cons url rest ih =>
      unfold Lookup.extend Plain.extend
      refine (settles_find? url).bind_ok ?_
      cases Handle.find? url with
      | none => exact ih chain
      | some handle =>
          dsimp only
          split
          · exact ih chain
          · exact ih (chain ++ [handle])

/-- Indexes that can be read give their names. -/
theorem keeps_namesAlong (names : Option (List String)) {indexes : List Handle}
    (hanswered : ∀ index ∈ indexes, Plain.WellAnswered replies index) :
    Keeps (coherence answer replies) (fun _ => True) spurious
      (Lookup.namesAlong names indexes) := by
  induction indexes generalizing names with
  | nil => exact keeps_pure trivial
  | cons index rest ih =>
      obtain ⟨root, hroot, -⟩ := (hanswered index List.mem_cons_self).root_eq
      have hrest := ih (some (Lookup.addNames (names.getD []) root.names))
        fun other hother => hanswered other (List.mem_cons_of_mem _ hother)
      refine (settles_attempt_of index (settles_root index) (.inl ⟨root, hroot⟩)).keeps.bind ?_
      rintro found rfl
      rw [hroot]
      exact hrest

theorem tells_validity {α : Type} {holds : Prop} {found : Option α}
    (h : found.isSome = true ↔ holds) :
    (Lookup.Found.validity ⟨found, false⟩).Tells holds := by
  cases found with
  | none => exact fun hholds => nomatch h.mpr hholds
  | some value => exact h.mp rfl

section

variable {handle : Handle}
  (hnotices : (∃ config, Plain.config replies handle = .ok config) ∨ spurious .noCooldown)

include hnotices

/-- The chain of a client is determined by its configuration. -/
theorem settles_chain :
    Settles (coherence answer replies) spurious (Lookup.chain handle)
      (.ok (Plain.chain replies handle)) := by
  cases handle with
  | alone name address => exact settles_pure _
  | shared address =>
      refine (settles_attempt_of _ (settles_config _) hnotices).bind_ok ?_
      rw [Plain.chain]
      rcases Plain.config replies (.shared address) with error | (_ | config)
      · exact settles_pure _
      · exact settles_pure _
      · exact settles_extend _ _

section

variable {α β : Type} {read : Handle → Read α} {plain : Handle → Except ReadError α}
  (hread : ∀ index, Settles (coherence answer replies) (fun _ => False) (read index) (plain index))

omit hnotices in
include hread in
/-- A search among indexes that can be read stops where it finds something. -/
theorem settles_searchFrom (pick : α → Option β) (failed : Bool) {indexes : List Handle}
    (hplain : ∀ index ∈ indexes, ∃ value, plain index = .ok value) :
    Settles (coherence answer replies) spurious (Lookup.searchFrom read pick failed indexes)
      (.ok ⟨indexes.findSome? fun index => (plain index).toOption.bind pick, failed⟩) := by
  induction indexes with
  | nil => exact settles_pure _
  | cons index rest ih =>
      obtain ⟨value, hvalue⟩ := hplain index List.mem_cons_self
      have hrest := ih fun other hother => hplain other (List.mem_cons_of_mem _ hother)
      refine (settles_attempt_of index (hread index) (.inl ⟨value, hvalue⟩)).bind_ok ?_
      rw [List.findSome?_cons, hvalue]
      simp only [Except.toOption, Option.bind_some]
      cases pick value with
      | none => exact hrest
      | some found => exact settles_pure _

include hread in
theorem settles_search (pick : α → Option β)
    (hplain : ∀ index ∈ Plain.chain replies handle, ∃ value, plain index = .ok value) :
    Settles (coherence answer replies) spurious (Lookup.search handle read pick)
      (.ok ⟨(Plain.chain replies handle).findSome? fun index =>
        (plain index).toOption.bind pick, false⟩) :=
  (settles_chain hnotices).bind_ok (settles_searchFrom hread pick false hplain)

end

variable (hanswered : ∀ index ∈ Plain.chain replies handle, Plain.WellAnswered replies index)

include hanswered

theorem keeps_authorNames :
    Keeps (coherence answer replies) (fun _ => True) spurious (Lookup.authorNames handle) := by
  refine (settles_chain hnotices).keeps.bind ?_
  rintro chain rfl
  exact keeps_namesAlong none hanswered

/-- An author exists if some index of the chain lists it. -/
theorem tells_authorValidity (author : String) :
    Keeps (coherence answer replies)
      (Validity.Tells (∃ index ∈ Plain.chain replies handle,
        Plain.ListsAuthor replies index (Text.lower author)))
      spurious (Lookup.authorValidity handle author) := by
  have hroot : ∀ index ∈ Plain.chain replies handle,
      ∃ root, Plain.root replies index = .ok root := by
    intro index hindex
    obtain ⟨root, hroot, -⟩ := (hanswered index hindex).root_eq
    exact ⟨root, hroot⟩
  have hsearch : Settles (coherence answer replies) spurious _ _ :=
    settles_search hnotices settles_root (·.idOf? (Text.lower author)) hroot
  have hvalidity : Settles (coherence answer replies) spurious
      (Lookup.authorValidity handle author) (.ok (Lookup.Found.validity _)) :=
    hsearch.bind_ok (settles_pure _)
  refine hvalidity.keeps.mono ?_
  rintro validity rfl
  refine tells_validity ?_
  rw [List.findSome?_isSome_iff]
  refine exists_congr fun index => and_congr_right fun hindex => ?_
  obtain ⟨root, hroot⟩ := hroot index hindex
  rw [(hanswered index hindex).listsAuthor_iff hroot, hroot]
  rfl

theorem keeps_packageNames (author : String) :
    Keeps (coherence answer replies) (fun _ => True) spurious
      (Lookup.packageNames handle author) := by
  have hsearch : Settles (coherence answer replies) spurious _ _ :=
    settles_search hnotices (fun index => settles_author index author) id
      fun index hindex => (hanswered index hindex).exists_author _
  exact hsearch.keeps.bind fun _ _ => keeps_pure trivial

/-- A package exists if some index of the chain lists it under its author. -/
theorem tells_packageValidity (author name : String) :
    Keeps (coherence answer replies)
      (Validity.Tells (∃ index ∈ Plain.chain replies handle,
        Plain.Lists replies index (Text.lower author) (Text.lower name)))
      spurious (Lookup.packageValidity handle author name) := by
  have hsearch : Settles (coherence answer replies) spurious _ _ :=
    settles_search hnotices (fun index => settles_author index author)
      (pickListing (Text.lower name)) fun index hindex => (hanswered index hindex).exists_author _
  have hvalidity : Settles (coherence answer replies) spurious
      (Lookup.packageValidity handle author name) (.ok (Lookup.Found.validity _)) :=
    hsearch.bind_ok (settles_pure _)
  refine hvalidity.keeps.mono ?_
  rintro validity rfl
  refine tells_validity ?_
  rw [List.findSome?_isSome_iff]
  refine exists_congr fun index => and_congr_right fun hindex => ?_
  obtain ⟨found, hfound⟩ := (hanswered index hindex).exists_author (Text.lower author)
  rw [Plain.Lists, hfound]
  cases found with
  | none => simp [Except.toOption, pickListing]
  | some listed => simp [Except.toOption, pickListing, Option.filter]

/-- The package that is found is the one that the chain offers. -/
theorem settles_offered {author : String}
    (hlower : Text.lower (Text.lower author) = Text.lower author) (name : String) :
    Settles (coherence answer replies) spurious (Lookup.package handle author name)
      (.ok ⟨Plain.offered? replies (Plain.chain replies handle) (Text.lower author)
        (Text.lower name), false⟩) := by
  refine settles_search hnotices (fun index => settles_package index author name) id
    fun index hindex => ?_
  obtain ⟨found, hfound, -⟩ := (hanswered index hindex).package_eq hlower (Text.lower name)
  exact ⟨found, hfound⟩

end

end Instant

end ManifestLint
