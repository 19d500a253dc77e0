import ManifestLint.Proofs.Registry.Searching

/-!
# The file that a configuration is read from

The configuration of an index stands in a file of its own at the root, `config.json`.  The root
may have other files, and its entries come in some order.  They are gone through one after the
other, and every file that is named like a JSON file takes the place of the one before: like a
register, the configuration holds what was written last.

So the configuration is read from the last JSON file of the root.  Nothing else is seen of the
files at the root, and nothing of their order: two roots with the same last JSON file and the same
subtrees are the same root.

* `Index.getLast?_jsonFilesIn`: which file that is, if there is a `config.json`.
* `Plain.reads_file_iff`: the configuration is read from a file, whatever the files hold.
* `Plain.alike_of_root`: what reading an index depends on.
* `Instant.config_file_iff`: lookups.
* `config_of_other_file`: a file behind `config.json` takes its place.
-/

namespace ManifestLint

/-! ## The root -/

namespace Index

/-- The name of the file with the configuration. -/
def configFile : String := "config.json"

/-- The entry is the file with the configuration. -/
def IsConfigFile (entry : Entries String Json) : Prop :=
  isTree entry = false ∧ valueOf entry "path" = .string configFile

/-- The id of an entry. -/
def shaOf (entry : Entries String Json) : Json := valueOf entry "sha"

/-- The id of the last JSON file among some entries, or another one if there is none. -/
def lastId (entries : List (Entries String Json)) (id : Json) : Json :=
  ((jsonFilesIn entries).getLast?.map (·.id)).getD id

variable {file : Entries String Json}

theorem IsConfigFile.jsonFile?_eq (h : IsConfigFile file) :
    jsonFile? file = some ⟨configFile, shaOf file⟩ := by
  obtain ⟨hfile, hpath⟩ := h
  have hsuffix : ".json".toList <:+ configFile.toList := ⟨"config".toList, rfl⟩
  rw [jsonFile?_of_path hpath, if_pos ⟨hfile, hsuffix⟩, shaOf]

/-- **The last file.**  It is the file with the configuration, unless a JSON file stands behind
that. -/
theorem getLast?_jsonFilesIn (h : IsConfigFile file) (before after : List (Entries String Json)) :
    ∃ last, (jsonFilesIn (before ++ file :: after)).getLast? = some last ∧
      last.id = lastId after (shaOf file) := by
  have hfiles : jsonFilesIn (before ++ file :: after) =
      jsonFilesIn before ++ ⟨configFile, shaOf file⟩ :: jsonFilesIn after := by
    simp [jsonFilesIn, h.jsonFile?_eq]
  refine ⟨(jsonFilesIn after).getLast?.getD ⟨configFile, shaOf file⟩, ?_, ?_⟩
  · rw [hfiles, List.getLast?_append, List.getLast?_cons, Option.some_or]
  · rw [lastId]
    cases (jsonFilesIn after).getLast? <;> rfl

end Index

/-! ## Plain readings -/

namespace Plain

variable (replies : Request → Reply) (own : Handle)

/-- The root of an index is a tree with some entries, whose paths are texts. -/
structure RootLists (entries : List (Entries String Json)) : Prop where
  listed : (replies (own.request .tree Read.rootId)).entries? = some entries
  paths : ∀ entry ∈ entries, Index.HasPath entry

/-- The configuration in the file with an id. -/
def configIn (id : Json) : Except ReadError Index.Config := do
  let document ← configDocument own (← payload replies own .blob id)
  let config ← (Index.Config.ofJson document).mapError .shape
  return config

/-- The chain of a client that has found a configuration, or none. -/
def chainWith (config : Option Index.Config) : List Handle :=
  match own, config with
  | .shared _, some config => extend [own] config.fallbacks
  | _, _ => [own]

variable {replies own} {others : Request → Reply} {entries twins : List (Entries String Json)}

theorem chain_eq_chainWith :
    chain replies own = chainWith own (config replies own).toOption.join := by
  cases own with
  | alone name address => rfl
  | shared address =>
      rw [chain]
      rcases config replies (.shared address) with error | (_ | found) <;> rfl

theorem RootLists.root_eq (h : RootLists replies own entries) :
    root replies own =
      .ok ⟨Index.subtreesIn entries, (Index.jsonFilesIn entries).getLast?⟩ :=
  root_of_entries h.listed (Index.Root.ofEntries_eq h.paths)

/-- The configuration is read from the last JSON file. -/
theorem RootLists.config_eq (h : RootLists replies own entries) {last : Index.Entry}
    (hlast : (Index.jsonFilesIn entries).getLast? = some last) :
    config replies own = (configIn replies own last.id).map some := by
  have hconfig : config replies own = (do
      let document ← configDocument own (← payload replies own .blob last.id)
      let config ← (Index.Config.ofJson document).mapError .shape
      return some config) := by
    rw [config, h.root_eq, hlast]
    rfl
  rw [hconfig, configIn]
  cases payload replies own .blob last.id with
  | error error => rfl
  | ok payload =>
      simp only [bind, Except.bind]
      cases configDocument own payload with
      | error error => rfl
      | ok document => cases (Index.Config.ofJson document).mapError ReadError.shape <;> rfl

/-- What others reply for a tree does not differ. -/
def SameTrees (replies others : Request → Reply) (own : Handle) : Prop :=
  ∀ id, others (own.request .tree id) = replies (own.request .tree id)

theorem RootLists.of_sameTrees (h : RootLists replies own entries)
    (hsame : SameTrees replies others own) : RootLists others own entries :=
  ⟨(hsame Read.rootId).symm ▸ h.listed, h.paths⟩

open Classical in
/-- Replies with the same trees, for which only one file can be read; it holds an empty object. -/
noncomputable def onlyFile (replies : Request → Reply) (id : Json) (request : Request) : Reply :=
  match request.kind with
  | .tree => replies request
  | .blob => if request.id = id then .ok (.found (.string "\x7b\x7d")) else .error (.broken "")

theorem configIn_onlyFile (id : Json) : configIn (onlyFile replies id) own id = .ok {} := by
  have hpayload : payload (onlyFile replies id) own .blob id = .ok (.string "\x7b\x7d") := by
    have hreply : onlyFile replies id (own.request .blob id) =
        .ok (.found (.string "\x7b\x7d")) := if_pos rfl
    simp only [payload, hreply]
    rfl
  rw [configIn, hpayload]
  rfl

theorem configIn_onlyFile_of_ne {id other : Json} (h : other ≠ id) :
    configIn (onlyFile replies id) own other = .error (.fault (.broken "")) := by
  have hpayload : payload (onlyFile replies id) own .blob other =
      .error (.fault (.broken "")) := by
    have hreply : onlyFile replies id (own.request .blob other) = .error (.broken "") := if_neg h
    simp only [payload, hreply]
  rw [configIn, hpayload]
  rfl

/-- **Reading from a file.**  The configuration is read from the file with an id, whatever the
files hold, if and only if this is the id of the last JSON file. -/
theorem reads_file_iff (h : RootLists replies own entries) {last : Index.Entry}
    (hlast : (Index.jsonFilesIn entries).getLast? = some last) (id : Json) :
    (∀ others, SameTrees replies others own →
      config others own = (configIn others own id).map some) ↔ last.id = id := by
  constructor
  · intro hreads
    by_contra hother
    have hsame : SameTrees replies (onlyFile replies last.id) own := fun _ => rfl
    have hread := hreads _ hsame
    rw [(h.of_sameTrees hsame).config_eq hlast, configIn_onlyFile,
      configIn_onlyFile_of_ne (Ne.symm hother)] at hread
    cases hread
  · intro hid others hsame
    rw [(h.of_sameTrees hsame).config_eq hlast, hid]

/-! ## Two roots -/

/-- Others reply the same but for the root of an index, which they list otherwise.  The last JSON
file is the same. -/
structure Relists (replies others : Request → Reply) (own : Handle)
    (entries twins : List (Entries String Json)) : Prop where
  elsewhere : ∀ request, request ≠ own.request .tree Read.rootId → others request = replies request
  root : RootLists replies own entries
  twin : RootLists others own twins
  last : (Index.jsonFilesIn twins).getLast? = (Index.jsonFilesIn entries).getLast?

namespace Relists

variable (h : Relists replies others own entries twins)

include h

theorem payload_eq (handle : Handle) (id : Json) :
    payload others handle .blob id = payload replies handle .blob id := by
  have hreply := h.elsewhere (handle.request .blob id) fun hrequest => by
    cases congrArg Request.kind hrequest
  rw [payload, hreply, payload]

theorem tree_eq {handle : Handle} {id : Json}
    (hother : handle.address = own.address → id ≠ Read.rootId) :
    tree others handle id = tree replies handle id := by
  have hreply := h.elsewhere (handle.request .tree id) fun hrequest => by
    simp only [Handle.request, Request.mk.injEq, true_and] at hrequest
    obtain ⟨howner, hrepository, hid⟩ := hrequest
    exact hother (Address.mk.injEq .. ▸ ⟨howner, hrepository⟩) hid
  rw [tree, payload, hreply, tree, payload]

/-- The configuration is the same. -/
theorem config_eq : config others own = config replies own := by
  cases hfile : (Index.jsonFilesIn entries).getLast? with
  | some last =>
      rw [h.twin.config_eq (h.last.trans hfile), h.root.config_eq hfile, configIn,
        h.payload_eq, configIn]
  | none =>
      rw [config, h.twin.root_eq, h.last, hfile, config, h.root.root_eq, hfile]
      rfl

/-- The clients of one index list the same. -/
theorem of_address_eq {handle : Handle} (haddress : handle.address = own.address) :
    RootLists replies handle entries ∧ RootLists others handle twins := by
  have hrequest : handle.request .tree Read.rootId = own.request .tree Read.rootId := by
    rw [Handle.request, haddress, Handle.request]
  exact ⟨⟨hrequest ▸ h.root.listed, h.root.paths⟩, ⟨hrequest ▸ h.twin.listed, h.twin.paths⟩⟩

variable (hsubtrees : Index.subtreesIn twins = Index.subtreesIn entries)

include hsubtrees

/-- Roots with the same subtrees are then the same. -/
theorem root_eq (handle : Handle) : Plain.root others handle = Plain.root replies handle := by
  by_cases haddress : handle.address = own.address
  · obtain ⟨hroot, htwin⟩ := h.of_address_eq haddress
    rw [htwin.root_eq, hroot.root_eq, hsubtrees, h.last]
  · rw [Plain.root, h.tree_eq fun hown => absurd hown haddress, Plain.root]

variable (hids : ∀ subtree ∈ Index.subtreesIn entries, subtree.id ≠ Read.rootId)

include hids

theorem author_eq (handle : Handle) (key : String) :
    author others handle key = author replies handle key := by
  rw [author, h.root_eq hsubtrees, author]
  cases hfound : Plain.root replies handle with
  | error error => rfl
  | ok found =>
      simp only [bind, Except.bind]
      cases hid : found.idOf? key with
      | none => rfl
      | some id =>
          -- The tree of an author is not the root, so it is the same.
          have hother : handle.address = own.address → id ≠ Read.rootId := by
            intro haddress
            have hroot := (h.of_address_eq haddress).1.root_eq
            obtain rfl := Except.ok.inj (hfound.symm.trans hroot)
            obtain ⟨subtree, hmem, -, rfl⟩ := Index.mem_of_idOf? hid
            exact hids subtree hmem
          dsimp only
          rw [h.tree_eq hother]

/-- **What is seen of a root.**  Indexes are read the same if the root has the same last JSON file
and the same subtrees. -/
theorem alike : Alike replies others where
  root := h.root_eq hsubtrees
  author := h.author_eq hsubtrees hids
  package handle author name := by
    rw [package, h.author_eq hsubtrees hids, package]
    simp only [h.payload_eq]
  config handle := by
    rw [config, h.root_eq hsubtrees, config]
    simp only [h.payload_eq]

end Relists

end Plain

/-! ## Lookups -/

namespace Instant

open Registry (coherence cooling)

/-- Each request has one reply, what the caches hold was read from these replies, and failures can
be reported. -/
structure Served (replies : Request → Reply) (world : World Registry)
    (instant : Instant Registry) : Prop where
  reported : world.Keeps cooling
  cooldown : cooling.state instant.state
  coherent : ∃ answer, world.Keeps (coherence answer replies) ∧
    instant.state.Coherent answer replies

/-- A lookup ends the same with the replies of others, whatever the caches hold of either. -/
def EndsAlike {α : Type} (replies others : Request → Reply) (lookup : Lookup α) : Prop :=
  ∀ world instant twin other, Served replies world instant → Served others twin other →
    other.ended twin lookup = instant.ended world lookup

variable {replies others : Request → Reply} {own : Handle} {α : Type} {lookup : Lookup α}

/-- In a steady world a new registry is served. -/
theorem served_new (answer : Request → Reply) (fetcher : Fetcher) (cooldown : Float)
    (token : Option String) :
    Served (fetcher.replies answer) (.steady answer)
      ⟨Registry.new fetcher (some cooldown) token, 0⟩ where
  reported := World.keeps_cooling_steady answer
  cooldown := rfl
  coherent := ⟨answer, World.keeps_coherence_steady answer _,
    Registry.coherent_new answer fetcher (some cooldown) token⟩

theorem Served.ended_eq {world : World Registry} {instant : Instant Registry}
    {expected : Except Fault α} (h : Served replies world instant)
    (hbrowses : Lookup.Browses (fun _ => True) lookup)
    (hsettles : ∀ answer, Settles (coherence answer replies) (· = .noCooldown) lookup expected) :
    instant.ended world lookup = expected := by
  obtain ⟨answer, hworld, hstate⟩ := h.coherent
  exact ended_eq_of_settles (hsettles answer) hbrowses hworld h.reported hstate h.cooldown

theorem Served.ended_config {world : World Registry} {instant : Instant Registry}
    (h : Served replies world instant) (own : Handle) :
    instant.ended world (Lookup.config own) = .ok (Plain.config replies own).toOption.join :=
  h.ended_eq (Lookup.browses_config own) fun _ =>
    (settles_attempt own (settles_config own)).bind_ok (settles_pure _)

theorem Served.ended_chain {world : World Registry} {instant : Instant Registry}
    (h : Served replies world instant) (own : Handle) :
    instant.ended world (Lookup.chain own) =
      .ok (Plain.chainWith own (Plain.config replies own).toOption.join) := by
  rw [← Plain.chain_eq_chainWith]
  exact h.ended_eq (Lookup.browses_chain own) fun _ => settles_chain_always own

/-- Where indexes are read alike lookups end alike. -/
theorem endsAlike_of_alike (halike : Plain.Alike replies others)
    (hbrowses : Lookup.Browses (fun _ => True) lookup) : EndsAlike replies others lookup := by
  intro world instant twin other hserved hother
  obtain ⟨answer, hworld, hstate⟩ := hserved.coherent
  obtain ⟨otherAnswer, htwin, hotherState⟩ := hother.coherent
  obtain ⟨expected, hsettles, hsettlesTwin⟩ :=
    hbrowses.determined_alike halike answer otherAnswer
  rw [ended_eq_of_settles hsettles hbrowses hworld hserved.reported hstate hserved.cooldown,
    ended_eq_of_settles hsettlesTwin hbrowses htwin hother.reported hotherState hother.cooldown]

/-- **The file of a configuration.**  Let the root of an index list a file `config.json`, between
any other entries.

The configuration is that of the last JSON file of the root, and the chain has the fall-backs
of that one.  So the configuration is read from `config.json`, whatever the files hold, if and
only if no JSON file with another id stands last behind it.

As long as the last JSON file stays the same, all other files of the root may be others and
may stand elsewhere: the chain stays the same, and if the subtrees do so too, every lookup
ends the same. -/
theorem config_file_iff {before after : List (Entries String Json)} {file : Entries String Json}
    (hroot : Plain.RootLists replies own (before ++ file :: after))
    (hfile : Index.IsConfigFile file) :
    let id := Index.shaOf file
    let read := Index.lastId after id
    (∀ world instant, Served replies world instant →
      instant.ended world (Lookup.config own) = .ok (Plain.configIn replies own read).toOption ∧
      instant.ended world (Lookup.chain own) =
        .ok (Plain.chainWith own (Plain.configIn replies own read).toOption)) ∧
    ((∀ others, Plain.SameTrees replies others own →
      Plain.config others own = (Plain.configIn others own id).map some) ↔ read = id) ∧
    ∀ others twins, Plain.Relists replies others own (before ++ file :: after) twins →
      EndsAlike replies others (Lookup.chain own) ∧
        (Index.subtreesIn twins = Index.subtreesIn (before ++ file :: after) →
          (∀ subtree ∈ Index.subtreesIn (before ++ file :: after), subtree.id ≠ Read.rootId) →
          ∀ query : Query, query.IsLookup → EndsAlike replies others (query.run own)) := by
  intro id read
  obtain ⟨last, hlast, hread⟩ := Index.getLast?_jsonFilesIn hfile before after
  refine ⟨?_, ?_, ?_⟩
  · intro world instant hserved
    have hconfig : (Plain.config replies own).toOption.join =
        (Plain.configIn replies own read).toOption := by
      rw [hroot.config_eq hlast, hread]
      cases Plain.configIn replies own read <;> rfl
    rw [hserved.ended_config, hserved.ended_chain, hconfig]
    exact ⟨rfl, rfl⟩
  · rw [Plain.reads_file_iff hroot hlast, hread]
  · intro others twins hrelists
    refine ⟨?_, ?_⟩
    · intro world instant twin other hserved hother
      rw [hserved.ended_chain, hother.ended_chain, hrelists.config_eq]
    · intro hsubtrees hids query hquery
      exact endsAlike_of_alike (hrelists.alike hsubtrees hids)
        (Query.browses hquery own fun _ _ _ => trivial)

end Instant

/-! ## Another file

The root of the first index has a configuration with a fall-back, and another JSON file with an
empty object.  The fall-back lists an author. -/

namespace LastFile

open PassedOver (client start)

/-- An entry of the root. -/
def entry (path kind id : String) : Entries String Json :=
  [("path", .string path), ("type", .string kind), ("sha", .string id)]

/-- The file with the configuration. -/
def configured : Entries String Json := entry "config.json" "blob" "c"

/-- The other JSON file. -/
def other : Entries String Json := entry "other.json" "blob" "p"

/-- A file that is no JSON file. -/
def readme : Entries String Json := entry "README.md" "blob" "m"

/-- An author. -/
def author : Entries String Json := entry "a" "tree" "ta"

/-- The replies of a host with some entries at the root of the first index. -/
def answer (entries : List (Entries String Json)) (request : Request) : Reply :=
  match request with
  | ⟨.tree, "o", "r", .string "main"⟩ => .ok (.found (.array (entries.map .object)))
  | ⟨.blob, "o", "r", .string "c"⟩ => .ok (.found (.string PassedOver.configuration))
  | ⟨.blob, "o", "r", .string "p"⟩ => .ok (.found (.string "\x7b\x7d"))
  | ⟨.tree, "o", "f", .string "main"⟩ =>
    .ok (.found (.array [PassedOver.entry "b" "tree" "tb"]))
  | _ => .ok Host.missing

theorem rootLists_answer {entries : List (Entries String Json)}
    (hpaths : ∀ entry ∈ entries, Index.HasPath entry) :
    Plain.RootLists (answer entries) client entries := by
  refine ⟨?_, hpaths⟩
  have htables : Json.tables (entries.map .object) = entries := by
    rw [Json.tables, List.filterMap_map]
    exact List.filterMap_some
  exact congrArg some htables

/-- Whatever the entries, the root is all that differs. -/
theorem answer_eq (entries others : List (Entries String Json)) (request : Request)
    (h : request ≠ client.request .tree Read.rootId) :
    answer others request = answer entries request := by
  unfold answer
  split
  · exact absurd rfl h
  · rfl
  · rfl
  · rfl
  · rfl

end LastFile

open LastFile PassedOver in
/-- A JSON file before `config.json` makes no difference, and another file none behind it. -/
theorem author_of_fallback :
    let first := answer [author, other, configured]
    let second := answer [configured, author, readme]
    start.ended (.steady first) (Lookup.config client) =
        .ok (some { fallbacks := ["https://github.com/o/f"] }) ∧
      start.ended (.steady second) (Query.run client (.authorValidity "b")) =
        start.ended (.steady first) (Query.run client (.authorValidity "b")) := by
  intro first second
  have hpath (path kind id : String) : Index.HasPath (LastFile.entry path kind id) :=
    ⟨path, rfl⟩
  have hroot : Plain.RootLists first client ([author, other] ++ configured :: []) :=
    rootLists_answer (by simp [author, other, configured, hpath])
  have htwin : Plain.RootLists second client [configured, author, readme] :=
    rootLists_answer (by simp [configured, author, readme, hpath])
  have hserved (entries : List (Entries String Json)) :
      Instant.Served (answer entries) (.steady (answer entries)) start :=
    Instant.served_new (answer entries) {} defaultCooldown none
  have hfile : Index.IsConfigFile configured := ⟨rfl, rfl⟩
  obtain ⟨hread, -, hrelists⟩ := Instant.config_file_iff hroot hfile
  obtain ⟨-, hlookups⟩ := hrelists _ _ ⟨answer_eq _ _, hroot, htwin, rfl⟩
  have hids : ∀ subtree ∈ Index.subtreesIn ([author, other] ++ configured :: []),
      subtree.id ≠ Read.rootId := by
    have hid : (Index.entryOf author).id = .string "ta" := rfl
    exact List.forall_mem_singleton.mpr (by simp [hid, Read.rootId])
  have hconfig : (Plain.configIn first client (.string "c")).toOption =
      some { fallbacks := ["https://github.com/o/f"] } := by decide +kernel
  have hended := (hread _ _ (hserved _)).1
  refine ⟨hended.trans (congrArg Except.ok hconfig), ?_⟩
  exact hlookups rfl hids (.authorValidity "b") trivial _ _ _ _ (hserved _) (hserved _)

open LastFile PassedOver in
/-- **Another file.**  Behind `config.json` it takes its place: there are no fall-backs, and the
author of the fall-back is said not to exist.  Before it, it does not. -/
theorem config_of_other_file :
    let hidden := answer [author, configured, other]
    (Plain.configIn hidden client (Index.shaOf configured)).toOption =
        some { fallbacks := ["https://github.com/o/f"] } ∧
      start.value (.steady hidden) (Lookup.config client) = some (some {}) ∧
      start.value (.steady hidden) (Lookup.chain client) = some [client] ∧
      start.value (.steady hidden) (Lookup.authorValidity client "b") = some .invalid ∧
      start.value (.steady (answer [author, other, configured]))
        (Lookup.authorValidity client "b") = some .valid := by
  decide +kernel

end ManifestLint
