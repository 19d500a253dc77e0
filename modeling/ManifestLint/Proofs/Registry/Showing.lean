import ManifestLint.Proofs.Registry.Readiness

/-!
# What an index shows

A client looks into its cache first and asks the host only for what is not
there.  What an index **shows** at an instant is what is found in that way: in
the cache if it is there, else in the answer to the request, and nothing if
there is no usable answer.

* `subtreesShown`: the authors' subtrees at the root of an index.
* `packagesShown`: the packages of an author, none of an author who is not listed.

Reading finds what is shown: `value_root`, `value_author`, `value_package`,
`value_config`.
-/

namespace ManifestLint

/-- The text that a payload is. -/
def Json.text? : Json → Option String
  | .string text => some text
  | _ => none

/-- The history in a reply, if it is a text. -/
def Reply.history? (reply : Reply) : Option (List Record) :=
  (reply.payload?.bind Json.text?).map fun text => Record.history text.toList

/-- The JSON object of which a payload is the text. -/
def Json.document? : Json → Option Json
  | .string text =>
    match Json.decode text with
    | .ok (.object members) => some (.object members)
    | _ => none
  | _ => none

/-- The configuration in a reply, if it is the text of a JSON object. -/
def Reply.config? (reply : Reply) : Option Index.Config :=
  reply.payload?.bind fun payload =>
    payload.document?.bind fun document => (Index.Config.ofJson document).toOption

namespace Instant

variable (world : World Registry) (instant : Instant Registry)

/-- What a request is answered with at an instant. -/
def reply (request : Request) : Reply :=
  match (instant.state.fetcher.send request).1 with
  | some fault => .error fault
  | none => world.reply instant.waits request

/-- The root of an index. -/
def rootShown (handle : Handle) : Option Index.Root :=
  match (instant.state.client handle).cache.root with
  | some root => some root
  | none =>
    (instant.reply world (handle.request .tree Read.rootId)).entries?.bind fun entries =>
      (Index.Root.ofEntries entries).toOption

/-- The subtrees at the root of an index. -/
def subtreesShown (handle : Handle) : Option (List Index.Entry) :=
  match (instant.state.client handle).cache.root with
  | some root => some root.authors
  | none =>
    (instant.reply world (handle.request .tree Read.rootId)).entries?.map Index.subtreesIn

/-- The packages of an author. -/
def packagesShown (handle : Handle) (author : String) : Option (List Index.Entry) :=
  match (instant.state.client handle).cache.authors.get? (Text.lower author) with
  | some listed => some listed.packages
  | none =>
    (instant.subtreesShown world handle).bind fun subtrees =>
      match Index.idOf? subtrees (Text.lower author) with
      | none => some []
      | some id =>
        let later := instant.after world (Read.root handle)
        (later.reply world (handle.request .tree id)).entries?.map Index.packagesIn

/-- A package, if its author lists it. -/
def packageShown (handle : Handle) (author name : String) : Option (Option Index.Package) :=
  let loweredAuthor := Text.lower author
  let loweredName := Text.lower name
  match (instant.state.client handle).cache.packages.get? (loweredAuthor, loweredName) with
  | some package => some (some package)
  | none =>
    (instant.packagesShown world handle loweredAuthor).bind fun packages =>
      match Index.idOf? packages loweredName with
      | none => some none
      | some id =>
        let later := instant.after world (Read.author handle loweredAuthor)
        (later.reply world (handle.request .blob id)).history?.map fun records =>
          some ⟨loweredAuthor, loweredName, records⟩

/-- The configuration of an index, if its root lists one. -/
def configShown (handle : Handle) : Option (Option Index.Config) :=
  match (instant.state.client handle).cache.config with
  | some config => some (some config)
  | none =>
    (instant.rootShown world handle).bind fun root =>
      match root.config with
      | none => some none
      | some entry =>
        let later := instant.after world (Read.root handle)
        (later.reply world (handle.request .blob entry.id)).config?.map some

variable {world instant}

/-- Asking gets the reply of the instant. -/
theorem play_ask (request : Request) :
    ((Registry.ask request).play world instant).1 = instant.reply world request := by
  rw [Registry.ask, Action.play_bind, Action.play_bind]
  simp only [Action.play_get, Action.play_modify, reply]
  cases (instant.state.fetcher.send request).1 <;> rfl

/-! ## Single requests -/

section

variable (handle : Handle) (id : Json)

theorem value_payload (kind : RequestKind) :
    instant.value world (Read.payload handle kind id) =
      (instant.reply world (handle.request kind id)).payload? := by
  rw [Read.payload, value_bind_some _ _ (value_lift ..), play_ask, Handle.request]
  cases instant.reply world ⟨kind, handle.address.owner, handle.address.repository, id⟩ with
  | error fault => rfl
  | ok result =>
      simp only [Reply.payload?]
      split <;> rfl

theorem value_ofShape {α : Type} (value : Except Json.ShapeError α) :
    instant.value world (Read.ofShape value) = value.toOption := by
  cases value <;> rfl

theorem value_tree :
    instant.value world (Read.tree handle id) =
      (instant.reply world (handle.request .tree id)).entries? := by
  rw [Read.tree, value_bind, value_payload, Reply.entries?]
  congr 1
  funext payload
  rw [value_bind, value_ofShape]
  cases payload.elements <;> rfl

theorem wellFormed_reply (hworld : world.Orderly) {entries : List (Entries String Json)}
    (hentries : (instant.reply world (handle.request .tree id)).entries? = some entries) :
    ∀ entry ∈ entries, Index.WellFormed entry := by
  rw [reply] at hentries
  split at hentries
  · cases hentries
  · exact hworld.entries _ _ _ rfl hentries

end

/-! ## The root -/

variable (handle : Handle)

/-- Reading the root finds what is shown. -/
theorem value_root :
    instant.value world (Read.root handle) = instant.rootShown world handle := by
  rw [rootShown, Read.root, value_bind_some _ _ (value_get ..), after_get]
  cases (instant.state.client handle).cache.root with
  | some root => rfl
  | none =>
      simp only [value_bind, value_rethrow, value_tree, value_ofShape]
      cases (instant.reply world (handle.request .tree Read.rootId)).entries? with
      | none => rfl
      | some entries =>
          simp only [Option.bind_some]
          cases Index.Root.ofEntries entries <;> rfl

/-- The root that is shown lists the subtrees that are shown. -/
theorem rootShown_authors (hworld : world.Orderly) :
    (instant.rootShown world handle).map (·.authors) = instant.subtreesShown world handle := by
  rw [rootShown, subtreesShown]
  cases (instant.state.client handle).cache.root with
  | some root => rfl
  | none =>
      cases hentries :
          (instant.reply world (handle.request .tree Read.rootId)).entries? with
      | none => rfl
      | some entries =>
          obtain ⟨root, hroot, hauthors⟩ :=
            Index.Root.ofEntries_wellFormed (wellFormed_reply handle _ hworld hentries)
          simp [hroot, hauthors, Except.toOption]

/-- All that a root shows has an id. -/
theorem hasIds_rootShown (hworld : world.Orderly) (hready : instant.state.Ready)
    {root : Index.Root} (hroot : instant.rootShown world handle = some root) :
    ∀ entry ∈ root.authors, Index.HasId entry := by
  rw [← value_root] at hroot
  exact (keeps_root handle).of_value hworld.keeps hready hroot

/-! ## An author -/

/-- Reading an author finds the packages that are shown, and none if the author
is not listed. -/
theorem value_author (hworld : world.Orderly) (author : String) :
    (instant.value world (Read.author handle author)).map (fun listed =>
        (listed.map (·.packages)).getD []) =
      instant.packagesShown world handle author := by
  rw [packagesShown, Read.author, value_bind_some _ _ (value_get ..), after_get]
  cases (instant.state.client handle).cache.authors.get? (Text.lower author) with
  | some listed => rfl
  | none =>
      simp only [value_bind, ← rootShown_authors handle hworld, value_root]
      cases instant.rootShown world handle with
      | none => rfl
      | some root =>
          simp only [Option.bind_some, Option.map_some, Index.Root.idOf?]
          cases Index.idOf? root.authors (Text.lower author) with
          | none => rfl
          | some id =>
              have htree : (instant.after world (Read.root handle)).value world
                  (Read.tree handle id) = _ := value_tree handle id
              simp only [value_bind, htree]
              cases hentries : ((instant.after world (Read.root handle)).reply world
                  (handle.request .tree id)).entries? with
              | none => rfl
              | some entries =>
                  have hlisted := Index.Author.ofEntries_wellFormed (Text.lower author) id
                    (wellFormed_reply handle id hworld hentries)
                  simp only [Option.bind_some, value_ofShape, hlisted]
                  rfl

/-! ## A package -/

/-- An author who is not listed has no packages. -/
theorem idOf?_listed (found : Option Index.Author) (name : String) :
    found.bind (·.idOf? name) = Index.idOf? ((found.map (·.packages)).getD []) name := by
  cases found <;> rfl

theorem value_historyText (payload : Json) :
    instant.value world (Read.historyText payload) = payload.text? := by
  cases payload <;> rfl

/-- Reading a package finds what is shown. -/
theorem value_package (hworld : world.Orderly) (author name : String) :
    instant.value world (Read.package handle author name) =
      instant.packageShown world handle author name := by
  rw [packageShown, Read.package, value_bind_some _ _ (value_get ..), after_get]
  simp only [← value_author handle hworld]
  cases (instant.state.client handle).cache.packages.get?
      (Text.lower author, Text.lower name) with
  | some package => rfl
  | none =>
      simp only [value_bind]
      cases instant.value world (Read.author handle (Text.lower author)) with
      | none => rfl
      | some found =>
          simp only [Option.bind_some, Option.map_some, idOf?_listed]
          cases Index.idOf? ((found.map (·.packages)).getD []) (Text.lower name) with
          | none => rfl
          | some id =>
              simp only [value_bind, value_payload, value_historyText, value_modify, value_pure,
                Reply.history?, Option.map_eq_bind, Option.bind_assoc, Option.bind_some]
              rfl

/-! ## The configuration -/

theorem value_configDocument (payload : Json) :
    instant.value world (Read.configDocument handle payload) = payload.document? := by
  cases payload with
  | string text =>
      simp only [Read.configDocument, Json.document?]
      rcases Json.decode text with error | document
      · rfl
      · cases document <;> rfl
  | _ => rfl

/-- Reading the configuration finds what is shown. -/
theorem value_config :
    instant.value world (Read.config handle) = instant.configShown world handle := by
  rw [configShown, Read.config, value_bind_some _ _ (value_get ..), after_get]
  cases (instant.state.client handle).cache.config with
  | some config => rfl
  | none =>
      simp only [value_bind, value_root]
      congr 1
      funext root
      cases root.config with
      | none => rfl
      | some entry =>
          simp only [value_bind, value_payload, value_configDocument, value_ofShape,
            value_modify, value_pure, Reply.config?, Option.map_eq_bind, Option.bind_assoc,
            Option.bind_some]
          rfl

end Instant

end ManifestLint
