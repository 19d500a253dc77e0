import ManifestLint.Proofs.Fetching.Lockstep
import ManifestLint.Proofs.Registry.Along
import ManifestLint.Proofs.Registry.Determined

/-!
# Configurations that make no difference

Each index declares fall-backs of its own, so that there is a graph of indexes, with
cycles as the case may be.  A lookup follows it for one step: it looks at the
configuration of its client's index, and at no other one.  What the caches hold of
other configurations may then be anything.  Two registries that differ only there
answer every lookup of the client alike, with the same requests on the way.

* `Registry.SameBut`: registries that differ in the configurations of other clients.
* `Fallible.inStep_root` and so on: reading.
* `Lookup.Along.inStep`: walking along a chain.
* `Query.inStep`: all lookups.
-/

namespace ManifestLint

/-- A client, but for what its cache holds of a configuration: the configuration itself, and the
entry of the root that leads to it. -/
def Client.withoutConfig (client : Client) : Client :=
  { client with cache := { client.cache with
      root := client.cache.root.map ({ · with config := none })
      config := none } }

namespace Registry

/-- The registries differ at most in what they hold of the configurations of other clients than
a given one. -/
structure SameBut (own : Handle) (registry other : Registry) : Prop where
  fetcher : other.fetcher = registry.fetcher
  notifier : other.notifier = registry.notifier
  token : other.token = registry.token
  opened : ∀ handle, other.clients.has handle = registry.clients.has handle
  own : other.client own = registry.client own
  others : ∀ handle,
    (other.client handle).withoutConfig = (registry.client handle).withoutConfig

variable {own handle : Handle} {registry other : Registry}

theorem SameBut.refl (own : Handle) (registry : Registry) : registry.SameBut own registry :=
  ⟨rfl, rfl, rfl, fun _ => rfl, rfl, fun _ => rfl⟩

/-- A client may be put into both, the same one if it is the given client. -/
theorem SameBut.put (h : registry.SameBut own other) {client twin : Client}
    (hclient : twin.withoutConfig = client.withoutConfig) (hown : handle = own → twin = client) :
    SameBut own { registry with clients := registry.clients.put handle client }
      { other with clients := other.clients.put handle twin } where
  fetcher := h.fetcher
  notifier := h.notifier
  token := h.token
  opened third := by
    have hopened := h.opened third
    simp only [Entries.has, Entries.get?_put] at hopened ⊢
    split
    · rfl
    · exact hopened
  own := by
    have hsame := h.own
    simp only [Registry.client, Entries.get?_put] at hsame ⊢
    split
    · next heq => exact hown heq
    · exact hsame
  others third := by
    have hsame := h.others third
    simp only [Registry.client, Entries.get?_put] at hsame ⊢
    split
    · exact hclient
    · exact hsame

/-- A change that makes nothing of the configuration may be made in both. -/
theorem SameBut.update (h : registry.SameBut own other) {change : Client → Client}
    (hchange : ∀ client twin : Client, twin.withoutConfig = client.withoutConfig →
      (change twin).withoutConfig = (change client).withoutConfig) :
    SameBut own (registry.update handle change) (other.update handle change) := by
  refine h.put (hchange _ _ (h.others handle)) ?_
  rintro rfl
  exact congrArg change h.own

theorem SameBut.find? (h : registry.SameBut own other) (url : String) :
    SameBut own (registry.find? url).2 (other.find? url).2 := by
  unfold Registry.find?
  cases Address.parse url with
  | error error => exact h
  | ok address =>
      simp only [Registry.opened, h.opened]
      split
      · exact h
      · exact h.put (congrArg (fun token => Client.withoutConfig { token }) h.token) fun _ =>
          congrArg (fun token => ({ token } : Client)) h.token

/-- A new item of any kind may be put into the cache in both. -/
theorem withoutConfig_put (item : Item) (client twin : Client)
    (h : twin.withoutConfig = client.withoutConfig) :
    Client.withoutConfig { twin with cache := item.put twin.cache } =
      Client.withoutConfig { client with cache := item.put client.cache } := by
  simp only [Client.withoutConfig, Client.mk.injEq, Cache.mk.injEq] at h
  obtain ⟨⟨hroot, -, hauthors, hpackages⟩, hfailure, htoken⟩ := h
  cases item <;> simp [Client.withoutConfig, Item.put, hroot, hauthors, hpackages, hfailure, htoken]

end Registry

namespace Fallible

open Registry (SameBut)

variable {own : Handle} (handle : Handle)

/-! ## Reading -/

theorem inStep_send (request : Request) :
    (Registry.ask request).InStep (SameBut own) (· = ·) (Registry.ask request) := by
  unfold Registry.ask
  refine Action.inStep_get.bind fun registry other hsame => ?_
  rw [hsame.fetcher]
  generalize registry.fetcher.send request = sent
  obtain ⟨fault, fetcher⟩ := sent
  refine (Action.inStep_modify fun _ _ h => { h with fetcher := rfl }).bind fun _ _ _ => ?_
  cases fault with
  | none => exact Action.inStep_ask request
  | some fault => exact Action.inStep_pure rfl

theorem inStep_payload (kind : RequestKind) (id : Json) :
    InStep (SameBut own) (· = ·) (Read.payload handle kind id) (Read.payload handle kind id) := by
  refine (inStep_lift (inStep_send (handle.request kind id))).bind_eq fun reply => ?_
  cases reply with
  | error fault => exact inStep_throw _
  | ok result =>
      dsimp only
      split
      · exact inStep_pure rfl
      · exact inStep_throw _

/-- What only computes is in step with itself. -/
theorem inStep_ofShape {α : Type} (value : Except Json.ShapeError α) :
    InStep (SameBut own) (· = ·) (Read.ofShape value) (Read.ofShape value) := by
  cases value with
  | ok value => exact inStep_pure rfl
  | error error => exact inStep_throw _

theorem inStep_tree (id : Json) :
    InStep (SameBut own) (· = ·) (Read.tree handle id) (Read.tree handle id) := by
  refine (inStep_payload handle .tree id).bind_eq fun payload => ?_
  refine (inStep_ofShape _).bind_eq fun elements => ?_
  exact inStep_pure rfl

/-- What was read is kept in both. -/
theorem inStep_store (item : Item) {α : Type} {same : α → α → Prop} {value : α}
    (hsame : same value value) :
    InStep (SameBut own) same
      (do modify (·.updateCache handle item.put); return value : Read α)
      (do modify (·.updateCache handle item.put); return value) :=
  (inStep_modify fun _ _ h => h.update (Registry.withoutConfig_put item)).bind_eq
    fun _ => inStep_pure hsame

/-- The same root, but for the entry of the configuration unless it is that of the given client. -/
def SameRoot (own handle : Handle) (root other : Index.Root) : Prop :=
  other.authors = root.authors ∧ (handle = own → other = root)

theorem inStep_root :
    InStep (SameBut own) (SameRoot own handle) (Read.root handle) (Read.root handle) := by
  refine inStep_get.bind fun registry other hsame => ?_
  have hroots := congrArg (·.cache.root) (hsame.others handle)
  have hown (heq : handle = own) :
      (other.client handle).cache.root = (registry.client handle).cache.root := by
    rw [heq, hsame.own]
  dsimp only [Client.withoutConfig] at hroots
  cases hroot : (registry.client handle).cache.root with
  | some root =>
      rw [hroot] at hroots hown
      obtain ⟨twin, htwin, hauthors⟩ := Option.map_eq_some_iff.mp hroots
      rw [htwin] at hown ⊢
      have hsameAuthors : twin.authors = root.authors := congrArg (·.authors) hauthors
      exact inStep_pure ⟨hsameAuthors, fun heq => Option.some.inj (hown heq)⟩
  | none =>
      rw [hroot] at hroots
      rw [Option.map_eq_none_iff.mp hroots]
      refine ((inStep_tree handle _).rethrow _).bind_eq fun entries => ?_
      refine (inStep_ofShape _).bind_eq fun root => ?_
      exact inStep_store handle (.root root) ⟨rfl, fun _ => rfl⟩

theorem inStep_author (name : String) :
    InStep (SameBut own) (· = ·) (Read.author handle name) (Read.author handle name) := by
  refine inStep_get.bind fun registry other hsame => ?_
  have hauthors : (other.client handle).cache.authors = (registry.client handle).cache.authors :=
    congrArg (·.cache.authors) (hsame.others handle)
  rw [hauthors]
  cases (registry.client handle).cache.authors.get? (Text.lower name) with
  | some author => exact inStep_pure rfl
  | none =>
      refine (inStep_root handle).bind fun root twin hroot => ?_
      have hid : twin.idOf? (Text.lower name) = root.idOf? (Text.lower name) := by
        rw [Index.Root.idOf?, hroot.1, Index.Root.idOf?]
      rw [hid]
      cases root.idOf? (Text.lower name) with
      | none => exact inStep_pure rfl
      | some id =>
          refine (inStep_tree handle id).bind_eq fun entries => ?_
          refine (inStep_ofShape _).bind_eq fun author => ?_
          exact inStep_store handle (.author (Text.lower name) author) rfl

theorem inStep_historyText (payload : Json) :
    InStep (SameBut own) (· = ·) (Read.historyText payload) (Read.historyText payload) := by
  cases payload with
  | string text => exact inStep_pure rfl
  | _ => exact inStep_throw _

theorem inStep_package (author name : String) :
    InStep (SameBut own) (· = ·) (Read.package handle author name)
      (Read.package handle author name) := by
  refine inStep_get.bind fun registry other hsame => ?_
  have hpackages :
      (other.client handle).cache.packages = (registry.client handle).cache.packages :=
    congrArg (·.cache.packages) (hsame.others handle)
  rw [hpackages]
  cases (registry.client handle).cache.packages.get? (Text.lower author, Text.lower name) with
  | some package => exact inStep_pure rfl
  | none =>
      refine (inStep_author handle _).bind_eq fun found => ?_
      cases found.bind (·.idOf? (Text.lower name)) with
      | none => exact inStep_pure rfl
      | some id =>
          refine (inStep_payload handle .blob id).bind_eq fun payload => ?_
          refine (inStep_historyText payload).bind_eq fun text => ?_
          exact inStep_store handle (.package (Text.lower author, Text.lower name) _) rfl

theorem inStep_configDocument (payload : Json) :
    InStep (SameBut own) (· = ·) (Read.configDocument handle payload)
      (Read.configDocument handle payload) := by
  unfold Read.configDocument
  split
  · split
    · exact inStep_pure rfl
    · exact inStep_throw _
    · exact inStep_throw _
  · exact inStep_throw _

/-- The configuration of the given client itself is the same in both. -/
theorem inStep_config :
    InStep (SameBut own) (· = ·) (Read.config own) (Read.config own) := by
  refine inStep_get.bind fun registry other hsame => ?_
  rw [hsame.own]
  cases (registry.client own).cache.config with
  | some config => exact inStep_pure rfl
  | none =>
      refine (inStep_root own).bind fun root twin hroot => ?_
      obtain rfl := hroot.2 rfl
      cases twin.config with
      | none => exact inStep_pure rfl
      | some entry =>
          refine (inStep_payload own .blob entry.id).bind_eq fun payload => ?_
          refine (inStep_configDocument own payload).bind_eq fun document => ?_
          refine (inStep_ofShape _).bind_eq fun config => ?_
          exact inStep_store own (.config config) rfl

/-! ## Looking up -/

theorem inStep_notify (message : String) :
    InStep (SameBut own) (· = ·) (Lookup.notify message) (Lookup.notify message) := by
  intro registry other hsame
  rw [run_notify, run_notify, hsame.notifier]
  cases registry.notifier.notify message with
  | none => exact ⟨hsame, rfl⟩
  | some notified => exact ⟨{ hsame with notifier := rfl }, rfl⟩

theorem inStep_attempt {α : Type} {same : α → α → Prop} {read : Read α}
    (h : InStep (SameBut own) same read read) :
    InStep (SameBut own) (Option.Rel same) (Lookup.attempt handle read)
      (Lookup.attempt handle read) := by
  refine (inStep_lift h).bind fun ended other hended => ?_
  cases ended with
  | ok value =>
      cases other with
      | ok result => exact inStep_pure (.some hended)
      | error error => exact hended.elim
  | error error =>
      cases other with
      | ok result => exact hended.elim
      | error otherError =>
          obtain rfl : error = otherError := hended
          refine (inStep_modify fun _ _ hsame => hsame.update ?_).bind_eq fun _ =>
            (inStep_notify _).bind_eq fun _ => inStep_pure Option.Rel.none
          intro client twin hclient
          simp only [Client.withoutConfig, Client.mk.injEq] at hclient ⊢
          exact ⟨hclient.1, trivial, hclient.2.2⟩

theorem eq_of_rel {α : Type} {found other : Option α} (h : Option.Rel (· = ·) found other) :
    found = other := by
  cases h with
  | some hvalue => exact congrArg some hvalue
  | none => rfl

/-- An attempt at a level that is the same in both. -/
theorem inStep_attempt_eq {α : Type} {read : Read α}
    (h : InStep (SameBut own) (· = ·) read read) :
    InStep (SameBut own) (· = ·) (Lookup.attempt handle read) (Lookup.attempt handle read) :=
  (inStep_attempt handle h).mono fun _ _ => eq_of_rel

theorem inStep_extend (chain : List Handle) (urls : List String) :
    InStep (SameBut own) (· = ·) (Lookup.extend chain urls) (Lookup.extend chain urls) := by
  induction urls generalizing chain with
  | nil => exact inStep_pure rfl
  | cons url rest ih =>
      have hfind : InStep (SameBut own) (· = ·) (Lookup.find? url) (Lookup.find? url) :=
        inStep_modifyGet fun registry other hsame =>
          ⟨(registry.find?_fst url).trans (other.find?_fst url).symm, hsame.find? url⟩
      refine hfind.bind_eq fun found => ?_
      cases found with
      | none => exact ih chain
      | some handle =>
          dsimp only
          split
          · exact ih chain
          · exact ih (chain ++ [handle])

/-- A client finds the same chain in both. -/
theorem inStep_chain :
    InStep (SameBut own) (· = ·) (Lookup.chain own) (Lookup.chain own) := by
  cases own with
  | alone name address => exact inStep_pure rfl
  | shared address =>
      refine (inStep_attempt_eq _ inStep_config).bind_eq fun found => ?_
      rcases found with _ | (_ | config)
      · exact inStep_pure rfl
      · exact inStep_pure rfl
      · exact inStep_extend _ _

theorem inStep_ownConfig :
    InStep (SameBut own) (· = ·) (Lookup.config own) (Lookup.config own) :=
  (inStep_attempt_eq own inStep_config).bind_eq fun _ => inStep_pure rfl

theorem inStep_reachable :
    InStep (SameBut own) (· = ·) (Lookup.reachable own) (Lookup.reachable own) := by
  refine (inStep_attempt own (inStep_root own)).bind fun found other hfound => ?_
  cases hfound with
  | some hroot => exact inStep_pure rfl
  | none =>
      refine inStep_get.bind fun registry twin hsame => ?_
      rw [hsame.own]
      exact inStep_pure rfl

end Fallible

open Fallible in
/-- **The walk.**  A walk goes the same way in both, and finds the same. -/
theorem Lookup.Along.inStep {own : Handle} {α : Type} {stops : Bool} {chain : List Handle}
    {lookup : Lookup α} (h : Lookup.Along stops chain lookup) :
    InStep (Registry.SameBut own) (· = ·) lookup lookup := by
  induction h with
  | pure value => exact inStep_pure rfl
  | ofVersions value =>
      cases value with
      | ok value => exact inStep_pure rfl
      | error error => exact inStep_throw _
  | stop chain hdone ih => exact ih
  | root stops handle hunread hread ih ihread =>
      refine (inStep_attempt handle (inStep_root handle)).bind fun found other hfound => ?_
      cases hfound with
      | @some root twin hroot =>
          rw [Option.map_some, Option.map_some, hroot.1]
          exact ihread root.authors
      | none => exact ih
  | author stops handle name hunread hunlisted hread ih ihunlisted ihread =>
      refine (inStep_attempt_eq handle (inStep_author handle name)).bind_eq ?_
      rintro (_ | _ | author)
      · exact ih
      · exact ihunlisted
      · exact ihread author
  | package stops handle author name hunread hunlisted hread ih ihunlisted ihread =>
      refine (inStep_attempt_eq handle (inStep_package handle author name)).bind_eq ?_
      rintro (_ | _ | package)
      · exact ih
      · exact ihunlisted
      · exact ihread package
  | bind hfirst hnext ih ihnext =>
      refine ih.bind_eq fun value => ?_
      exact ihnext value

open Fallible in
/-- **Indifference.**  It makes no difference to a query what the registry holds of the
configurations of other clients. -/
theorem Query.inStep {own : Handle} {query : Query} (hquery : query.IsLookup) :
    InStep (Registry.SameBut own) (· = ·) (query.run own) (query.run own) := by
  by_cases hwalk : query.IsWalk
  · obtain ⟨walk, halong, hrun⟩ := Query.walks hwalk own
    rw [hrun]
    refine inStep_chain.bind_eq fun chain => ?_
    exact (halong chain).inStep
  · cases query with
    | config => exact inStep_ownConfig.bind_eq fun _ => inStep_pure rfl
    | reachable => exact inStep_reachable.bind_eq fun _ => inStep_pure rfl
    | _ => exact absurd hquery hwalk

end ManifestLint
