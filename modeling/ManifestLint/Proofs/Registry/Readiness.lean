import ManifestLint.Proofs.Fetching.Keeping
import ManifestLint.Proofs.Index.Trees
import ManifestLint.Registry.Lookup

/-!
# Registries that lookups can work on

Lookups need two things of the registry that they find: the notices have a
cooldown, and what a cached root lists has an id.  They leave it so themselves, at
every wait, if hosts give well-formed trees: being ready is what all lookups on a
registry agree on (`Registry.readiness`).

* `keeps_root`, `keeps_author`, `keeps_package`, `keeps_config`: reading an index.
* `keeps_attempt`, `keeps_chain`, `keeps_search`: looking things up along a chain,
  which never ends in an error.
* `keeps_authorValidity`, `keeps_packageValidity`, `keeps_versionValidity`: the
  questions whether something exists.
-/

namespace ManifestLint

/-- A registry that lookups can work on: the notices have a cooldown, and what
the roots list has ids. -/
structure Registry.Ready (registry : Registry) : Prop where
  cooldown : registry.notifier.cooldown.isSome = true
  hasIds : ∀ handle root, (registry.client handle).cache.root = some root →
    ∀ entry ∈ root.authors, Index.HasId entry

/-- The request for a part of a client's index. -/
def Handle.request (handle : Handle) (kind : RequestKind) (id : Json) : Request :=
  ⟨kind, handle.address.owner, handle.address.repository, id⟩

/-- The payload of a reply, if it counts. -/
def Reply.payload? : Reply → Option Json
  | .ok result => if result.ok then some result.payload else none
  | .error _ => none

/-- The tables among the elements of a payload. -/
def Json.tables (elements : List Json) : List (Entries String Json) :=
  elements.filterMap fun element =>
    match element with
    | .object members => some members
    | _ => none

/-- The entries of a tree, if a reply is one. -/
def Reply.entries? (reply : Reply) : Option (List (Entries String Json)) :=
  reply.payload?.bind fun payload => payload.elements.toOption.map Json.tables

/-- A world in which trees have well-formed entries, and others leave the
registry such that lookups can go on. -/
structure World.Orderly (world : World Registry) : Prop where
  entries : ∀ waits request entries, request.kind = .tree →
    (world.reply waits request).entries? = some entries →
      ∀ entry ∈ entries, Index.WellFormed entry
  others : ∀ waits registry, registry.Ready → (world.others waits registry).Ready

theorem World.orderly_steady {answer : Request → Reply}
    (h : ∀ request entries, request.kind = .tree → (answer request).entries? = some entries →
      ∀ entry ∈ entries, Index.WellFormed entry) :
    (World.steady answer : World Registry).Orderly :=
  ⟨fun _ => h, fun _ _ hready => hready⟩

namespace Registry

/-- A registry with a cooldown is ready when it is new. -/
theorem ready_new (fetcher : Fetcher) (cooldown : Float) (token : Option String) :
    (Registry.new fetcher (some cooldown) token).Ready :=
  ⟨rfl, fun _ _ hroot => by cases hroot⟩

variable (registry : Registry) (handle : Handle)

theorem client_update (change : Client → Client) (other : Handle) :
    (registry.update handle change).client other =
      if handle = other then change (registry.client handle) else registry.client other := by
  simp only [client, update, Entries.get?_put]
  split <;> rfl

variable {registry}

/-- A client may be changed if its root, as far as it is new, lists ids. -/
theorem Ready.update (h : registry.Ready) (change : Client → Client)
    (hroot : ∀ root, (change (registry.client handle)).cache.root = some root →
      (registry.client handle).cache.root = some root ∨
        ∀ entry ∈ root.authors, Index.HasId entry) :
    (registry.update handle change).Ready := by
  refine ⟨h.cooldown, fun other root hother => ?_⟩
  rw [client_update] at hother
  split at hother
  · rcases hroot root hother with hold | hnew
    · exact h.hasIds handle root hold
    · exact hnew
  · exact h.hasIds other root hother

theorem Ready.updateCache (h : registry.Ready) (change : Cache → Cache)
    (hroot : ∀ cache, (change cache).root = cache.root) :
    (registry.updateCache handle change).Ready := by
  refine h.update handle _ fun root hother => .inl ?_
  rw [← hroot]
  exact hother

theorem Ready.updateRoot (h : registry.Ready) {root : Index.Root}
    (hids : ∀ entry ∈ root.authors, Index.HasId entry) :
    (registry.updateCache handle fun cache => { cache with root := some root }).Ready := by
  refine h.update handle _ fun other hother => .inr ?_
  obtain rfl : root = other := Option.some.inj hother
  exact hids

/-- A client that is opened has an empty cache. -/
theorem Ready.opened (h : registry.Ready) (address : Address) :
    (registry.opened address).Ready := by
  rw [Registry.opened]
  split
  · exact h
  · refine ⟨h.cooldown, fun other root hother => ?_⟩
    simp only [client, Entries.get?_put] at hother
    split at hother
    · cases hother
    · exact h.hasIds other root hother

end Registry

/-- What lookups leave to each other: a registry that is ready.  They count on
trees with well-formed entries. -/
def Registry.readiness : Agreement Registry where
  state := Registry.Ready
  reply request reply := request.kind = .tree → ∀ entries, reply.entries? = some entries →
    ∀ entry ∈ entries, Index.WellFormed entry

theorem World.Orderly.keeps {world : World Registry} (h : world.Orderly) :
    world.Keeps Registry.readiness where
  reply waits request hkind entries := h.entries waits request entries hkind
  others := h.others

namespace Notifier

variable {τ : Type} [Sub τ] [LE τ] [DecidableLE τ] [LT τ] [DecidableLT τ]

/-- With a cooldown every message gets an answer, and the cooldown stays. -/
theorem notify_isSome (notifier : Notifier τ) (message : String)
    (hcooldown : notifier.cooldown.isSome = true) :
    ∃ next delivered, notifier.notify message = some (next, delivered) ∧
      next.cooldown = notifier.cooldown := by
  obtain ⟨cooldown, hsome⟩ := Option.isSome_iff_exists.mp hcooldown
  simp only [notify, hsome]
  split <;> exact ⟨_, _, rfl, hsome⟩

end Notifier

namespace Instant

open Registry (readiness)

/-! ## Reading -/

theorem keeps_ask (request : Request) :
    (Registry.ask request).Keeps readiness (readiness.reply request) := by
  unfold Registry.ask
  refine Action.keeps_get.bind fun registry _ => ?_
  rcases registry.fetcher.send request with ⟨fault, fetcher⟩
  refine (Action.keeps_modify ?_).bind fun _ _ => ?_
  · exact fun _ hready => ⟨hready.cooldown, hready.hasIds⟩
  · cases fault with
    | none => exact Action.keeps_ask request
    | some fault =>
        refine Action.keeps_pure fun _ _ hentries => ?_
        cases hentries

section

variable (handle : Handle) (id : Json)

/-- The entries in the payload of a tree are well formed. -/
theorem keeps_payload (kind : RequestKind) :
    Keeps readiness
      (fun payload => kind = .tree → ∀ elements, payload.elements = .ok elements →
        ∀ entry ∈ Json.tables elements, Index.WellFormed entry)
      (fun _ => True) (Read.payload handle kind id) := by
  let request : Request := ⟨kind, handle.address.owner, handle.address.repository, id⟩
  refine (keeps_lift (keeps_ask request)).bind fun reply hreply => ?_
  cases reply with
  | error fault => exact keeps_throw trivial
  | ok result =>
      cases hok : result.ok with
      | false =>
          simp only [hok, Bool.false_eq_true, if_false]
          exact keeps_throw trivial
      | true =>
          simp only [hok, if_true]
          refine keeps_pure fun hkind elements helements => hreply hkind _ ?_
          simp [Reply.entries?, Reply.payload?, hok, helements, Except.toOption]

theorem keeps_ofShape {α : Type} (value : Except Json.ShapeError α) :
    Keeps readiness (fun result => value = .ok result) (fun _ => True)
      (Read.ofShape value) := by
  cases value with
  | ok value => exact keeps_pure rfl
  | error error => exact keeps_throw trivial

theorem keeps_tree :
    Keeps readiness (fun entries => ∀ entry ∈ entries, Index.WellFormed entry)
      (fun _ => True) (Read.tree handle id) := by
  refine (keeps_payload handle id .tree).bind fun payload hpayload => ?_
  refine (keeps_ofShape payload.elements).bind fun elements helements => ?_
  exact keeps_pure (hpayload rfl elements helements)

end

variable (handle : Handle)

/-- Whatever a root lists has an id, in the cache as on the host. -/
theorem keeps_root :
    Keeps readiness (fun root => ∀ entry ∈ root.authors, Index.HasId entry)
      (fun _ => True) (Read.root handle) := by
  unfold Read.root
  refine keeps_get.bind fun registry hready => ?_
  cases hcached : (registry.client handle).cache.root with
  | some root => exact keeps_pure (hready.hasIds handle root hcached)
  | none =>
      refine ((keeps_tree handle _).rethrow _).bind fun entries hentries => ?_
      refine (keeps_ofShape _).bind fun root hroot => ?_
      obtain ⟨other, hother, hauthors⟩ := Index.Root.ofEntries_wellFormed hentries
      obtain rfl : other = root := Except.ok.inj (hother.symm.trans hroot)
      have hids : ∀ entry ∈ other.authors, Index.HasId entry :=
        hauthors ▸ Index.hasId_subtreesIn hentries
      refine (keeps_modify ?_).bind fun _ _ => keeps_pure hids
      exact fun _ hready => hready.updateRoot handle hids

theorem keeps_author (name : String) :
    Keeps readiness (fun _ => True) (fun _ => True) (Read.author handle name) := by
  unfold Read.author
  refine keeps_get.bind fun registry _ => ?_
  cases (registry.client handle).cache.authors.get? (Text.lower name) with
  | some author => exact keeps_pure trivial
  | none =>
      refine (keeps_root handle).bind fun root _ => ?_
      cases root.idOf? (Text.lower name) with
      | none => exact keeps_pure trivial
      | some id =>
          refine (keeps_tree handle id).bind fun entries _ => ?_
          refine (keeps_ofShape _).bind fun author _ => ?_
          refine (keeps_modify ?_).bind fun _ _ => keeps_pure trivial
          exact fun _ hready => hready.updateCache handle _ fun _ => rfl

theorem keeps_historyText (payload : Json) :
    Keeps readiness (fun _ => True) (fun _ => True) (Read.historyText payload) := by
  cases payload with
  | string text => exact keeps_pure trivial
  | _ => exact keeps_throw trivial

theorem keeps_package (author name : String) :
    Keeps readiness (fun _ => True) (fun _ => True) (Read.package handle author name) := by
  unfold Read.package
  refine keeps_get.bind fun registry _ => ?_
  cases (registry.client handle).cache.packages.get? (Text.lower author, Text.lower name) with
  | some package => exact keeps_pure trivial
  | none =>
      refine (keeps_author handle _).bind fun found _ => ?_
      cases found.bind (·.idOf? (Text.lower name)) with
      | none => exact keeps_pure trivial
      | some id =>
          refine (keeps_payload handle id .blob).bind fun payload _ => ?_
          refine (keeps_historyText payload).bind fun text _ => ?_
          refine (keeps_modify ?_).bind fun _ _ => keeps_pure trivial
          exact fun _ hready => hready.updateCache handle _ fun _ => rfl

theorem keeps_configDocument (payload : Json) :
    Keeps readiness (fun _ => True) (fun _ => True) (Read.configDocument handle payload) := by
  cases payload with
  | string text =>
      simp only [Read.configDocument]
      split
      · exact keeps_pure trivial
      · exact keeps_throw trivial
      · exact keeps_throw trivial
  | _ => exact keeps_throw trivial

theorem keeps_config :
    Keeps readiness (fun _ => True) (fun _ => True) (Read.config handle) := by
  unfold Read.config
  refine keeps_get.bind fun registry _ => ?_
  cases (registry.client handle).cache.config with
  | some config => exact keeps_pure trivial
  | none =>
      refine (keeps_root handle).bind fun root _ => ?_
      cases root.config with
      | none => exact keeps_pure trivial
      | some entry =>
          refine (keeps_payload handle entry.id .blob).bind fun payload _ => ?_
          refine (keeps_configDocument handle payload).bind fun document _ => ?_
          refine (keeps_ofShape _).bind fun config _ => ?_
          refine (keeps_modify ?_).bind fun _ _ => keeps_pure trivial
          exact fun _ hready => hready.updateCache handle _ fun _ => rfl

/-! ## Looking things up -/

/-- Notices never end in an error. -/
theorem keeps_notify (message : String) :
    Keeps readiness (fun _ => True) (fun _ => False) (Lookup.notify message) := by
  unfold Lookup.notify
  refine keeps_get.bind fun registry hready => ?_
  obtain ⟨next, delivered, hnotify, hcooldown⟩ :=
    registry.notifier.notify_isSome message hready.cooldown
  rw [hnotify]
  have hnext : Registry.Ready { registry with notifier := next } :=
    ⟨(congrArg Option.isSome hcooldown).trans hready.cooldown, hready.hasIds⟩
  exact (keeps_set hnext).bind fun _ _ => keeps_pure trivial

/-- No read error crosses an attempt. -/
theorem keeps_attempt {α : Type} {result : α → Prop} {read : Read α}
    (hread : Keeps readiness result (fun _ => True) read) :
    Keeps readiness (fun found => ∀ value, found = some value → result value)
      (fun _ => False) (Lookup.attempt handle read) := by
  refine (keeps_lift hread).bind fun ended hended => ?_
  cases ended with
  | ok value =>
      refine keeps_pure fun other hother => ?_
      obtain rfl := Option.some.inj hother
      exact hended
  | error error =>
      refine (keeps_modify ?_).bind fun _ _ => (keeps_notify _).bind fun _ _ => ?_
      · exact fun _ hready => hready.update handle _ fun _ => .inl
      · exact keeps_pure fun _ hother => by cases hother

theorem keeps_find? (url : String) :
    Keeps readiness (fun _ => True) (fun _ => False) (Lookup.find? url) := by
  refine keeps_modifyGet fun registry hready => ⟨?_, trivial⟩
  unfold Registry.find?
  split
  · exact hready.opened _
  · exact hready

/-- A chain can always be extended. -/
theorem keeps_extend (urls : List String) (chain : List Handle) :
    Keeps readiness (fun extended => ∃ fallbacks, extended = chain ++ fallbacks)
      (fun _ => False) (Lookup.extend chain urls) := by
  induction urls generalizing chain with
  | nil => exact keeps_pure ⟨[], (List.append_nil chain).symm⟩
  | cons url rest ih =>
      unfold Lookup.extend
      refine (keeps_find? url).bind fun found _ => ?_
      cases found with
      | none => exact ih chain
      | some handle =>
          dsimp only
          split
          · exact ih chain
          · refine (ih (chain ++ [handle])).mono fun extended hextended => ?_
            obtain ⟨fallbacks, rfl⟩ := hextended
            exact ⟨handle :: fallbacks, List.append_assoc ..⟩

/-- A lookup always builds a chain, and the client itself comes first in it. -/
theorem keeps_chain :
    Keeps readiness (fun chain => ∃ fallbacks, chain = handle :: fallbacks)
      (fun _ => False) (Lookup.chain handle) := by
  cases handle with
  | alone name address => exact keeps_pure ⟨[], rfl⟩
  | shared address =>
      refine (keeps_attempt _ (keeps_config _)).bind fun found _ => ?_
      rcases found with _ | (_ | config)
      · exact keeps_pure ⟨[], rfl⟩
      · exact keeps_pure ⟨[], rfl⟩
      · exact keeps_extend config.fallbacks [.shared address]

section

variable {α β : Type} {read : Handle → Read α}
  (hread : ∀ handle, Keeps readiness (fun _ => True) (fun _ => True) (read handle))

include hread

theorem keeps_searchFrom (pick : α → Option β) (failed : Bool) (chain : List Handle) :
    Keeps readiness (fun _ => True) (fun _ => False)
      (Lookup.searchFrom read pick failed chain) := by
  induction chain generalizing failed with
  | nil => exact keeps_pure trivial
  | cons handle rest ih =>
      unfold Lookup.searchFrom
      refine (keeps_attempt handle (hread handle)).bind fun found _ => ?_
      cases found with
      | none => exact ih true
      | some level =>
          cases hpicked : pick level with
          | some value =>
              simp only [hpicked]
              exact keeps_pure trivial
          | none =>
              simp only [hpicked]
              exact ih failed

/-- A search never ends in an error. -/
theorem keeps_search (pick : α → Option β) :
    Keeps readiness (fun _ => True) (fun _ => False) (Lookup.search handle read pick) :=
  (keeps_chain handle).bind fun _ _ => keeps_searchFrom hread pick false _

end

/-! ## The questions -/

theorem keeps_authorValidity (author : String) :
    Keeps readiness (fun _ => True) (fun _ => False)
      (Lookup.authorValidity handle author) := by
  have hread : ∀ handle, Keeps readiness (fun _ => True) (fun _ => True) (Read.root handle) :=
    fun handle => (keeps_root handle).mono fun _ _ => trivial
  exact (keeps_search handle hread _).bind fun _ _ => keeps_pure trivial

theorem keeps_packageValidity (author name : String) :
    Keeps readiness (fun _ => True) (fun _ => False)
      (Lookup.packageValidity handle author name) :=
  (keeps_search handle (fun handle => keeps_author handle author) _).bind
    fun _ _ => keeps_pure trivial

/-- The question about a version ends in an error only if versions cannot be
compared. -/
theorem keeps_versionValidity (author name requirement : String) :
    Keeps readiness (fun _ => True) (fun fault => ∃ error, fault = .notANumber error)
      (Lookup.versionValidity handle author name requirement) := by
  have hversions : ∀ {α : Type} (value : Except Version.NotANumber α),
      Keeps readiness (fun _ => True) (fun fault => ∃ error, fault = .notANumber error)
        (Lookup.ofVersions value) := by
    intro α value
    cases value with
    | ok value => exact keeps_pure trivial
    | error error => exact keeps_throw ⟨error, rfl⟩
  have hsearch := keeps_search handle (fun handle => keeps_package handle author name) id
  refine (hsearch.weaken fun _ hfault => hfault.elim).bind fun found _ => ?_
  rcases found with ⟨_ | package, failed⟩
  · exact keeps_pure trivial
  · refine (hversions _).bind fun versions _ => (hversions _).bind fun satisfied _ => ?_
    exact keeps_pure trivial

end Instant

end ManifestLint
