import ManifestLint.Proofs.Fetching.Conduct
import ManifestLint.Proofs.Registry.Browsing
import ManifestLint.Proofs.Registry.Showing
import ManifestLint.Registry.Control

/-!
# Where cached items come from

A cache holds items: a root, a configuration, authors, packages.  Each was read out
of the reply to one request, and is put into the cache before anything else is heard.
So whoever works on a registry adds no item but those that the reply shows which was
heard last, and nobody touches the cooldown of the notices: that is a conduct,
**hearsay**, and all lookups obey it, as does whoever clears caches or changes tokens.

* `Fallible.obeys_root`, `obeys_author`, `obeys_package`, `obeys_config`: reading.
* `Lookup.Browses.obeys`: looking things up.
* `Fallible.obeys_invalidate`, `obeys_setToken` and so on: clearing caches.
-/

namespace ManifestLint

/-- What can be in a cache. -/
inductive Item where
  | root (root : Index.Root)
  | config (config : Index.Config)
  | author (key : String) (author : Index.Author)
  | package (key : String × String) (package : Index.Package)

namespace Item

/-- The item is in a cache. -/
def In (cache : Cache) : Item → Prop
  | root found => cache.root = some found
  | config found => cache.config = some found
  | author key found => cache.authors.get? key = some found
  | package key found => cache.packages.get? key = some found

/-- The cache with an item more, in place of the one that was there. -/
def put (cache : Cache) : Item → Cache
  | root found => { cache with root := some found }
  | config found => { cache with config := some found }
  | author key found => { cache with authors := cache.authors.put key found }
  | package key found => { cache with packages := cache.packages.put key found }

theorem in_put {cache : Cache} {new item : Item} (h : item.In (new.put cache)) :
    item.In cache ∨ item = new := by
  cases new with
  | root found =>
      cases item with
      | root other => exact .inr (congrArg root (Option.some.inj h).symm)
      | _ => exact .inl h
  | config found =>
      cases item with
      | config other => exact .inr (congrArg config (Option.some.inj h).symm)
      | _ => exact .inl h
  | author key found =>
      cases item with
      | author otherKey other =>
          simp only [In, put, Entries.get?_put] at h
          split at h
          · next hkey => exact .inr (by rw [hkey, Option.some.inj h])
          · exact .inl h
      | _ => exact .inl h
  | package key found =>
      cases item with
      | package otherKey other =>
          simp only [In, put, Entries.get?_put] at h
          split at h
          · next hkey => exact .inr (by rw [hkey, Option.some.inj h])
          · exact .inl h
      | _ => exact .inl h

/-- The item is what a reply to a request for some part of a client's index shows. -/
def ShownBy (handle : Handle) (request : Request) (reply : Reply) : Item → Prop
  | root found => request = handle.request .tree Read.rootId ∧
      ∃ entries, reply.entries? = some entries ∧ Index.Root.ofEntries entries = .ok found
  | config found => ∃ id, request = handle.request .blob id ∧ reply.config? = some found
  | author key found => request = handle.request .tree found.id ∧
      ∃ entries, reply.entries? = some entries ∧
        Index.Author.ofEntries key found.id entries = .ok found
  | package key found => ∃ id, request = handle.request .blob id ∧
      ∃ records, reply.history? = some records ∧ found = ⟨key.1, key.2, records⟩

end Item

namespace Registry

/-- An item is in the cache of a client. -/
def Holds (registry : Registry) (handle : Handle) (item : Item) : Prop :=
  item.In (registry.client handle).cache

/-- The caches and the cooldown of the notices are the same as before. -/
structure Untouched (before after : Registry) : Prop where
  caches : ∀ handle, (after.client handle).cache = (before.client handle).cache
  cooldown : after.notifier.cooldown = before.notifier.cooldown

/-- Whatever is held afterwards was held before, or is shown by the reply that was
heard last; and the cooldown of the notices stays. -/
def hearsay : Conduct Registry where
  allows heard before after :=
    (∀ handle item, after.Holds handle item → before.Holds handle item ∨
      ∃ request reply, heard = some (request, reply) ∧ item.ShownBy handle request reply) ∧
    after.notifier.cooldown = before.notifier.cooldown
  refl _ _ := ⟨fun _ _ hholds => .inl hholds, rfl⟩
  trans heard {_ _ _} hfirst hsecond := by
    refine ⟨fun handle item hholds => ?_, hsecond.2.trans hfirst.2⟩
    rcases hsecond.1 handle item hholds with hbefore | hshown
    · exact hfirst.1 handle item hbefore
    · exact .inr hshown

variable {heard : Hearing} {registry after : Registry}

/-- What leaves the caches alone adds nothing to them. -/
theorem hearsay_of_untouched (h : registry.Untouched after) :
    hearsay.allows heard registry after := by
  refine ⟨fun handle item hholds => ?_, h.cooldown⟩
  rw [Holds, h.caches] at hholds
  exact .inl hholds

/-- A client may be changed as long as its cache has no item that is not shown by
what was heard last. -/
theorem hearsay_update (handle : Handle) (change : Client → Client)
    (hitems : ∀ item : Item, item.In (change (registry.client handle)).cache →
      item.In (registry.client handle).cache ∨
        ∃ request reply, heard = some (request, reply) ∧ item.ShownBy handle request reply) :
    hearsay.allows heard registry (registry.update handle change) := by
  refine ⟨fun other item hholds => ?_, rfl⟩
  rw [Holds, client_update] at hholds
  split at hholds
  · next hsame => exact hsame ▸ hitems item hholds
  · exact .inl hholds

/-- Opening a client leaves all caches alone: that of a new client is empty. -/
theorem cache_opened (address : Address) (handle : Handle) :
    ((registry.opened address).client handle).cache = (registry.client handle).cache := by
  rw [opened]
  split
  · rfl
  · next hnew =>
      have hnone : registry.clients.get? (.shared address) = none := by
        simpa [Entries.has] using hnew
      simp only [client, Entries.get?_put]
      split
      · next hsame => rw [← hsame, hnone]; rfl
      · rfl

theorem untouched_find? (url : String) : registry.Untouched (registry.find? url).2 := by
  unfold find?
  split
  · refine ⟨cache_opened _, ?_⟩
    unfold opened
    split <;> rfl
  · exact ⟨fun _ => rfl, rfl⟩

/-- Another fetcher touches neither. -/
theorem untouched_fetcher (fetcher : Fetcher) : registry.Untouched { registry with fetcher } :=
  ⟨fun _ => rfl, rfl⟩

end Registry

/-- A notice leaves the cooldown as it is. -/
theorem Notifier.notify_cooldown {τ : Type} [Sub τ] [LE τ] [DecidableLE τ] [LT τ]
    [DecidableLT τ] (notifier : Notifier τ) {message : String} {next : Notifier τ × Bool}
    (h : notifier.notify message = some next) : next.1.cooldown = notifier.cooldown := by
  unfold notify at h
  split at h
  · dsimp only at h
    split at h <;> obtain rfl := Option.some.inj h <;> rfl
  · split at h
    · obtain rfl := Option.some.inj h
      rfl
    · cases h

namespace Fallible

open Registry (hearsay)

variable {given : Hearing → Prop} {ε : Type}

/-! ## Reading -/

section

variable (handle : Handle) (id : Json)

/-- Whoever gets a reply that counts has just heard it. -/
theorem obeys_ask (request : Request) :
    (Registry.ask request).Obeys hearsay given fun heard reply =>
      ∀ payload, reply.payload? = some payload → heard = some (request, reply) := by
  unfold Registry.ask
  refine Action.obeys_get.bind fun registry => ?_
  rcases registry.fetcher.send request with ⟨fault, fetcher⟩
  refine (Action.obeys_modify fun heard registry _ => ?_).bind fun _ => ?_
  · exact Registry.hearsay_of_untouched (Registry.untouched_fetcher fetcher)
  · cases fault with
    | none => exact (Action.obeys_ask request).mono fun heard reply hheard _ _ => hheard
    | some fault => exact Action.obeys_pure fun _ _ _ hpayload => by cases hpayload

theorem obeys_payload (kind : RequestKind) :
    Obeys hearsay given
      (fun heard payload => ∃ reply, heard = some (handle.request kind id, reply) ∧
        reply.payload? = some payload)
      (Read.payload handle kind id) := by
  refine (obeys_lift (obeys_ask (handle.request kind id))).bind fun reply => ?_
  cases reply with
  | error fault => exact obeys_throw
  | ok result =>
      cases hok : result.ok with
      | false =>
          simp only [hok, Bool.false_eq_true, if_false]
          exact obeys_throw
      | true =>
          simp only [hok, if_true]
          refine obeys_pure fun heard hheard => ?_
          have hpayload : Reply.payload? (.ok result) = some result.payload := by
            simp [Reply.payload?, hok]
          exact ⟨.ok result, hheard _ hpayload, hpayload⟩

theorem obeys_ofShape {α : Type} (value : Except Json.ShapeError α) :
    Obeys hearsay given (fun heard result => given heard ∧ value = .ok result)
      (Read.ofShape value) := by
  cases value with
  | ok value => exact obeys_pure fun heard hgiven => ⟨hgiven, rfl⟩
  | error error => exact obeys_throw

theorem obeys_tree :
    Obeys hearsay given
      (fun heard entries => ∃ reply, heard = some (handle.request .tree id, reply) ∧
        reply.entries? = some entries)
      (Read.tree handle id) := by
  refine (obeys_payload handle id .tree).bind fun payload => ?_
  refine (obeys_ofShape payload.elements).bind fun elements => ?_
  refine obeys_pure fun heard hheard => ?_
  obtain ⟨⟨reply, hlast, hpayload⟩, helements⟩ := hheard
  refine ⟨reply, hlast, ?_⟩
  simp only [Reply.entries?, hpayload, helements, Option.bind_some, Except.toOption]
  rfl

end

variable (handle : Handle)

/-- An item that is shown by what was heard last may be put into the cache. -/
theorem obeys_updateCache (new : Item)
    (hshown : ∀ heard, given heard → ∃ request reply, heard = some (request, reply) ∧
      new.ShownBy handle request reply) :
    Obeys hearsay given (fun _ _ => True)
      (modify (·.updateCache handle (Item.put · new)) : ExceptT ε (Action Registry) PUnit) := by
  refine Obeys.mono (obeys_modify fun heard registry hgiven => ?_) fun _ _ _ => trivial
  refine Registry.hearsay_update handle _ fun item hitem => ?_
  rcases Item.in_put hitem with hold | rfl
  · exact .inl hold
  · exact .inr (hshown heard hgiven)

theorem obeys_root : Obeys hearsay given (fun _ _ => True) (Read.root handle) := by
  unfold Read.root
  refine obeys_get.bind fun registry => ?_
  cases (registry.client handle).cache.root with
  | some root => exact obeys_pure fun _ _ => trivial
  | none =>
      refine ((obeys_tree handle _).rethrow _).bind fun entries => ?_
      refine (obeys_ofShape _).bind fun root => ?_
      refine (obeys_updateCache handle (.root root) ?_).bind fun _ =>
        obeys_pure fun _ _ => trivial
      rintro heard ⟨⟨reply, rfl, hentries⟩, hroot⟩
      exact ⟨_, _, rfl, rfl, entries, hentries, hroot⟩

theorem obeys_author (name : String) :
    Obeys hearsay given (fun _ _ => True) (Read.author handle name) := by
  unfold Read.author
  refine obeys_get.bind fun registry => ?_
  cases (registry.client handle).cache.authors.get? (Text.lower name) with
  | some author => exact obeys_pure fun _ _ => trivial
  | none =>
      refine (obeys_root handle).bind fun root => ?_
      cases root.idOf? (Text.lower name) with
      | none => exact obeys_pure fun _ _ => trivial
      | some id =>
          refine (obeys_tree handle id).bind fun entries => ?_
          refine (obeys_ofShape _).bind fun author => ?_
          refine (obeys_updateCache handle (.author (Text.lower name) author) ?_).bind
            fun _ => obeys_pure fun _ _ => trivial
          rintro heard ⟨⟨reply, rfl, hentries⟩, hauthor⟩
          have hid : author.id = id := Index.Author.ofEntries_id hauthor
          exact ⟨_, _, rfl, by rw [hid], entries, hentries, by rw [hid]; exact hauthor⟩

theorem obeys_historyText (payload : Json) :
    Obeys hearsay given (fun heard text => given heard ∧ payload = .string text)
      (Read.historyText payload) := by
  cases payload with
  | string text => exact obeys_pure fun heard hgiven => ⟨hgiven, rfl⟩
  | _ => exact obeys_throw

theorem obeys_package (author name : String) :
    Obeys hearsay given (fun _ _ => True) (Read.package handle author name) := by
  unfold Read.package
  refine obeys_get.bind fun registry => ?_
  cases (registry.client handle).cache.packages.get? (Text.lower author, Text.lower name) with
  | some package => exact obeys_pure fun _ _ => trivial
  | none =>
      refine (obeys_author handle _).bind fun found => ?_
      cases found.bind (·.idOf? (Text.lower name)) with
      | none => exact obeys_pure fun _ _ => trivial
      | some id =>
          refine (obeys_payload handle id .blob).bind fun payload => ?_
          refine (obeys_historyText payload).bind fun text => ?_
          dsimp only
          refine (obeys_updateCache handle (.package (Text.lower author, Text.lower name)
            ⟨Text.lower author, Text.lower name, Record.history text.toList⟩) ?_).bind
            fun _ => obeys_pure fun _ _ => trivial
          rintro heard ⟨⟨reply, rfl, hpayload⟩, rfl⟩
          refine ⟨_, _, rfl, id, rfl, _, ?_, rfl⟩
          rw [Reply.history?, hpayload]
          rfl

theorem obeys_configDocument (payload : Json) :
    Obeys hearsay given (fun heard document => given heard ∧ payload.document? = some document)
      (Read.configDocument handle payload) := by
  cases payload with
  | string text =>
      simp only [Read.configDocument, Json.document?]
      rcases Json.decode text with error | document
      · exact obeys_throw
      · cases document with
        | object members => exact obeys_pure fun heard hgiven => ⟨hgiven, rfl⟩
        | _ => exact obeys_throw
  | _ => exact obeys_throw

theorem obeys_config : Obeys hearsay given (fun _ _ => True) (Read.config handle) := by
  unfold Read.config
  refine obeys_get.bind fun registry => ?_
  cases (registry.client handle).cache.config with
  | some config => exact obeys_pure fun _ _ => trivial
  | none =>
      refine (obeys_root handle).bind fun root => ?_
      cases root.config with
      | none => exact obeys_pure fun _ _ => trivial
      | some entry =>
          refine (obeys_payload handle entry.id .blob).bind fun payload => ?_
          refine (obeys_configDocument handle payload).bind fun document => ?_
          refine (obeys_ofShape _).bind fun config => ?_
          refine (obeys_updateCache handle (.config config) ?_).bind
            fun _ => obeys_pure fun _ _ => trivial
          rintro heard ⟨⟨⟨reply, rfl, hpayload⟩, hdocument⟩, hconfig⟩
          refine ⟨_, _, rfl, entry.id, rfl, ?_⟩
          simp [Reply.config?, hpayload, hdocument, hconfig, Except.toOption]

/-! ## Looking things up -/

/-- Changes that leave the caches alone are allowed. -/
theorem obeys_modify_untouched {change : Registry → Registry}
    (hchange : ∀ registry : Registry, registry.Untouched (change registry)) :
    Obeys hearsay given (fun _ _ => True)
      (modify change : ExceptT ε (Action Registry) PUnit) :=
  Obeys.mono (obeys_modify fun _ registry _ => Registry.hearsay_of_untouched (hchange registry))
    fun _ _ _ => trivial

theorem obeys_update_client {change : Client → Client}
    (hcache : ∀ client, (change client).cache = client.cache) :
    Obeys hearsay given (fun _ _ => True)
      (modify (·.update handle change) : ExceptT ε (Action Registry) PUnit) := by
  refine obeys_modify_untouched fun registry => ⟨fun other => ?_, rfl⟩
  rw [Registry.client_update]
  split
  · next hsame => rw [hcache, hsame]
  · rfl

/-- A notice changes the notifier, and nothing else. -/
theorem run_notify (message : String) (registry : Registry) :
    (Lookup.notify message).run registry =
      match registry.notifier.notify message with
      | some (notifier, delivered) => .done { registry with notifier } (.ok delivered)
      | none => .done registry (.error .noCooldown) := by
  have hrun : (Lookup.notify message).run registry =
      (match registry.notifier.notify message with
        | some (notifier, delivered) => do
          set { registry with notifier }
          return delivered
        | none => throw .noCooldown : Lookup Bool).run registry := rfl
  rw [hrun]
  cases registry.notifier.notify message <;> rfl

theorem obeys_notify (message : String) :
    Obeys hearsay given (fun _ _ => True) (Lookup.notify message) := by
  intro heard registry _
  rw [run_notify]
  cases hnotify : registry.notifier.notify message with
  | none => exact ⟨hearsay.refl heard registry, trivial⟩
  | some next =>
      have hcooldown := registry.notifier.notify_cooldown hnotify
      exact ⟨Registry.hearsay_of_untouched ⟨fun _ => rfl, hcooldown⟩, trivial⟩

theorem obeys_attempt {α : Type} {read : Read α}
    (hread : Obeys hearsay given (fun _ _ => True) read) :
    Obeys hearsay given (fun _ _ => True) (Lookup.attempt handle read) := by
  refine (obeys_lift hread).bind fun ended => ?_
  cases ended with
  | ok value => exact obeys_pure fun _ _ => trivial
  | error error =>
      refine (obeys_update_client handle ?_).bind fun _ => ?_
      · exact fun _ => rfl
      · exact (obeys_notify _).bind fun _ => obeys_pure fun _ _ => trivial

theorem obeys_find? (url : String) :
    Obeys hearsay given (fun _ _ => True) (Lookup.find? url) := by
  refine Obeys.mono (obeys_modifyGet fun heard registry _ => ?_) fun _ _ _ => trivial
  exact Registry.hearsay_of_untouched (registry.untouched_find? url)

theorem obeys_reachable : Obeys hearsay given (fun _ _ => True) (Lookup.reachable handle) := by
  refine (obeys_attempt handle (obeys_root handle)).bind fun found => ?_
  cases found with
  | some root => exact obeys_pure fun _ _ => trivial
  | none => exact obeys_get.bind fun registry => obeys_pure fun _ _ => trivial

end Fallible

open Fallible

open Registry (hearsay)

/-- **Hearsay.**  Lookups add nothing to a cache but what they have just heard. -/
theorem Lookup.Browses.obeys {refusal : Version.NotANumber → Prop} {α : Type}
    {lookup : Lookup α} (h : Lookup.Browses refusal lookup) :
    Obeys hearsay (fun _ => True) (fun _ _ => True) lookup := by
  induction h with
  | pure value => exact obeys_pure fun _ _ => trivial
  | bind hfirst hnext hobeys hlater => exact hobeys.bind hlater
  | root handle => exact obeys_attempt handle (obeys_root handle)
  | author handle name => exact obeys_attempt handle (obeys_author handle name)
  | package handle author name => exact obeys_attempt handle (obeys_package handle author name)
  | config handle => exact obeys_attempt handle (obeys_config handle)
  | reachable handle => exact obeys_reachable handle
  | find? url => exact obeys_find? url
  | @ofVersions _ value _ =>
      cases value with
      | ok value => exact obeys_pure fun _ _ => trivial
      | error error => exact obeys_throw

namespace Fallible

/-! ## Clearing caches and changing tokens -/

section

variable (handle : Handle)

/-- The registry with the cache of a client cleared. -/
theorem obeys_clear :
    Obeys hearsay (fun _ => True) (fun _ _ => True)
      (modify (·.update handle fun client => { client with cache := {} }) : Lookup PUnit) := by
  refine Obeys.mono (obeys_modify fun heard registry _ => ?_) fun _ _ _ => trivial
  refine Registry.hearsay_update handle _ fun item hitem => ?_
  cases item <;> cases hitem

/-- Reading the configuration again adds nothing but what was just heard. -/
theorem obeys_readConfig :
    Obeys hearsay (fun _ => True) (fun _ _ => True) (Lookup.config handle) := by
  have hbrowses : Lookup.Browses (fun _ => True) (Lookup.config handle) :=
    Lookup.browses_config handle
  exact hbrowses.obeys

theorem obeys_invalidate :
    Obeys hearsay (fun _ => True) (fun _ _ => True) (Lookup.invalidate handle) := by
  refine (obeys_clear handle).bind fun _ => ?_
  exact (obeys_readConfig handle).bind fun _ => obeys_pure fun _ _ => trivial

theorem obeys_tokenChanged (token : Option String) :
    Obeys hearsay (fun _ => True) (fun _ _ => True) (Lookup.tokenChanged handle token) := by
  refine (obeys_update_client handle ?_).bind fun _ => obeys_invalidate handle
  exact fun _ => rfl

end

/-- What may be done to each client may be done to all of them. -/
theorem obeys_forM {order : Handle → Lookup PUnit} (handles : List Handle)
    (horder : ∀ handle, Obeys hearsay (fun _ => True) (fun _ _ => True) (order handle)) :
    Obeys hearsay (fun _ => True) (fun _ _ => True) (handles.forM order) := by
  induction handles with
  | nil => exact obeys_pure fun _ _ => trivial
  | cons handle rest ih => exact (horder handle).bind fun _ => ih

theorem obeys_invalidateAll :
    Obeys hearsay (fun _ => True) (fun _ _ => True) Lookup.invalidateAll :=
  obeys_get.bind fun _ => obeys_forM _ obeys_invalidate

theorem obeys_setFetcherToken (token : Option String) :
    Obeys hearsay (fun _ => True) (fun _ _ => True) (Lookup.setFetcherToken token) := by
  have hset : (Registry.setToken token).Obeys hearsay (fun _ => True) fun _ _ => True := by
    unfold Registry.setToken
    refine Action.obeys_get.bind fun registry => ?_
    rcases registry.fetcher.setToken token with ⟨fault, fetcher⟩
    refine (Action.obeys_modify fun heard registry _ => ?_).bind fun _ =>
      Action.obeys_pure fun _ _ => trivial
    exact Registry.hearsay_of_untouched (Registry.untouched_fetcher fetcher)
  refine (obeys_lift hset).bind fun fault => ?_
  cases fault with
  | none => exact obeys_pure fun _ _ => trivial
  | some fault => exact obeys_throw

theorem obeys_setStoreToken (token : Option String) :
    Obeys hearsay (fun _ => True) (fun _ _ => True) (Lookup.setStoreToken token) := by
  unfold Lookup.setStoreToken
  refine obeys_get.bind fun registry => ?_
  split
  · exact obeys_pure fun _ _ => trivial
  · refine (obeys_modify_untouched ?_).bind fun _ => ?_
    · exact fun _ => ⟨fun _ => rfl, rfl⟩
    · refine (obeys_setFetcherToken _).bind fun _ => obeys_get.bind fun later => ?_
      refine (obeys_forM _ fun handle => obeys_tokenChanged handle _).bind fun _ => ?_
      exact obeys_pure fun _ _ => trivial

theorem obeys_setToken (handle : Handle) (token : Option String) :
    Obeys hearsay (fun _ => True) (fun _ _ => True) (Lookup.setToken handle token) := by
  cases handle with
  | shared address => exact obeys_setStoreToken token
  | alone url address =>
      unfold Lookup.setToken
      refine obeys_get.bind fun registry => ?_
      split
      · exact obeys_pure fun _ _ => trivial
      · refine (obeys_setFetcherToken _).bind fun _ => ?_
        exact (obeys_tokenChanged _ _).bind fun _ => obeys_pure fun _ _ => trivial

end Fallible

end ManifestLint
