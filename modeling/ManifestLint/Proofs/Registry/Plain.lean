import ManifestLint.Proofs.Fetching.Keeping
import ManifestLint.Proofs.Registry.Hearsay

/-!
# Reading without a cache

If the host gives each request one reply, whatever the time, an index can be read
without a cache, and without a state: a reading is then a computation from the
replies alone.  A registry is **coherent** if its caches hold nothing but what such
plain readings give.

Whoever reads an index through a coherent registry gets what the plain reading gives,
and leaves the registry coherent; so it makes no difference what is in the cache, nor
who has put it there.

* `Plain.root`, `Plain.author`, `Plain.package`, `Plain.config`: the plain readings.
* `Registry.coherence`: what lookups leave to each other.
* `Instant.settles_root` and so on: reading through a coherent registry.
-/

namespace ManifestLint

/-! ## The host -/

/-- The reply to a request that is sent through a fetcher, if the host has one reply to
each request. -/
def Fetcher.replies (fetcher : Fetcher) (answer : Request → Reply) (request : Request) : Reply :=
  match (fetcher.send request).1 with
  | some fault => .error fault
  | none => answer request

namespace Fetcher

variable (fetcher : Fetcher) (request : Request)

/-- Why a request is not sent depends on the connection alone. -/
theorem send_fault :
    (fetcher.send request).1 =
      if fetcher.overHttp then
        match fetcher.connect with
        | .error fault => some fault
        | .ok connection =>
          match connection.base.below request.path.toList with
          | .error error => some (.url error)
          | .ok _ => none
      else none := by
  unfold send
  split
  · cases fetcher.connect with
    | error fault => rfl
    | ok connection =>
        dsimp only
        cases connection.base.below request.path.toList <;> rfl
  · rfl

theorem send_overHttp : (fetcher.send request).2.overHttp = fetcher.overHttp := by
  unfold send
  split
  · split
    · rfl
    · dsimp only
      split <;> rfl
  · rfl

/-- The connection that is opened is the one that would be opened again. -/
theorem send_connect : (fetcher.send request).2.connect = fetcher.connect := by
  unfold send
  split
  · cases hconnect : fetcher.connect with
    | error fault => exact hconnect
    | ok connection =>
        dsimp only
        cases connection.base.below request.path.toList <;> rfl
  · rfl

/-- Sending a request makes no difference to other requests. -/
theorem replies_send (answer : Request → Reply) :
    (fetcher.send request).2.replies answer = fetcher.replies answer := by
  funext other
  rw [replies, replies, send_fault, send_fault, send_overHttp, send_connect]

end Fetcher

/-! ## Plain readings -/

namespace Plain

variable (replies : Request → Reply) (handle : Handle)

/-- The payload of a request. -/
def payload (kind : RequestKind) (id : Json) : Except ReadError Json :=
  let request := handle.request kind id
  match replies request with
  | .ok result =>
    if result.ok then .ok result.payload
    else .error (.unreadable kind request.idText handle.url result)
  | .error fault => .error (.fault fault)

/-- The tables among the elements of a tree's payload. -/
def tree (id : Json) : Except ReadError (List (Entries String Json)) := do
  let elements ← (← payload replies handle .tree id).elements.mapError .shape
  return Json.tables elements

/-- The root of an index. -/
def root : Except ReadError Index.Root := do
  let entries ← (tree replies handle Read.rootId).mapError (Read.rootError handle)
  let root ← (Index.Root.ofEntries entries).mapError .shape
  return root

/-- An author of an index, under a name in lower case. -/
def author (key : String) : Except ReadError (Option Index.Author) := do
  match (← root replies handle).idOf? key with
  | none => return none
  | some id =>
    let entries ← tree replies handle id
    let author ← (Index.Author.ofEntries key id entries).mapError .shape
    return some author

/-- The text of a history. -/
def historyText : Json → Except ReadError String
  | .string text => .ok text
  | other => .error (.shape (.lacks other.kind "splitlines"))

/-- A package of an index, under names in lower case. -/
def package (author name : String) : Except ReadError (Option Index.Package) := do
  match (← Plain.author replies handle (Text.lower author)).bind (·.idOf? name) with
  | none => return none
  | some id =>
    let text ← historyText (← payload replies handle .blob id)
    return some ⟨author, name, Record.history text.toList⟩

/-- The document in the payload of a configuration. -/
def configDocument (payload : Json) : Except ReadError Json :=
  match payload with
  | .string text =>
    match Json.decode text with
    | .ok (.object members) => .ok (.object members)
    | .ok _ => .error (.malformedConfig handle.url "expected an object")
    | .error error => .error (.malformedConfig handle.url (error.message text.toList))
  | other => .error (.shape (.notDocument other.kind))

/-- The configuration of an index, if the root lists one. -/
def config : Except ReadError (Option Index.Config) := do
  match (← root replies handle).config with
  | none => return none
  | some entry =>
    let document ← configDocument handle (← payload replies handle .blob entry.id)
    let config ← (Index.Config.ofJson document).mapError .shape
    return some config

end Plain

/-! ## Coherent registries -/

/-- The item is what a plain reading of a client's index gives. -/
def Item.Matches (replies : Request → Reply) (handle : Handle) : Item → Prop
  | root found => Plain.root replies handle = .ok found
  | config found => Plain.config replies handle = .ok (some found)
  | author key found => Plain.author replies handle key = .ok (some found)
  | package key found => Plain.package replies handle key.1 key.2 = .ok (some found)

/-- A registry through which requests get the replies, and whose caches hold what plain
readings give. -/
structure Registry.Coherent (answer replies : Request → Reply) (registry : Registry) :
    Prop where
  sends : registry.fetcher.replies answer = replies
  holds : ∀ handle item, registry.Holds handle item → item.Matches replies handle

/-- What lookups leave to each other if each request has one reply. -/
def Registry.coherence (answer replies : Request → Reply) : Agreement Registry where
  state := Registry.Coherent answer replies
  reply request reply := reply = answer request

theorem World.keeps_coherence_steady (answer replies : Request → Reply) :
    (World.steady answer).Keeps (Registry.coherence answer replies) where
  reply _ _ := rfl
  others _ _ hstate := hstate

namespace Registry

variable {answer replies : Request → Reply} {registry after : Registry}

/-- Nothing is cached in a registry when it is new. -/
theorem coherent_new (answer : Request → Reply) (fetcher : Fetcher) (cooldown : Option Float)
    (token : Option String) :
    (Registry.new fetcher cooldown token).Coherent answer (fetcher.replies answer) := by
  refine ⟨rfl, fun handle item hholds => ?_⟩
  cases item <;> cases hholds

/-- What leaves the caches and the fetcher alone leaves a registry coherent. -/
theorem Coherent.frame (h : registry.Coherent answer replies)
    (hfetcher : after.fetcher = registry.fetcher)
    (hcaches : ∀ handle, (after.client handle).cache = (registry.client handle).cache) :
    after.Coherent answer replies := by
  refine ⟨hfetcher ▸ h.sends, fun handle item hholds => h.holds handle item ?_⟩
  rw [Holds, ← hcaches]
  exact hholds

theorem Coherent.sent (h : registry.Coherent answer replies) (request : Request) :
    Coherent answer replies
      { registry with fetcher := (registry.fetcher.send request).2 } :=
  ⟨(Fetcher.replies_send ..).trans h.sends, h.holds⟩

/-- A client may be changed as long as its cache has no item but what plain readings
give. -/
theorem Coherent.update (h : registry.Coherent answer replies) (handle : Handle)
    {change : Client → Client}
    (hitems : ∀ (client : Client) (item : Item), item.In (change client).cache →
      item.In client.cache ∨ item.Matches replies handle) :
    (registry.update handle change).Coherent answer replies := by
  refine ⟨h.sends, fun other item hholds => ?_⟩
  rw [Holds, client_update] at hholds
  split at hholds
  · next hsame =>
      subst hsame
      rcases hitems _ item hholds with hold | hnew
      · exact h.holds handle item hold
      · exact hnew
  · exact h.holds other item hholds

/-- Finding a client leaves the fetcher alone. -/
theorem find?_fetcher (registry : Registry) (url : String) :
    (registry.find? url).2.fetcher = registry.fetcher := by
  unfold find? opened
  split
  · dsimp only
    split <;> rfl
  · rfl

theorem Coherent.find? (h : registry.Coherent answer replies) (url : String) :
    (registry.find? url).2.Coherent answer replies :=
  h.frame (registry.find?_fetcher url) (registry.untouched_find? url).caches

end Registry

namespace Instant

open Registry (coherence)

variable {answer replies : Request → Reply}

/-! ## Reading -/

theorem keeps_coherence_ask (request : Request) :
    (Registry.ask request).Keeps (coherence answer replies)
      fun reply => reply = replies request := by
  unfold Registry.ask
  intro registry hregistry
  have hsent := hregistry.sent request
  have hreply := congrFun hregistry.sends request
  rw [Fetcher.replies] at hreply
  have hrest : ∀ fault, (registry.fetcher.send request).1 = fault →
      (match fault with
        | some fault => pure (.error fault)
        | none => Action.ask request : Action Registry Reply).Keeps (coherence answer replies)
        fun reply => reply = replies request := by
    rintro (_ | fault) hfault <;> rw [hfault] at hreply
    · exact (Action.keeps_ask request).mono fun reply hanswer => hanswer.trans hreply
    · exact Action.keeps_pure hreply
  exact hrest _ rfl _ hsent

section

variable (handle : Handle)

theorem settles_payload (kind : RequestKind) (id : Json) :
    Settles (coherence answer replies) (fun _ => False) (Read.payload handle kind id)
      (Plain.payload replies handle kind id) := by
  refine (keeps_lift (keeps_coherence_ask (handle.request kind id))).bind fun reply hreply => ?_
  rw [Plain.payload, ← hreply]
  cases reply with
  | error fault => exact settles_throw _
  | ok result =>
      cases hok : result.ok with
      | false =>
          simp only [hok, Bool.false_eq_true, if_false]
          exact settles_throw _
      | true =>
          simp only [hok, if_true]
          exact settles_pure _

theorem settles_ofShape {α : Type} (value : Except Json.ShapeError α) :
    Settles (coherence answer replies) (fun _ => False) (Read.ofShape value)
      (value.mapError .shape) := by
  cases value with
  | ok value => exact settles_pure value
  | error error => exact settles_throw _

theorem settles_tree (id : Json) :
    Settles (coherence answer replies) (fun _ => False) (Read.tree handle id)
      (Plain.tree replies handle id) :=
  (settles_payload handle .tree id).bind fun payload _ =>
    (settles_ofShape payload.elements).bind fun _ _ => settles_pure _

/-- What a plain reading gives may be put into the cache. -/
theorem settles_store {α : Type} (new : Item) (hmatches : new.Matches replies handle)
    (value : α) :
    Settles (coherence answer replies) (fun _ => False)
      (do
        modify (·.updateCache handle (Item.put · new))
        return value : Read α) (.ok value) := by
  have hmodify : Settles (coherence answer replies) (fun _ => False)
      (modify (·.updateCache handle (Item.put · new)) : Read PUnit) (.ok ⟨⟩) := by
    refine settles_modify fun registry hregistry => ?_
    refine hregistry.update handle fun client item hitem => ?_
    rcases Item.in_put hitem with hold | rfl
    · exact .inl hold
    · exact .inr hmatches
  exact hmodify.bind fun _ _ => settles_pure value

theorem settles_root :
    Settles (coherence answer replies) (fun _ => False) (Read.root handle)
      (Plain.root replies handle) := by
  refine settles_get_bind fun registry hregistry => ?_
  cases hcached : (registry.client handle).cache.root with
  | some root =>
      have hroot : Plain.root replies handle = .ok root :=
        hregistry.holds handle (.root root) hcached
      rw [hroot]
      exact settles_pure root
  | none =>
      refine ((settles_tree handle _).rethrow _).bind fun entries hentries => ?_
      rw [← bind_pure (Except.mapError _ _)]
      refine (settles_ofShape _).bind fun root hroot => ?_
      refine settles_store handle (.root root) ?_ root
      rw [Item.Matches, Plain.root, hentries]
      exact hroot

theorem settles_author (name : String) :
    Settles (coherence answer replies) (fun _ => False) (Read.author handle name)
      (Plain.author replies handle (Text.lower name)) := by
  refine settles_get_bind fun registry hregistry => ?_
  cases hcached : (registry.client handle).cache.authors.get? (Text.lower name) with
  | some author =>
      have hauthor : Plain.author replies handle (Text.lower name) = .ok (some author) :=
        hregistry.holds handle (.author (Text.lower name) author) hcached
      rw [hauthor]
      exact settles_pure _
  | none =>
      refine (settles_root handle).bind fun root hroot => ?_
      cases hid : root.idOf? (Text.lower name) with
      | none => exact settles_pure none
      | some id =>
          refine (settles_tree handle id).bind fun entries hentries => ?_
          refine (settles_ofShape _).bind fun author hauthor => ?_
          refine settles_store handle (.author (Text.lower name) author) ?_ (some author)
          simp only [Item.Matches, Plain.author, hroot, hid, hentries, hauthor, bind, Except.bind,
            pure, Except.pure]

theorem settles_historyText (payload : Json) :
    Settles (coherence answer replies) (fun _ => False) (Read.historyText payload)
      (Plain.historyText payload) := by
  cases payload with
  | string text => exact settles_pure text
  | _ => exact settles_throw _

theorem settles_package (author name : String) :
    Settles (coherence answer replies) (fun _ => False) (Read.package handle author name)
      (Plain.package replies handle (Text.lower author) (Text.lower name)) := by
  refine settles_get_bind fun registry hregistry => ?_
  cases hcached : (registry.client handle).cache.packages.get?
      (Text.lower author, Text.lower name) with
  | some package =>
      have hpackage : Plain.package replies handle (Text.lower author) (Text.lower name) =
          .ok (some package) :=
        hregistry.holds handle (.package (Text.lower author, Text.lower name) package) hcached
      rw [hpackage]
      exact settles_pure _
  | none =>
      refine (settles_author handle (Text.lower author)).bind fun found hfound => ?_
      cases hid : found.bind (·.idOf? (Text.lower name)) with
      | none => exact settles_pure none
      | some id =>
          refine (settles_payload handle .blob id).bind fun payload hpayload => ?_
          refine (settles_historyText payload).bind fun text htext => ?_
          refine settles_store handle (.package (Text.lower author, Text.lower name)
            ⟨Text.lower author, Text.lower name, Record.history text.toList⟩) ?_ (some _)
          simp only [Item.Matches, Plain.package, hfound, hid, hpayload, htext, bind, Except.bind,
            pure, Except.pure]

theorem settles_configDocument (payload : Json) :
    Settles (coherence answer replies) (fun _ => False) (Read.configDocument handle payload)
      (Plain.configDocument handle payload) := by
  cases payload with
  | string text =>
      simp only [Read.configDocument, Plain.configDocument]
      rcases Json.decode text with error | document
      · exact settles_throw _
      · cases document with
        | object members => exact settles_pure _
        | _ => exact settles_throw _
  | _ => exact settles_throw _

theorem settles_config :
    Settles (coherence answer replies) (fun _ => False) (Read.config handle)
      (Plain.config replies handle) := by
  refine settles_get_bind fun registry hregistry => ?_
  cases hcached : (registry.client handle).cache.config with
  | some config =>
      have hconfig : Plain.config replies handle = .ok (some config) :=
        hregistry.holds handle (.config config) hcached
      rw [hconfig]
      exact settles_pure _
  | none =>
      refine (settles_root handle).bind fun root hroot => ?_
      cases hentry : root.config with
      | none => exact settles_pure none
      | some entry =>
          refine (settles_payload handle .blob entry.id).bind fun payload hpayload => ?_
          refine (settles_configDocument handle payload).bind fun document hdocument => ?_
          refine (settles_ofShape _).bind fun config hconfig => ?_
          refine settles_store handle (.config config) ?_ (some config)
          simp only [Item.Matches, Plain.config, hroot, hentry, hpayload, hdocument, hconfig, bind,
            Except.bind, pure, Except.pure]

end

end Instant

end ManifestLint
