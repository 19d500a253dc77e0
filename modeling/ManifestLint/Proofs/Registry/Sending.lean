import ManifestLint.Proofs.Registry.Hearsay
import ManifestLint.Proofs.Registry.Plain

/-!
# What becomes of the fetcher

All clients of a store share one fetcher.  Lookups do nothing with it but send
requests, so whatever is true of the fetcher, and stays so when a request is sent, is
still true when a lookup is done, and also whenever a lookup waits.  The same holds of
the registry as a whole, as far as reading an index does no more to it than it must.

A host that gives each request one reply need not look so from a client: the fetcher
may not send a request at all, and that can change with the token.  The replies of a
fetcher are **fixed** if they stay the same whatever is sent, and whichever of some
tokens are set.

* `Fetcher.Fixed`, with `fixed_of_memory` and `fixed_of_connect`: two kinds of fetcher
  whose replies are fixed.
* `Registry.Stable`, with `Instant.keeps_stable_root` and so on: what outlasts reading.
* `Lookup.Browses.keeps_sending`: what is kept of the fetcher by lookups.
-/

namespace ManifestLint

/-! ## Fixed replies -/

namespace Fetcher

/-- What a fetcher may become by sending requests, and by being given some tokens. -/
inductive Becomes (tokens : Option String → Prop) (fetcher : Fetcher) : Fetcher → Prop where
  | refl : Becomes tokens fetcher fetcher
  | send {later : Fetcher} (h : Becomes tokens fetcher later) (request : Request) :
      Becomes tokens fetcher (later.send request).2
  | setToken {later : Fetcher} (h : Becomes tokens fetcher later) {token : Option String}
      (htoken : tokens token) : Becomes tokens fetcher (later.setToken token).2

/-- Each request has one reply, whatever was sent and whichever of some tokens were set
before. -/
def Fixed (answer : Request → Reply) (tokens : Option String → Prop) (fetcher : Fetcher) :
    Prop :=
  ∀ later, fetcher.Becomes tokens later → later.replies answer = fetcher.replies answer

variable {answer : Request → Reply} {tokens : Option String → Prop} {fetcher : Fetcher}

theorem setToken_overHttp (token : Option String) :
    (fetcher.setToken token).2.overHttp = fetcher.overHttp := by
  unfold setToken
  dsimp only
  split <;> rfl

theorem Becomes.overHttp {later : Fetcher} (h : fetcher.Becomes tokens later) :
    later.overHttp = fetcher.overHttp := by
  induction h with
  | refl => rfl
  | send _ request ih => exact (send_overHttp _ request).trans ih
  | setToken _ _ ih => exact (setToken_overHttp _).trans ih

/-- A fetcher that hands its requests to data in memory gives the replies of the data. -/
theorem fixed_of_memory (hmemory : fetcher.overHttp = false) : fetcher.Fixed answer tokens := by
  have hanswer : ∀ later : Fetcher, later.overHttp = false → later.replies answer = answer := by
    intro later hlater
    funext request
    rw [replies, send_fault, hlater]
    rfl
  intro later hbecomes
  rw [hanswer later (hbecomes.overHttp.trans hmemory), hanswer fetcher hmemory]

/-- A connection was open, or it is opened for the token that there is. -/
theorem connect_eq_ok {connection : Connection} (h : fetcher.connect = .ok connection) :
    fetcher.connection = some connection ∨
      fetcher.connection = none ∧
        (Url.base fetcher.apiUrl.toList).mapError FetchFault.url = .ok connection.base ∧
        connection.authorization = authorization fetcher.token := by
  cases hopen : fetcher.connection with
  | some opened =>
      rw [connect, hopen] at h
      exact .inl (congrArg some (Except.ok.inj h))
  | none =>
      simp only [connect, hopen] at h
      cases hbase : (Url.base fetcher.apiUrl.toList).mapError FetchFault.url with
      | error fault =>
          rw [hbase] at h
          cases h
      | ok base =>
          rw [hbase] at h
          simp only [bind, Except.bind] at h
          split at h
          · cases h
          · obtain rfl := Except.ok.inj h
            exact .inr ⟨rfl, rfl, rfl⟩

/-- A new token that is ASCII leaves the address of the host as it is. -/
theorem setToken_connect {token : Option String}
    (htoken : Text.asciiError? ((authorization (usableToken token)).getD "").toList = none)
    {connection : Connection} (hconnect : fetcher.connect = .ok connection) :
    ∃ other, (fetcher.setToken token).2.connect = .ok other ∧ other.base = connection.base := by
  rcases connect_eq_ok hconnect with hopen | ⟨hopen, hbase, -⟩
  · simp only [setToken, hopen, htoken, connect]
    exact ⟨_, rfl, rfl⟩
  · simp only [setToken, hopen, htoken, connect, hbase, bind, Except.bind]
    exact ⟨_, rfl, rfl⟩

/-- A fetcher that has a connection to its host, or can open one, gives the replies of
the host as long as only ASCII tokens are set. -/
theorem fixed_of_connect {connection : Connection} (hconnect : fetcher.connect = .ok connection)
    (htokens : ∀ token, tokens token →
      Text.asciiError? ((authorization (usableToken token)).getD "").toList = none) :
    fetcher.Fixed answer tokens := by
  have hbecomes : ∀ later, fetcher.Becomes tokens later →
      ∃ other, later.connect = .ok other ∧ other.base = connection.base := by
    intro later h
    induction h with
    | refl => exact ⟨connection, hconnect, rfl⟩
    | send _ request ih => exact (send_connect _ request).symm ▸ ih
    | setToken _ htoken ih =>
        obtain ⟨other, hother, hbase⟩ := ih
        obtain ⟨next, hnext, hsame⟩ := setToken_connect (htokens _ htoken) hother
        exact ⟨next, hnext, hsame.trans hbase⟩
  intro later h
  obtain ⟨other, hother, hbase⟩ := hbecomes later h
  funext request
  rw [replies, replies, send_fault, send_fault, h.overHttp, hother, hconnect]
  simp only [hbase]

end Fetcher

/-- The fetcher sends the request, and its reply is awaited if it was sent. -/
theorem Registry.ask_eq (request : Request) (registry : Registry) :
    ask request registry =
      (match (registry.fetcher.send request).1 with
        | some fault => return .error fault
        | none => Action.ask request : Action Registry Reply)
          { registry with fetcher := (registry.fetcher.send request).2 } := rfl

/-! ## What outlasts reading -/

/-- What is true of the registry stays so when a client's index is read: when a request is
sent, when the client is changed in anything but its token, and when a notice is given. -/
structure Registry.Stable (handle : Handle) (state : Registry → Prop) : Prop where
  send : ∀ (registry : Registry) (request : Request), state registry →
    state { registry with fetcher := (registry.fetcher.send request).2 }
  update : ∀ (registry : Registry) (change : Client → Client),
    (∀ client, (change client).token = client.token) → state registry →
      state (registry.update handle change)
  notifier : ∀ (registry : Registry) (notifier : Notifier Float), state registry →
    state { registry with notifier }

namespace Instant

open Registry (Stable)

variable {agreement : Agreement Registry} {handle : Handle}

theorem keeps_stable_ofShape {α : Type} (value : Except Json.ShapeError α) :
    Keeps agreement (fun _ => True) (fun _ => True) (Read.ofShape value) := by
  cases value with
  | ok value => exact keeps_pure trivial
  | error error => exact keeps_throw trivial

variable (hstable : Stable handle agreement.state)

include hstable

theorem keeps_stable_update {ε : Type} {failure : ε → Prop} {change : Client → Client}
    (htoken : ∀ client, (change client).token = client.token) :
    Keeps agreement (fun _ => True) failure
      (modify (·.update handle change) : ExceptT ε (Action Registry) PUnit) :=
  keeps_modify fun registry hregistry => hstable.update registry change htoken hregistry

/-- What was read may be kept. -/
theorem keeps_stable_updateCache {ε : Type} {failure : ε → Prop} (change : Cache → Cache) :
    Keeps agreement (fun _ => True) failure
      (modify (·.updateCache handle change) : ExceptT ε (Action Registry) PUnit) :=
  keeps_stable_update hstable fun _ => rfl

theorem keeps_stable_notify (message : String) :
    Keeps agreement (fun _ => True) (· = .noCooldown) (Lookup.notify message) := by
  intro registry hregistry
  rw [Fallible.run_notify]
  cases registry.notifier.notify message with
  | none => exact ⟨hregistry, rfl⟩
  | some next => exact ⟨hstable.notifier registry next.1 hregistry, trivial⟩

theorem keeps_stable_attempt {α : Type} {read : Read α}
    (hread : Keeps agreement (fun _ => True) (fun _ => True) read) :
    Keeps agreement (fun _ => True) (· = .noCooldown) (Lookup.attempt handle read) := by
  refine (keeps_lift hread).bind fun ended _ => ?_
  cases ended with
  | ok value => exact keeps_pure trivial
  | error error =>
      refine (keeps_stable_update hstable ?_).bind fun _ _ =>
        (keeps_stable_notify hstable _).bind fun _ _ => keeps_pure trivial
      exact fun _ => rfl

theorem keeps_stable_ask (request : Request) :
    (Registry.ask request).Keeps agreement fun _ => True := by
  intro registry hregistry
  have hsent := hstable.send registry request hregistry
  rw [Registry.ask_eq]
  cases (registry.fetcher.send request).1 with
  | none => exact ⟨hsent, fun later reply hlater _ => ⟨hlater, trivial⟩⟩
  | some fault => exact ⟨hsent, trivial⟩

theorem keeps_stable_payload (kind : RequestKind) (id : Json) :
    Keeps agreement (fun _ => True) (fun _ => True) (Read.payload handle kind id) := by
  refine (keeps_lift (keeps_stable_ask hstable (handle.request kind id))).bind fun reply _ => ?_
  cases reply with
  | error fault => exact keeps_throw trivial
  | ok result =>
      dsimp only
      split
      · exact keeps_pure trivial
      · exact keeps_throw trivial

theorem keeps_stable_tree (id : Json) :
    Keeps agreement (fun _ => True) (fun _ => True) (Read.tree handle id) :=
  (keeps_stable_payload hstable .tree id).bind fun _ _ =>
    (keeps_stable_ofShape _).bind fun _ _ => keeps_pure trivial

theorem keeps_stable_root :
    Keeps agreement (fun _ => True) (fun _ => True) (Read.root handle) := by
  refine keeps_get.bind fun registry _ => ?_
  cases (registry.client handle).cache.root with
  | some root => exact keeps_pure trivial
  | none =>
      refine ((keeps_stable_tree hstable _).rethrow _).bind fun entries _ => ?_
      refine (keeps_stable_ofShape _).bind fun root _ => ?_
      exact (keeps_stable_updateCache hstable _).bind fun _ _ => keeps_pure trivial

theorem keeps_stable_author (name : String) :
    Keeps agreement (fun _ => True) (fun _ => True) (Read.author handle name) := by
  refine keeps_get.bind fun registry _ => ?_
  cases (registry.client handle).cache.authors.get? (Text.lower name) with
  | some author => exact keeps_pure trivial
  | none =>
      refine (keeps_stable_root hstable).bind fun root _ => ?_
      cases root.idOf? (Text.lower name) with
      | none => exact keeps_pure trivial
      | some id =>
          refine (keeps_stable_tree hstable id).bind fun entries _ => ?_
          refine (keeps_stable_ofShape _).bind fun author _ => ?_
          exact (keeps_stable_updateCache hstable _).bind fun _ _ => keeps_pure trivial

theorem keeps_stable_package (author name : String) :
    Keeps agreement (fun _ => True) (fun _ => True) (Read.package handle author name) := by
  refine keeps_get.bind fun registry _ => ?_
  cases (registry.client handle).cache.packages.get? (Text.lower author, Text.lower name) with
  | some package => exact keeps_pure trivial
  | none =>
      refine (keeps_stable_author hstable _).bind fun found _ => ?_
      cases found.bind (·.idOf? (Text.lower name)) with
      | none => exact keeps_pure trivial
      | some id =>
          refine (keeps_stable_payload hstable .blob id).bind fun payload _ => ?_
          have htext : Keeps agreement (fun _ => True) (fun _ => True)
              (Read.historyText payload) := by
            cases payload with
            | string text => exact keeps_pure trivial
            | _ => exact keeps_throw trivial
          refine htext.bind fun text _ => ?_
          exact (keeps_stable_updateCache hstable _).bind fun _ _ => keeps_pure trivial

theorem keeps_stable_config :
    Keeps agreement (fun _ => True) (fun _ => True) (Read.config handle) := by
  refine keeps_get.bind fun registry _ => ?_
  cases (registry.client handle).cache.config with
  | some config => exact keeps_pure trivial
  | none =>
      refine (keeps_stable_root hstable).bind fun root _ => ?_
      cases root.config with
      | none => exact keeps_pure trivial
      | some entry =>
          refine (keeps_stable_payload hstable .blob entry.id).bind fun payload _ => ?_
          have hdocument : Keeps agreement (fun _ => True) (fun _ => True)
              (Read.configDocument handle payload) := by
            unfold Read.configDocument
            split
            · split
              · exact keeps_pure trivial
              · exact keeps_throw trivial
              · exact keeps_throw trivial
            · exact keeps_throw trivial
          refine hdocument.bind fun document _ => (keeps_stable_ofShape _).bind fun config _ => ?_
          exact (keeps_stable_updateCache hstable _).bind fun _ _ => keeps_pure trivial

/-- Whether an index can be reached is found out by reading its root. -/
theorem keeps_stable_reachable :
    Keeps agreement (fun _ => True) (· = .noCooldown) (Lookup.reachable handle) := by
  refine (keeps_stable_attempt hstable (keeps_stable_root hstable)).bind fun found _ => ?_
  cases found with
  | some root => exact keeps_pure trivial
  | none => exact keeps_get.bind fun _ _ => keeps_pure trivial

end Instant

/-! ## What lookups keep of the fetcher -/

/-- Something is true of the fetcher. -/
def Registry.sending (state : Fetcher → Prop) : Agreement Registry where
  state registry := state registry.fetcher
  reply _ _ := True

open Instant in
/-- **The fetcher.**  Whatever is true of the fetcher, and stays so when a request is
sent, is left true by lookups. -/
theorem Lookup.Browses.keeps_sending {state : Fetcher → Prop}
    (hsend : ∀ fetcher request, state fetcher → state (fetcher.send request).2)
    {refusal : Version.NotANumber → Prop} {α : Type} {lookup : Lookup α}
    (h : Lookup.Browses refusal lookup) :
    Keeps (Registry.sending state) (fun _ => True) (fun _ => True) lookup := by
  have hstable (handle : Handle) : Registry.Stable handle (Registry.sending state).state :=
    ⟨fun registry request => hsend registry.fetcher request, fun _ _ _ hstate => hstate,
      fun _ _ hstate => hstate⟩
  have hattempt (handle : Handle) {α : Type} {read : Read α}
      (hread : Keeps (Registry.sending state) (fun _ => True) (fun _ => True) read) :
      Keeps (Registry.sending state) (fun _ => True) (fun _ => True)
        (Lookup.attempt handle read) :=
    (keeps_stable_attempt (hstable handle) hread).weaken fun _ _ => trivial
  induction h with
  | pure value => exact keeps_pure trivial
  | bind hfirst hnext hkeeps hlater => exact hkeeps.bind fun value _ => hlater value
  | root handle => exact hattempt handle (keeps_stable_root (hstable handle))
  | author handle name => exact hattempt handle (keeps_stable_author (hstable handle) name)
  | package handle author name =>
      exact hattempt handle (keeps_stable_package (hstable handle) author name)
  | config handle => exact hattempt handle (keeps_stable_config (hstable handle))
  | reachable handle =>
      exact (keeps_stable_reachable (hstable handle)).weaken fun _ _ => trivial
  | find? url =>
      refine keeps_modifyGet fun registry hstate => ⟨?_, trivial⟩
      have hsame : state (registry.find? url).2.fetcher :=
        (registry.find?_fetcher url).symm ▸ hstate
      exact hsame
  | @ofVersions _ value _ =>
      cases value with
      | ok value => exact keeps_pure trivial
      | error error => exact keeps_throw trivial

end ManifestLint
