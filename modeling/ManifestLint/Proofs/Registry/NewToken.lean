import ManifestLint.Proofs.Registry.FirstCall
import ManifestLint.Proofs.Registry.OneToken

/-!
# Another token for a store

A token is ordered from the store or from one of its clients.  If it is another one, the store
notes it, gives it to the fetcher, and tells its clients one after the other; each of them
forgets what it has in its cache.  So all have the new token in the end, and nothing is cached
that was asked for with the old one.

An open connection does not take every token, though.  It can be shown to the host only if it
is ASCII; if it is not, the order ends in a fault when the store has noted the token already,
and no client is told.

* `Instant.spread_forM`, `holds_forM_tokenChanged`: what becomes of clients that are told.
* `Instant.outcome_setStoreToken`: what becomes of an order.
* `StoreUse.one_token_unless_refused`: whatever a store is used for.
* `token_refused`: a token that the connection does not take.
-/

namespace ManifestLint

namespace Instant

open Registry (spreading stable_spread)

variable {world : World Registry} {token : Option String} {handle : Handle}
  {handles told : List Handle}

/-! ## Telling clients -/

theorem keeps_spreading_tokenChanged (hmem : handle ∈ handles)
    (husable : usableToken token = token) :
    Keeps (spreading token handles []) (fun _ => True) (· = .noCooldown)
      (Lookup.tokenChanged handle token) := by
  have hnote : Keeps (spreading token handles []) (fun _ => True) (· = .noCooldown)
      (modify (·.update handle fun client => { client with token := usableToken token }) :
        Lookup PUnit) := by
    refine keeps_modify fun registry hspread => ?_
    rw [husable]
    exact (hspread.tell hmem).weaken (List.nil_subset _)
  exact hnote.bind fun _ _ => keeps_spreading_invalidate hmem

/-- Clients that are told one after the other have the token in the end, if all were told. -/
theorem spread_forM (hworld : world.Quiet) (husable : usableToken token = token)
    {instant : Instant Registry} {rest : List Handle} (hrest : rest ⊆ handles)
    (hspread : instant.state.Spread token handles told) {value : PUnit}
    (hended : instant.ended world (rest.forM (Lookup.tokenChanged · token)) = .ok value) :
    (instant.after world (rest.forM (Lookup.tokenChanged · token))).state.Spread token handles
      (rest ++ told) := by
  induction rest generalizing instant told with
  | nil => exact hspread
  | cons handle rest ih =>
      obtain ⟨hmem, hmore⟩ := List.cons_subset.mp hrest
      have hsplit : (handle :: rest).forM (Lookup.tokenChanged · token) =
          Lookup.tokenChanged handle token >>= fun _ => rest.forM (Lookup.tokenChanged · token) :=
        rfl
      let noted : Instant Registry := { instant with
        state := instant.state.update handle fun client => { client with token } }
      have hnoted : noted.state.Spread token handles (handle :: told) := hspread.tell hmem
      have hfirst : (instant.after world (Lookup.tokenChanged handle token)) =
          noted.after world (Lookup.invalidate handle) := by
        rw [Lookup.tokenChanged, husable]
        rfl
      rw [hsplit, ended_bind] at hended
      rw [hsplit, after_bind]
      cases htold : instant.ended world (Lookup.tokenChanged handle token) with
      | error fault =>
          rw [htold] at hended
          cases hended
      | ok value =>
          rw [htold] at hended
          have hkept : (instant.after world (Lookup.tokenChanged handle token)).state.Spread token
              handles (handle :: told) := by
            rw [hfirst]
            exact (keeps_spreading_invalidate hmem).after (hworld.keeps_spreading ..) hnoted
          refine (ih hmore hkept hended).weaken fun other hother => ?_
          simpa [or_left_comm] using hother

end Instant

/-! ## Where cached items come from -/

/-- Whoever keeps an agreement keeps it at every wait. -/
theorem Program.Keeps.exchanges {σ α : Type} {agreement : Agreement σ} {result : α → Prop}
    {program : Program σ α} {world : World σ} (h : program.Keeps agreement result)
    (hworld : world.Keeps agreement) (waits : Nat) :
    ∀ exchange ∈ program.exchanges world waits, agreement.state exchange.state := by
  induction program generalizing waits with
  | done state value => nofun
  | waiting state request resume ih =>
      have hresume := h.2 _ _ (hworld.others waits state h.1) (hworld.reply waits request)
      exact List.forall_mem_cons.mpr ⟨h.1, ih _ _ hresume (waits + 1)⟩

/-- Who adds nothing but what was just heard adds nothing but what its own requests show. -/
theorem Program.Obeys.holds_play {α : Type} {program : Program Registry α}
    {kind : Hearing → α → Prop} {heard : Hearing} {start : Registry} {world : World Registry}
    (h : program.Obeys Registry.hearsay kind heard start) (hworld : world.Quiet) {waits : Nat}
    {handle : Handle} {item : Item}
    (hholds : (program.play world waits).2.state.Holds handle item) :
    (start.Holds handle item ∨
      ∃ request reply, heard = some (request, reply) ∧ item.ShownBy handle request reply) ∨
    ∃ exchange ∈ program.exchanges world waits,
      item.ShownBy handle exchange.request exchange.reply := by
  induction program generalizing heard start waits with
  | done state value => exact .inl (h.1.1 handle item hholds)
  | waiting state request resume ih =>
      rcases ih _ _ (h.2 _ _) hholds with (hlater | hshown) | ⟨exchange, hmem, hshown⟩
      · obtain ⟨seconds, hothers⟩ := hworld waits state
        rw [hothers] at hlater
        exact .inl (h.1.1 handle item hlater)
      · obtain ⟨_, _, hheard, hshown⟩ := hshown
        obtain ⟨rfl, rfl⟩ := Prod.mk.inj (Option.some.inj hheard)
        exact .inr ⟨_, List.mem_cons_self, hshown⟩
      · exact .inr ⟨exchange, List.mem_cons_of_mem _ hmem, hshown⟩

namespace Instant

open Registry (hearsay)

variable {world : World Registry} {token : Option String} {handle : Handle} {item : Item}
  {instant : Instant Registry}

theorem holds_after (hworld : world.Quiet) {α : Type} {lookup : Lookup α}
    (h : Fallible.Obeys hearsay (fun _ => True) (fun _ _ => True) lookup)
    (hholds : (instant.after world lookup).state.Holds handle item) :
    instant.state.Holds handle item ∨
      ∃ exchange ∈ instant.exchanges world lookup,
        item.ShownBy handle exchange.request exchange.reply := by
  rcases (h none instant.state trivial).holds_play hworld hholds with
    (hbefore | ⟨_, _, hnone, -⟩) | hexchange
  · exact .inl hbefore
  · cases hnone
  · exact .inr hexchange

/-- What a client has in its cache after it was told of a token was asked for since. -/
theorem holds_tokenChanged (hworld : world.Quiet)
    (hholds : (instant.after world (Lookup.tokenChanged handle token)).state.Holds handle item) :
    ∃ exchange ∈ instant.exchanges world (Lookup.tokenChanged handle token),
      item.ShownBy handle exchange.request exchange.reply := by
  let note (client : Client) : Client := { client with token := usableToken token }
  let clear (client : Client) : Client := { client with cache := {} }
  let cleared : Instant Registry :=
    { instant with state := (instant.state.update handle note).update handle clear }
  have hread : Fallible.Obeys hearsay (fun _ => True) (fun _ _ => True)
      (Lookup.config handle >>= fun _ => pure ()) :=
    (Fallible.obeys_readConfig handle).bind fun _ => Fallible.obeys_pure fun _ _ => trivial
  have hlater : (cleared.after world
      (Lookup.config handle >>= fun _ => pure ())).state.Holds handle item := hholds
  refine (holds_after hworld hread hlater).resolve_left fun hold => ?_
  have hempty : (cleared.state.client handle).cache = {} := by
    rw [Registry.client_update, if_pos rfl]
  rw [Registry.Holds, hempty] at hold
  cases item <;> cases hold

/-- The same of all clients that were told one after the other, if all were told. -/
theorem holds_forM_tokenChanged (hworld : world.Quiet) {handles : List Handle} {value : PUnit}
    (hended : instant.ended world (handles.forM (Lookup.tokenChanged · token)) = .ok value)
    (hmem : handle ∈ handles)
    (hholds : (instant.after world
      (handles.forM (Lookup.tokenChanged · token))).state.Holds handle item) :
    ∃ exchange ∈ instant.exchanges world (handles.forM (Lookup.tokenChanged · token)),
      item.ShownBy handle exchange.request exchange.reply := by
  induction handles generalizing instant with
  | nil => cases hmem
  | cons first rest ih =>
      have hsplit : (first :: rest).forM (Lookup.tokenChanged · token) =
          Lookup.tokenChanged first token >>= fun _ => rest.forM (Lookup.tokenChanged · token) :=
        rfl
      rw [hsplit, ended_bind] at hended
      rw [hsplit, after_bind] at hholds
      rw [hsplit, exchanges_bind]
      cases htold : instant.ended world (Lookup.tokenChanged first token) with
      | error fault =>
          rw [htold] at hended
          cases hended
      | ok value =>
          rw [htold] at hended hholds
          have hobeys : Fallible.Obeys hearsay (fun _ => True) (fun _ _ => True)
              (rest.forM (Lookup.tokenChanged · token)) :=
            Fallible.obeys_forM rest fun other => Fallible.obeys_tokenChanged other token
          -- What the first client holds was heard when it was told, or later when others were.
          have hsince : handle = first ∨ handle ∈ rest := List.mem_cons.mp hmem
          rcases hsince with rfl | hrest
          · rcases holds_after hworld hobeys hholds with hold | ⟨exchange, hlate, hshown⟩
            · obtain ⟨exchange, hearly, hshown⟩ := holds_tokenChanged hworld hold
              exact ⟨exchange, List.mem_append_left _ hearly, hshown⟩
            · exact ⟨exchange, List.mem_append_right _ hlate, hshown⟩
          · obtain ⟨exchange, hlate, hshown⟩ := ih hended hrest hholds
            exact ⟨exchange, List.mem_append_right _ hlate, hshown⟩

end Instant

/-! ## Orders -/

/-- The registry after the store and its fetcher were given a token. -/
def Registry.given (registry : Registry) (token : Option String) : Registry :=
  { registry with token, fetcher := (registry.fetcher.setToken token).2 }

/-- What becomes of an order to use a token: of the registry, given what was asked for on the
way, and what the order ends with. -/
inductive OrderOutcome (token : Option String) (before after : Registry)
    (exchanges : List (Exchange Registry)) : Except Fault Answer → Prop where
  /-- The store has the token already: nothing is asked for, and nothing is forgotten. -/
  | same (hsame : token = before.token) (hidle : exchanges = [])
      (hholds : ∀ handle item, after.Holds handle item ↔ before.Holds handle item)
      (hone : ∀ other, before.OneToken other → after.OneToken other) :
      OrderOutcome token before after exchanges (.ok (.flag false))
  /-- The token is another one: all have it, and what is cached was asked for with it. -/
  | changed (hother : token ≠ before.token) (htaken : (before.fetcher.setToken token).1 = none)
      (hone : after.OneToken token)
      (hfresh : ∀ handle ∈ after.shared, ∀ item, after.Holds handle item →
        ∃ exchange ∈ exchanges, item.ShownBy handle exchange.request exchange.reply ∧
          exchange.state.fetcher.Shows token) :
      OrderOutcome token before after exchanges (.ok (.flag true))
  /-- The connection does not take the token: the store has it, and no client was told. -/
  | refused {fault : FetchFault} (hother : token ≠ before.token)
      (hrefused : (before.fetcher.setToken token).1 = some fault) (hidle : exchanges = [])
      (hholds : ∀ handle item, after.Holds handle item ↔ before.Holds handle item)
      (hstore : after.token = token ∧ after.fetcher.token = token)
      (hclients : ∀ handle ∈ before.shared,
        (after.client handle).token = (before.client handle).token)
      (hnone : ∀ other, ¬ after.OneToken other) :
      OrderOutcome token before after exchanges (.error (.fetch fault))
  /-- A notice could not be held against the cooldown, before all clients were told. -/
  | noCooldown (hother : token ≠ before.token)
      (htaken : (before.fetcher.setToken token).1 = none)
      (hcooldown : before.notifier.cooldown = none) :
      OrderOutcome token before after exchanges (.error .noCooldown)

/-- It makes no difference if the client that is given the order was opened for it. -/
theorem OrderOutcome.of_opened {token : Option String} {before after : Registry}
    {exchanges : List (Exchange Registry)} {ended : Except Fault Answer} {address : Address}
    (h : OrderOutcome token (before.opened address) after exchanges ended) :
    OrderOutcome token before after exchanges ended := by
  obtain ⟨htoken, hfetcher, hnotifier⟩ := before.opened_shared_state address
  have hitems : ∀ handle item,
      (before.opened address).Holds handle item ↔ before.Holds handle item := by
    intro handle item
    rw [Registry.Holds, Registry.cache_opened, Registry.Holds]
  cases h with
  | same hsame hidle hholds hone =>
      refine .same (hsame.trans htoken) hidle ?_ fun other hbefore => hone other (hbefore.opened _)
      exact fun handle item => (hholds handle item).trans (hitems handle item)
  | changed hother htaken hone hfresh =>
      exact .changed (htoken ▸ hother) (hfetcher ▸ htaken) hone hfresh
  | refused hother hrefused hidle hholds hstore hclients hnone =>
      refine .refused (htoken ▸ hother) (hfetcher ▸ hrefused) hidle ?_ hstore ?_ hnone
      · exact fun handle item => (hholds handle item).trans (hitems handle item)
      · intro handle hmem
        rw [hclients handle (Registry.mem_shared_opened.mpr (.inl hmem)),
          Registry.client_opened hmem]
  | noCooldown hother htaken hcooldown =>
      exact .noCooldown (htoken ▸ hother) (hfetcher ▸ htaken) (hnotifier ▸ hcooldown)

namespace Instant

variable {world : World Registry}

/-- The store notes the token first, then gives it to the fetcher, and then tells the clients. -/
theorem run_setStoreToken (token : Option String) (registry : Registry) :
    (Errand.setStoreToken token).lookup.run registry =
      if usableToken token = registry.token then .done registry (.ok (.flag false))
      else
        match (registry.fetcher.setToken (usableToken token)).1 with
        | some fault => .done (registry.given (usableToken token)) (.error (.fetch fault))
        | none =>
          (do
            registry.shared.forM (Lookup.tokenChanged · (usableToken token))
            return .flag true : Lookup Answer).run (registry.given (usableToken token)) := by
  let usable := usableToken token
  let tell : Lookup Answer := do
    (← get).shared.forM (Lookup.tokenChanged · usable)
    return .flag true
  have hrun : (Errand.setStoreToken token).lookup.run registry =
      ((if usable = registry.token then pure false else do
        modify fun registry => { registry with token := usable }
        Lookup.setFetcherToken usable
        (← get).shared.forM (Lookup.tokenChanged · usable)
        return true) >>= fun changed => pure (.flag changed) : Lookup Answer).run registry := rfl
  rw [hrun]
  split
  · rfl
  · have hgiven : ((do
          modify fun registry => { registry with token := usable }
          Lookup.setFetcherToken usable
          (← get).shared.forM (Lookup.tokenChanged · usable)
          return true) >>= fun changed => pure (.flag changed) : Lookup Answer).run registry =
        (((Lookup.setFetcherToken usable).run { registry with token := usable }).bind
          (ExceptT.bindCont fun _ => tell)) := by
      simp only [bind_assoc, pure_bind]
      rfl
    rw [hgiven, run_setFetcherToken]
    dsimp only
    cases (registry.fetcher.setToken usable).1 <;> rfl

/-- With a cooldown, a client can be told in any case. -/
theorem keeps_cooling_tokenChanged (handle : Handle) (token : Option String) :
    Keeps Registry.cooling (fun _ => True) (fun _ => False) (Lookup.tokenChanged handle token) := by
  have hconfig : Keeps Registry.cooling (fun _ => True) (fun _ => False)
      (Lookup.config handle) := by
    have hbrowses : Lookup.Browses (fun _ => False) (Lookup.config handle) :=
      Lookup.browses_config handle
    refine (keeps_cooling_browses hbrowses).weaken ?_
    rintro fault ⟨error, hnever, -⟩
    exact hnever
  refine (keeps_modify ?_).bind fun _ _ => (keeps_modify ?_).bind fun _ _ =>
    hconfig.bind fun _ _ => keeps_pure trivial
  · exact fun _ hcooling => hcooling
  · exact fun _ hcooling => hcooling

/-- **Orders.**  Whatever the registry is, and whatever has become of the token before, an order
to use a token ends in one of the ways that there are. -/
theorem outcome_setStoreToken (hworld : world.Quiet) (token : Option String)
    (before : Instant Registry) :
    OrderOutcome (usableToken token) before.state
      (before.after world (Errand.setStoreToken token).lookup).state
      (before.exchanges world (Errand.setStoreToken token).lookup)
      (before.ended world (Errand.setStoreToken token).lookup) := by
  let usable := usableToken token
  have husable : usableToken usable = usable := usableToken_usableToken token
  unfold Instant.after Instant.ended Instant.exchanges Action.play
  rw [run_setStoreToken]
  by_cases hsame : usable = before.state.token
  · rw [if_pos hsame]
    exact .same hsame rfl (fun _ _ => .rfl) fun _ hone => hone
  · rw [if_neg hsame]
    cases hset : (before.state.fetcher.setToken usable).1 with
    | some fault =>
        refine .refused hsame hset rfl (fun _ _ => .rfl) ⟨rfl, ?_⟩ (fun _ _ => rfl) ?_
        · exact (Fetcher.token_setToken ..).trans husable
        · exact fun other hone => Fetcher.not_shows_setToken hset other hone.spread.fetcher
    | none =>
        -- From here on the fetcher shows the new token, and the clients are told.
        let given : Instant Registry := { before with state := before.state.given usable }
        let handles := before.state.shared
        let tell : Lookup PUnit := handles.forM (Lookup.tokenChanged · usable)
        have hgiven : given.state.Spread usable handles [] := by
          refine ⟨?_, rfl, rfl, nofun⟩
          have hshows := Fetcher.shows_setToken hset
          rwa [husable] at hshows
        have hkeeps : Keeps (Registry.spreading usable handles []) (fun _ => True)
            (· = .noCooldown) tell :=
          keeps_forM fun handle hmem => keeps_spreading_tokenChanged hmem husable
        let order : Lookup Answer := tell >>= fun _ => pure (.flag true)
        suffices houtcome : OrderOutcome usable before.state (given.after world order).state
            (given.exchanges world order) (given.ended world order) from houtcome
        rw [after_bind, exchanges_bind, ended_bind]
        cases hended : given.ended world tell with
        | ok value =>
            refine .changed hsame hset ?_ fun handle hmem item hholds => ?_
            · have hspread := spread_forM hworld husable (List.Subset.refl handles) hgiven hended
              exact (hspread.weaken (List.subset_append_left handles [])).oneToken husable
            · have hknown : handle ∈ handles := by
                have hshared := (hkeeps.after (hworld.keeps_spreading ..) hgiven).shared
                exact hshared ▸ hmem
              obtain ⟨exchange, hexchange, hshown⟩ :=
                holds_forM_tokenChanged hworld hended hknown hholds
              have hspread := (hkeeps given.state hgiven).exchanges
                (hworld.keeps_spreading ..) given.waits exchange hexchange
              exact ⟨exchange, List.mem_append_left _ hexchange, hshown, hspread.fetcher⟩
        | error fault =>
            have hfault : fault = .noCooldown :=
              (hkeeps.ended (hworld.keeps_spreading ..) hgiven).of_error hended
            subst hfault
            refine .noCooldown hsame hset ?_
            cases hcooldown : before.state.notifier.cooldown with
            | none => rfl
            | some cooldown =>
                have hcooling : Registry.cooling.state given.state := by
                  rw [Registry.cooling]
                  exact congrArg Option.isSome hcooldown
                have hnever : Keeps Registry.cooling (fun _ => True) (fun _ => False) tell :=
                  keeps_forM fun handle _ => keeps_cooling_tokenChanged handle usable
                exact ((hnever.ended hworld.keeps_cooling hcooling).of_error hended).elim

end Instant

/-! ## Whatever a store is used for -/

/-- What a store is used for: someone gets its client for a URL, or calls it. -/
inductive StoreUse where
  | find (url : String)
  | call (asked : StoreCall)

namespace StoreUse

/-- The lookup that does it. -/
def lookup : StoreUse → Lookup Answer
  | find url => do return .ofOption .client (← Lookup.find? url)
  | call asked => asked.lookup

/-- The token that is ordered to be used, if that is what the store is used for. -/
def newToken? : StoreUse → Option (Option String)
  | find _ => none
  | call asked => asked.newToken?

/-- No client is told of a token that the fetcher does not have: that is the store's to do. -/
def Proper : StoreUse → Prop
  | call (.query _ (.tokenChanged _)) => False
  | _ => True

/-- Whoever is meant is there: the store itself, or the client for a URL. -/
def HasIndex : StoreUse → Prop
  | find url => (Handle.find? url).isSome = true
  | call (.query url _) => (Handle.find? url).isSome = true
  | call _ => True

variable {world : World Registry} {token : Option String}

open Instant

/-- What is no order leaves the one token where it is, however it ends. -/
theorem honors (hworld : world.Quiet) {use : StoreUse} (hproper : use.Proper)
    (horder : use.newToken? = none) : Honors world token [] use.lookup fun _ => [] := by
  cases use with
  | find url => exact (honors_find? url).bind fun _ => honors_pure (List.nil_subset _)
  | call asked =>
      cases asked with
      | query url query =>
          have hlookup (hquery : query.IsLookup) :
              Honors world token [] (StoreCall.query url query).lookup fun _ => [] :=
            (honors_require url).bind fun handle => honors_query hworld hquery
          cases query with
          | invalidate =>
              exact (honors_require url).bind fun handle =>
                (honors_invalidate hworld).bind fun _ => honors_pure (List.nil_subset _)
          | setToken token => cases horder
          | tokenChanged token => exact hproper.elim
          | _ => exact hlookup trivial
      | setToken token => cases horder
      | invalidateAll =>
          exact (honors_invalidateAll hworld).bind fun _ => honors_pure (List.nil_subset _)

/-- Something is asked of the client for a URL, if there is one. -/
theorem run_query (url : String) (query : Query) (registry : Registry) :
    (StoreCall.query url query).lookup.run registry =
      match (registry.find? url).1 with
      | some handle => (query.run handle).run (registry.find? url).2
      | none => .done (registry.find? url).2 (.error (.address (.unsupported url))) := by
  change (Lookup.require url >>= query.run : Lookup Answer).run registry = _
  rcases hfound : registry.find? url with ⟨found, after⟩
  have hfind : (Lookup.find? url).run registry = .done after (.ok found) := by
    change Program.done (registry.find? url).2 (Except.ok (registry.find? url).1) = _
    rw [hfound]
  rw [Lookup.require, bind_assoc, ExceptT.run_bind]
  change Program.bind ((Lookup.find? url).run registry) _ = _
  rw [hfind]
  cases found <;> rfl

/-- An order that is given to a client is the store's, as soon as the client is found. -/
theorem run_setToken (url : String) (token : Option String) (registry : Registry) :
    (StoreCall.query url (.setToken token)).lookup.run registry =
      match Address.parse url with
      | .ok address => (Errand.setStoreToken token).lookup.run (registry.opened address)
      | .error _ => .done registry (.error (.address (.unsupported url))) := by
  rw [run_query, Registry.find?]
  cases Address.parse url <;> rfl

/-- Every order to use a token ends in one of the ways that there are, whoever it is given to. -/
theorem outcome (hworld : world.Quiet) (before : Instant Registry) {use : StoreUse}
    (horder : use.newToken? = some token) (hindex : use.HasIndex) :
    OrderOutcome token before.state (before.after world use.lookup).state
      (before.exchanges world use.lookup) (before.ended world use.lookup) := by
  cases use with
  | find url => cases horder
  | call asked =>
      cases asked with
      | query url query =>
          cases query with
          | setToken token =>
              obtain rfl := Option.some.inj horder
              have hfound : (Handle.find? url).isSome = true := hindex
              unfold Handle.find? at hfound
              unfold Instant.after Instant.ended Instant.exchanges Action.play lookup
              simp only [run_setToken]
              cases hparse : Address.parse url with
              | error error =>
                  rw [hparse] at hfound
                  cases hfound
              | ok address =>
                  let opened : Instant Registry :=
                    { before with state := before.state.opened address }
                  exact (outcome_setStoreToken hworld token opened).of_opened
          | _ => cases horder
      | setToken token =>
          obtain rfl := Option.some.inj horder
          exact outcome_setStoreToken hworld token before
      | invalidateAll => cases horder

/-- An order that is meant for the client of a URL that is no index does nothing. -/
theorem unsupported (before : Instant Registry) {use : StoreUse}
    (horder : use.newToken? = some token) (hindex : ¬ use.HasIndex) :
    (∃ url, before.ended world use.lookup = .error (.address (.unsupported url))) ∧
      before.exchanges world use.lookup = [] ∧
      (before.after world use.lookup).state = before.state := by
  cases use with
  | find url => cases horder
  | call asked =>
      cases asked with
      | query url query =>
          cases query with
          | setToken token =>
              have hmissing : ¬ (Handle.find? url).isSome = true := hindex
              unfold Handle.find? at hmissing
              unfold Instant.after Instant.ended Instant.exchanges Action.play lookup
              simp only [run_setToken]
              cases hparse : Address.parse url with
              | error error => exact ⟨⟨url, rfl⟩, rfl, rfl⟩
              | ok address =>
                  rw [hparse] at hmissing
                  exact absurd rfl hmissing
          | _ => cases horder
      | setToken token => exact absurd trivial hindex
      | invalidateAll => cases horder

/-- **One token.**  Let nobody else be about.  A store that has one token has one after
whatever it is used for, as long as no order to use another one was refused.  An order to the
store, or to the client of an index, is answered with whether the token is another one, if it is
answered.  If it is, all have it afterwards, whatever had become of the token before, and every
cache holds only what was asked for while the fetcher showed it; if it is not, nothing was asked
for, and all caches are as they were.

Orders are refused for one token only that is another one and that an open connection does not
take.  The store has it then, but no client was told, and nothing was asked for.  Besides,
without a cooldown the notices may end an order before all clients are told. -/
theorem one_token_unless_refused (hworld : world.Quiet) :
    (∀ (start : Instant Registry) (token : Option String) (uses : List StoreUse),
      start.state.OneToken token → (∀ use ∈ uses, use.Proper) →
      (∀ use fault, (use, .error fault) ∈ uses.zip (start.inTurn world (uses.map lookup)) →
        use.newToken? ≠ none → ∃ error, fault = .address error) →
      ∃ last, (start.afterAll world (uses.map lookup)).state.OneToken last) ∧
    ∀ (before : Instant Registry) (use : StoreUse) (token : Option String),
      use.newToken? = some token → use.HasIndex →
        OrderOutcome token before.state (before.after world use.lookup).state
          (before.exchanges world use.lookup) (before.ended world use.lookup) := by
  refine ⟨?_, fun before use token horder hindex => outcome hworld before horder hindex⟩
  intro start token uses hone hproper hcarried
  induction uses generalizing start token with
  | nil => exact ⟨token, hone⟩
  | cons use rest ih =>
      obtain ⟨hfirst, hrest⟩ := List.forall_mem_cons.mp hproper
      have hafter : ∃ last, (start.after world use.lookup).state.OneToken last := by
        cases horder : use.newToken? with
        | none =>
            obtain ⟨hlast, -⟩ := honors hworld hfirst horder start hone (List.nil_subset _)
            exact ⟨token, hlast⟩
        | some new =>
            have hfault : ∀ fault, start.ended world use.lookup = .error fault →
                ∃ error, fault = .address error := by
              intro fault hended
              refine hcarried use fault ?_ (by simp [horder])
              rw [List.map_cons, inTurn, hended]
              exact List.mem_cons_self
            by_cases hindex : use.HasIndex
            · have houtcome := outcome hworld start horder hindex
              generalize start.ended world use.lookup = ended at houtcome hfault
              cases houtcome with
              | same hsame hidle hholds hkept => exact ⟨token, hkept token hone⟩
              | changed hother htaken hnew hfresh => exact ⟨new, hnew⟩
              | refused => obtain ⟨error, ⟨⟩⟩ := hfault _ rfl
              | noCooldown => obtain ⟨error, ⟨⟩⟩ := hfault _ rfl
            · obtain ⟨-, -, hsame⟩ := unsupported start horder hindex
              exact ⟨token, hsame.symm ▸ hone⟩
      obtain ⟨next, hnext⟩ := hafter
      refine ih _ next hnext hrest fun other fault hmem => ?_
      exact hcarried other fault (List.mem_cons_of_mem _ hmem)

end StoreUse

/-! ## Two orders

The client of an index has read the root.  Then a token is ordered that can be shown to the host;
or one that cannot, twice. -/

namespace Rotation

/-- The URL of the index. -/
def url : String := "https://github.com/o/r"

/-- A second passes at every request, and every tree is empty. -/
def world : World Registry := .passing (fun _ => .ok (.found (.array []))) fun _ => 1

/-- A new store with a token. -/
def start : Instant Registry :=
  ⟨.new { token := some "old", overHttp := true } (some defaultCooldown) (some "old"), 0⟩

/-- The root is read, and then a token is ordered. -/
def uses (token : String) : List StoreUse :=
  [.call (.query url .reachable), .call (.setToken (some token))]

/-- What is said in the end, in words. -/
def said : Except Fault Answer → String
  | .ok (.validity validity) => validity.name
  | .ok (.flag flag) => toString flag
  | .ok _ => "something else"
  | .error fault => fault.message

theorem quiet_world : world.Quiet := fun _ _ => ⟨1, rfl⟩

theorem oneToken_start : start.state.OneToken (some "old") := by
  have husable : usableToken (some "old") = some "old" := by decide
  have hone : start.state.OneToken (usableToken (some "old")) := by
    refine Registry.oneToken_new _ ⟨husable.symm, ?_⟩
    rintro connection ⟨⟩
  exact husable ▸ hone

end Rotation

open Rotation in
/-- The new token is taken, and then all have it. -/
theorem new_token_taken :
    let before := start.after world (StoreUse.call (.query url .reachable)).lookup
    let order : StoreUse := .call (.setToken (some "new"))
    world.Quiet ∧ start.state.OneToken (some "old") ∧ (∀ use ∈ uses "new", use.Proper) ∧
      (start.inTurn world ((uses "new").map StoreUse.lookup)).map said = ["valid", "true"] ∧
      (∃ last, (start.afterAll world ((uses "new").map StoreUse.lookup)).state.OneToken last) ∧
      order.newToken? = some (some "new") ∧ order.HasIndex ∧
      OrderOutcome (some "new") before.state (before.after world order.lookup).state
        (before.exchanges world order.lookup) (before.ended world order.lookup) := by
  obtain ⟨huses, horders⟩ := StoreUse.one_token_unless_refused quiet_world
  have hproper : ∀ use ∈ uses "new", use.Proper :=
    List.forall_mem_cons.mpr ⟨trivial, List.forall_mem_singleton.mpr trivial⟩
  have hok : (start.inTurn world ((uses "new").map StoreUse.lookup)).all (·.isOk) = true := by
    decide +kernel
  have hcarried : ∀ use fault,
      (use, .error fault) ∈ (uses "new").zip (start.inTurn world
        ((uses "new").map StoreUse.lookup)) →
      use.newToken? ≠ none → ∃ error, fault = .address error := by
    intro use fault hmem
    cases List.all_eq_true.mp hok _ (List.of_mem_zip hmem).2
  have hnew : (StoreUse.call (.setToken (some "new"))).newToken? = some (some "new") := by decide
  exact ⟨quiet_world, oneToken_start, hproper, by decide +kernel,
    huses start (some "old") (uses "new") oneToken_start hproper hcarried, hnew,
    trivial, horders _ _ _ hnew trivial⟩

open Rotation in
/-- **A refused token.**  The order ends in a fault, though the store has another token then.  When
it is given again nothing is done, and the client goes on with the old token and the old
cache. -/
theorem token_refused :
    let all := uses "日本" ++ [.call (.setToken (some "日本")), .call (.query url .reachable)]
    let last := start.afterAll world (all.map StoreUse.lookup)
    start.state.OneToken (some "old") ∧
      (start.inTurn world (all.map StoreUse.lookup)).map said =
        ["valid", "'ascii' codec can't encode characters in position 7-8: "
          ++ "ordinal not in range(128)", "false", "valid"] ∧
      last.waits = 1 ∧ last.state.token = some "日本" ∧
      (last.state.client (.shared ⟨"o", "r"⟩)).token = some "old" := by
  refine ⟨oneToken_start, ?_⟩
  decide +kernel

end ManifestLint
