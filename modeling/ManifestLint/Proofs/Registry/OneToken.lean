import ManifestLint.Proofs.Registry.Along
import ManifestLint.Proofs.Registry.Raising
import ManifestLint.Proofs.Registry.Sending

/-!
# One token for a store

The token of a store is held in several places: by the store, by the fetcher, which shows it
over its connection, and by every client.  Whoever asks something of the store's clients, or
clears their caches, leaves the token where it is: a client that is opened on the way gets the
one of the store, and no client is changed that is not there.

* `Fetcher.Shows`: the fetcher has a token and shows it.
* `Registry.OneToken`: all places hold the same token.
* `Instant.Honors`: a lookup leaves it so.
* `Instant.honors_query`, `honors_invalidate`, `honors_invalidateAll`: which ones do.
-/

namespace ManifestLint

theorem usableToken_usableToken (token : Option String) :
    usableToken (usableToken token) = usableToken token := by
  rw [usableToken, usableToken, Option.filter_filter]
  simp

/-! ## Where the token is held -/

namespace Fetcher

variable {fetcher : Fetcher} {token : Option String}

/-- The fetcher has a token, and shows it over its connection if one is open. -/
structure Shows (token : Option String) (fetcher : Fetcher) : Prop where
  held : fetcher.token = token
  shown : ∀ connection, fetcher.connection = some connection →
    connection.authorization = authorization token

/-- Sending a request changes nothing: a connection that it opens shows the token. -/
theorem Shows.send (h : fetcher.Shows token) (request : Request) :
    (fetcher.send request).2.Shows token := by
  have hconnect : ∀ connection, fetcher.connect = .ok connection →
      connection.authorization = authorization token := by
    intro connection hconnect
    rcases connect_eq_ok hconnect with hopen | ⟨-, -, hshown⟩
    · exact h.shown connection hopen
    · rw [hshown, h.held]
  unfold Fetcher.send
  split
  · cases hconnected : fetcher.connect with
    | error fault => exact h
    | ok connection =>
        have hopened : ∀ other, some connection = some other →
            other.authorization = authorization token := by
          rintro other ⟨⟩
          exact hconnect connection hconnected
        dsimp only
        split
        · exact ⟨h.held, hopened⟩
        · exact ⟨h.held, hopened⟩
  · exact ⟨h.held, h.shown⟩

theorem token_setToken (fetcher : Fetcher) (token : Option String) :
    (fetcher.setToken token).2.token = usableToken token := by
  unfold setToken
  dsimp only
  split <;> rfl

/-- A token that the fetcher takes is shown from then on. -/
theorem shows_setToken (htaken : (fetcher.setToken token).1 = none) :
    (fetcher.setToken token).2.Shows (usableToken token) := by
  refine ⟨token_setToken fetcher token, ?_⟩
  unfold setToken at htaken ⊢
  dsimp only at htaken ⊢
  split
  · intro connection hconnection
    cases hconnection
  · rintro connection ⟨⟩
    rfl
  · next hopen herror =>
      rw [hopen, herror] at htaken
      cases htaken

/-- A token that the fetcher does not take is not shown. -/
theorem not_shows_setToken {fault : FetchFault} (hrefused : (fetcher.setToken token).1 = some fault)
    (other : Option String) : ¬ (fetcher.setToken token).2.Shows other := by
  intro hshows
  obtain rfl : other = usableToken token := hshows.held.symm.trans (token_setToken fetcher token)
  have hconnection := hshows.shown
  unfold setToken at hrefused hconnection
  dsimp only at hrefused hconnection
  split at hrefused
  · cases hrefused
  · cases hrefused
  · next connection error hopen herror =>
      rw [hopen, herror] at hconnection
      have hnone := hconnection _ rfl
      rw [← hnone] at herror
      cases herror

end Fetcher

namespace Registry

variable {registry : Registry} {token : Option String} {handle : Handle}
  {handles told : List Handle}

/-- The clients of the store are known, the store and its fetcher have a token, and so have
those clients that were told. -/
structure Spread (token : Option String) (handles told : List Handle) (registry : Registry) :
    Prop where
  fetcher : registry.fetcher.Shows token
  store : registry.token = token
  shared : registry.shared = handles
  told : ∀ handle ∈ told, (registry.client handle).token = token

/-- The store, its fetcher and all its clients have one token, which is not empty if it is
there. -/
structure OneToken (token : Option String) (registry : Registry) : Prop where
  usable : usableToken token = token
  spread : registry.Spread token registry.shared registry.shared

/-- A new store has one token if its fetcher has the same one. -/
theorem oneToken_new {fetcher : Fetcher} (cooldown : Option Float)
    (hfetcher : fetcher.Shows (usableToken token)) :
    (Registry.new fetcher cooldown token).OneToken (usableToken token) :=
  ⟨usableToken_usableToken token, hfetcher, rfl, rfl, nofun⟩

theorem Spread.oneToken (h : registry.Spread token handles handles)
    (husable : usableToken token = token) : registry.OneToken token :=
  ⟨husable, h.shared.symm ▸ h⟩

/-- Some of those who were told were told. -/
theorem Spread.weaken {fewer : List Handle} (h : registry.Spread token handles told)
    (hfewer : fewer ⊆ told) : registry.Spread token handles fewer :=
  { h with told := fun handle hmem => h.told handle (hfewer hmem) }

theorem mem_shared_iff : handle ∈ registry.shared ↔
    (∃ address, handle = .shared address) ∧ registry.clients.has handle = true := by
  rw [shared, List.mem_filter, Entries.mem_keys_iff]
  cases handle <;> simp

/-- A client that is there stays where it is when it is changed. -/
theorem shared_update (hmem : handle ∈ registry.shared) (change : Client → Client) :
    (registry.update handle change).shared = registry.shared := by
  have hkey : handle ∈ registry.clients.keys := (List.mem_filter.mp hmem).1
  simp only [shared, update, Entries.keys_put, if_pos hkey]

theorem stable_spread (hmem : handle ∈ handles) :
    Stable handle (Spread token handles told) where
  send _ request h := { h with fetcher := h.fetcher.send request }
  update registry change htoken h := by
    refine ⟨h.fetcher, h.store, ?_, ?_⟩
    · rw [shared_update (h.shared.symm ▸ hmem), h.shared]
    · intro other hother
      rw [client_update]
      split
      · next hsame => rw [htoken, hsame, h.told other hother]
      · exact h.told other hother
  notifier _ _ h := ⟨h.fetcher, h.store, h.shared, h.told⟩

/-- Whoever is told the token has it, and keeps it. -/
theorem Spread.tell (h : registry.Spread token handles told) (hmem : handle ∈ handles) :
    (registry.update handle fun client => { client with token }).Spread token handles
      (handle :: told) := by
  refine ⟨h.fetcher, h.store, ?_, ?_⟩
  · rw [shared_update (h.shared.symm ▸ hmem), h.shared]
  · intro other hother
    rw [client_update]
    split
    · rfl
    · next hother' =>
        exact h.told other ((List.mem_cons.mp hother).resolve_left fun hsame => hother' hsame.symm)

/-- The client for an address is one of the store when it was opened, as are those before. -/
theorem mem_shared_opened {address : Address} :
    handle ∈ (registry.opened address).shared ↔
      handle ∈ registry.shared ∨ handle = .shared address := by
  by_cases hhas : registry.clients.has (.shared address) = true
  · have hsame : registry.opened address = registry := if_pos hhas
    rw [hsame]
    constructor
    · exact .inl
    · rintro (hmem | rfl)
      · exact hmem
      · exact mem_shared_iff.mpr ⟨⟨address, rfl⟩, hhas⟩
  · rw [mem_shared_iff, mem_shared_iff, opened, if_neg hhas, Entries.has, Entries.get?_put]
    by_cases hsame : Handle.shared address = handle
    · subst hsame
      simp
    · simp [hsame, Ne.symm hsame, Entries.has]

/-- Opening a client leaves those alone that there are. -/
theorem client_opened (hmem : handle ∈ registry.shared) {address : Address} :
    (registry.opened address).client handle = registry.client handle := by
  by_cases hhas : registry.clients.has (.shared address) = true
  · have hsame : registry.opened address = registry := if_pos hhas
    rw [hsame]
  · rw [Registry.opened, if_neg hhas, client, Entries.get?_put, if_neg, ← client]
    rintro rfl
    exact hhas (mem_shared_iff.mp hmem).2

theorem opened_shared_state (registry : Registry) (address : Address) :
    (registry.opened address).token = registry.token ∧
      (registry.opened address).fetcher = registry.fetcher ∧
      (registry.opened address).notifier = registry.notifier := by
  unfold Registry.opened
  split <;> exact ⟨rfl, rfl, rfl⟩

theorem OneToken.opened (h : registry.OneToken token) (address : Address) :
    (registry.opened address).OneToken token := by
  by_cases hhas : registry.clients.has (.shared address) = true
  · have hsame : registry.opened address = registry := if_pos hhas
    exact hsame.symm ▸ h
  · have htold : ∀ handle ∈ (registry.opened address).shared,
        ((registry.opened address).client handle).token = token := by
      intro handle hmem
      rw [mem_shared_opened] at hmem
      rw [Registry.opened, if_neg hhas, client, Entries.get?_put]
      split
      · exact h.spread.store
      · next hother =>
          exact h.spread.told handle (hmem.resolve_right fun hsame => hother hsame.symm)
    refine ⟨h.usable, ?_, ?_, rfl, htold⟩
    · rw [Registry.opened, if_neg hhas]
      exact h.spread.fetcher
    · rw [Registry.opened, if_neg hhas]
      exact h.spread.store

/-- The client for a URL is one of the store when it was found, as are those before. -/
theorem mem_shared_find? {url : String} :
    handle ∈ (registry.find? url).2.shared ↔
      handle ∈ registry.shared ∨ (registry.find? url).1 = some handle := by
  unfold find?
  cases Address.parse url with
  | error error => simp
  | ok address => simp [mem_shared_opened, eq_comm]

theorem OneToken.find? (h : registry.OneToken token) (url : String) :
    (registry.find? url).2.OneToken token := by
  unfold Registry.find?
  cases Address.parse url with
  | error error => exact h
  | ok address => exact h.opened address

end Registry

/-! ## Lookups -/

/-- Nothing happens meanwhile but that time passes. -/
def World.Quiet (world : World Registry) : Prop :=
  ∀ waits registry, ∃ seconds,
    world.others waits registry = { registry with notifier := registry.notifier.advance seconds }

/-- The token has spread to some clients. -/
def Registry.spreading (token : Option String) (handles told : List Handle) :
    Agreement Registry where
  state := Registry.Spread token handles told
  reply _ _ := True

theorem World.Quiet.keeps_spreading {world : World Registry} (h : world.Quiet)
    (token : Option String) (handles told : List Handle) :
    world.Keeps (Registry.spreading token handles told) where
  reply _ _ := trivial
  others waits registry hspread := by
    obtain ⟨seconds, hothers⟩ := h waits registry
    rw [hothers]
    exact ⟨hspread.fetcher, hspread.store, hspread.shared, hspread.told⟩

theorem World.Quiet.keeps_cooling {world : World Registry} (h : world.Quiet) :
    world.Keeps Registry.cooling where
  reply _ _ := trivial
  others waits registry hcooling := by
    obtain ⟨seconds, hothers⟩ := h waits registry
    rw [hothers]
    exact hcooling

namespace Instant

open Registry (spreading stable_spread)
open Lookup (Along)

variable {world : World Registry} {token : Option String} {handles told : List Handle}

/-- A walk along known clients leaves the token where it is. -/
theorem keeps_spreading_along {stops : Bool} {chain : List Handle} {α : Type} {lookup : Lookup α}
    (h : Along stops chain lookup) (hchain : chain ⊆ handles) :
    Keeps (spreading token handles told) (fun _ => True) (fun _ => True) lookup := by
  have hattempt {handle : Handle} {α : Type} {read : Read α} (hmem : handle ∈ handles)
      (hread : Keeps (spreading token handles told) (fun _ => True) (fun _ => True) read) :
      Keeps (spreading token handles told) (fun _ => True) (fun _ => True)
        (Lookup.attempt handle read) :=
    (keeps_stable_attempt (stable_spread hmem) hread).weaken fun _ _ => trivial
  induction h with
  | pure value => exact keeps_pure trivial
  | ofVersions value =>
      cases value with
      | ok value => exact keeps_pure trivial
      | error error => exact keeps_throw trivial
  | stop chain hdone ih => exact ih (List.nil_subset handles)
  | root stops handle hunread hread ihUnread ihRead =>
      obtain ⟨hmem, hrest⟩ := List.cons_subset.mp hchain
      refine (hattempt hmem (keeps_stable_root (stable_spread hmem))).bind fun found _ => ?_
      cases found with
      | none => exact ihUnread hrest
      | some root => exact ihRead root.authors hrest
  | author stops handle name hunread hunlisted hread ihUnread ihUnlisted ihRead =>
      obtain ⟨hmem, hrest⟩ := List.cons_subset.mp hchain
      refine (hattempt hmem (keeps_stable_author (stable_spread hmem) name)).bind fun found _ => ?_
      rcases found with _ | _ | author
      · exact ihUnread hrest
      · exact ihUnlisted hrest
      · exact ihRead author hrest
  | package stops handle author name hunread hunlisted hread ihUnread ihUnlisted ihRead =>
      obtain ⟨hmem, hrest⟩ := List.cons_subset.mp hchain
      refine (hattempt hmem (keeps_stable_package (stable_spread hmem) author name)).bind
        fun found _ => ?_
      rcases found with _ | _ | package
      · exact ihUnread hrest
      · exact ihUnlisted hrest
      · exact ihRead package hrest
  | bind hfirst hnext ihFirst ihNext =>
      exact (ihFirst hchain).bind fun value _ => ihNext value (List.nil_subset handles)

/-- From every registry with one token and with some clients, the lookup leads to one with the
same token, and with those clients that it names in the end. -/
def Honors (world : World Registry) (token : Option String) (handles : List Handle) {α : Type}
    (lookup : Lookup α) (named : α → List Handle) : Prop :=
  ∀ instant : Instant Registry, instant.state.OneToken token → handles ⊆ instant.state.shared →
    (instant.after world lookup).state.OneToken token ∧
      ∀ value, instant.ended world lookup = .ok value →
        named value ⊆ (instant.after world lookup).state.shared

section

variable {α β : Type} {first : Lookup α} {named : α → List Handle}

theorem honors_pure {value : α} (hnamed : named value ⊆ handles) :
    Honors world token handles (pure value : Lookup α) named := by
  intro instant hone hhandles
  refine ⟨hone, ?_⟩
  rintro other ⟨⟩
  exact List.Subset.trans hnamed hhandles

theorem honors_throw (fault : Fault) :
    Honors world token handles (throw fault : Lookup α) named := by
  intro instant hone _
  refine ⟨hone, ?_⟩
  rintro other ⟨⟩

theorem Honors.bind {next : α → Lookup β} {last : β → List Handle}
    (h : Honors world token handles first named)
    (hnext : ∀ value, Honors world token (named value) (next value) last) :
    Honors world token handles (first >>= next) last := by
  intro instant hone hhandles
  obtain ⟨hafter, hnamed⟩ := h instant hone hhandles
  rw [after_bind, ended_bind]
  cases hended : instant.ended world first with
  | ok value => exact hnext value _ hafter (hnamed value hended)
  | error fault =>
      refine ⟨hafter, ?_⟩
      rintro value ⟨⟩

/-- Fewer clients may be named in the end. -/
theorem Honors.weaken {fewer : α → List Handle} (h : Honors world token handles first named)
    (hfewer : ∀ value, fewer value ⊆ named value) : Honors world token handles first fewer := by
  intro instant hone hhandles
  obtain ⟨hafter, hnamed⟩ := h instant hone hhandles
  exact ⟨hafter, fun value hvalue => List.Subset.trans (hfewer value) (hnamed value hvalue)⟩

/-- What leaves the token with all clients that there are leaves the clients there, too. -/
theorem honors_of_keeps (hworld : world.Quiet)
    (hkeeps : ∀ clients, handles ⊆ clients →
      Keeps (spreading token clients clients) (fun _ => True) (fun _ => True) first) :
    Honors world token handles first fun _ => handles := by
  intro instant hone hhandles
  have hspread : (instant.after world first).state.Spread token instant.state.shared
      instant.state.shared :=
    (hkeeps _ hhandles).after (hworld.keeps_spreading ..) hone.spread
  exact ⟨hspread.oneToken hone.usable, fun _ _ => hspread.shared.symm ▸ hhandles⟩

theorem honors_find? (url : String) :
    Honors world token handles (Lookup.find? url) fun found => handles ++ found.toList := by
  intro instant hone hhandles
  refine ⟨hone.find? url, ?_⟩
  rintro found ⟨⟩ handle hmem
  refine Registry.mem_shared_find?.mpr ?_
  rcases List.mem_append.mp hmem with hold | hfound
  · exact .inl (hhandles hold)
  · exact .inr (Option.mem_toList.mp hfound)

theorem honors_require (url : String) :
    Honors world token [] (Lookup.require url) fun handle => [handle] := by
  refine (honors_find? url).bind fun found => ?_
  cases found with
  | none => exact honors_throw _
  | some handle => exact honors_pure (List.Subset.refl [handle])

theorem honors_extend (chain : List Handle) (urls : List String) :
    Honors world token chain (Lookup.extend chain urls) id := by
  induction urls generalizing chain with
  | nil => exact honors_pure (List.Subset.refl chain)
  | cons url rest ih =>
      refine (honors_find? url).bind fun found => ?_
      cases found with
      | none => exact (List.append_nil chain).symm ▸ ih chain
      | some handle =>
          dsimp only
          split
          · intro instant hone hhandles
            have hchain : chain ⊆ chain ++ [handle] := List.subset_append_left chain [handle]
            exact ih chain instant hone (List.Subset.trans hchain hhandles)
          · exact ih (chain ++ [handle])

end

variable {handle : Handle}

theorem honors_attempt (hworld : world.Quiet) {α : Type} {read : Read α}
    (hread : ∀ agreement : Agreement Registry, Registry.Stable handle agreement.state →
      Keeps agreement (fun _ => True) (fun _ => True) read) :
    Honors world token [handle] (Lookup.attempt handle read) fun _ => [handle] := by
  refine honors_of_keeps hworld fun clients hmem => ?_
  have hstable : Registry.Stable handle (Registry.Spread token clients clients) :=
    stable_spread (hmem (List.mem_singleton_self handle))
  exact (keeps_stable_attempt hstable (hread _ hstable)).weaken fun _ _ => trivial

/-- All clients of a chain are clients of the store. -/
theorem honors_chain (hworld : world.Quiet) :
    Honors world token [handle] (Lookup.chain handle) id := by
  cases handle with
  | alone url address => exact honors_pure (List.Subset.refl _)
  | shared address =>
      refine (honors_attempt hworld fun _ => keeps_stable_config).bind fun found => ?_
      rcases found with _ | _ | config
      · exact honors_pure (List.Subset.refl _)
      · exact honors_pure (List.Subset.refl _)
      · exact honors_extend _ _

/-- Whatever is asked of a client of the store leaves the one token where it is. -/
theorem honors_query (hworld : world.Quiet) {query : Query} (hquery : query.IsLookup) :
    Honors world token [handle] (query.run handle) fun _ => [] := by
  have hwalk (hwalk : query.IsWalk) :
      Honors world token [handle] (query.run handle) fun _ => [] := by
    obtain ⟨walk, halong, hrun⟩ := Query.walks hwalk handle
    rw [hrun]
    refine (honors_chain hworld).bind fun chain => ?_
    have hkept : Honors world token chain (walk chain) fun _ => chain :=
      honors_of_keeps hworld fun clients => keeps_spreading_along (halong chain)
    exact hkept.weaken fun _ => List.nil_subset chain
  cases query with
  | config =>
      have hconfig : Honors world token [handle] (Lookup.attempt handle (Read.config handle))
          fun _ => [handle] := honors_attempt hworld fun _ => keeps_stable_config
      exact (hconfig.bind fun _ => honors_pure (List.nil_subset _)).bind
        fun _ => honors_pure (List.Subset.refl [])
  | reachable =>
      have hreachable : Honors world token [handle] (Lookup.reachable handle)
          fun _ => [handle] := by
        refine honors_of_keeps hworld fun clients hmem => ?_
        have hstable : Registry.Stable handle (Registry.Spread token clients clients) :=
          stable_spread (hmem (List.mem_singleton_self handle))
        exact (keeps_stable_reachable hstable).weaken fun _ _ => trivial
      exact hreachable.bind fun _ => honors_pure (List.nil_subset _)
  | invalidate => exact hquery.elim
  | setToken _ => exact hquery.elim
  | tokenChanged _ => exact hquery.elim
  | _ => exact hwalk trivial

/-! ## Clearing caches -/

theorem keeps_spreading_invalidate (hmem : handle ∈ handles) :
    Keeps (spreading token handles told) (fun _ => True) (· = .noCooldown)
      (Lookup.invalidate handle) := by
  have hstable : Registry.Stable handle (spreading token handles told).state := stable_spread hmem
  have hconfig : Keeps (spreading token handles told) (fun _ => True) (· = .noCooldown)
      (Lookup.config handle) :=
    (keeps_stable_attempt hstable (keeps_stable_config hstable)).bind fun _ _ => keeps_pure trivial
  refine (keeps_stable_update hstable ?_).bind fun _ _ => hconfig.bind fun _ _ => keeps_pure trivial
  exact fun _ => rfl

theorem honors_invalidate (hworld : world.Quiet) :
    Honors world token [handle] (Lookup.invalidate handle) fun _ => [handle] := by
  refine honors_of_keeps hworld fun clients hmem => ?_
  exact (keeps_spreading_invalidate (hmem (List.mem_singleton_self handle))).weaken
    fun _ _ => trivial

theorem honors_invalidateAll (hworld : world.Quiet) :
    Honors world token [] Lookup.invalidateAll fun _ => [] := by
  intro instant hone hnone
  have hall : Honors world token instant.state.shared
      (instant.state.shared.forM Lookup.invalidate) fun _ => instant.state.shared := by
    refine honors_of_keeps hworld fun clients hclients => ?_
    exact keeps_forM fun handle hmem =>
      (keeps_spreading_invalidate (hclients hmem)).weaken fun _ _ => trivial
  exact hall.weaken (fun _ => List.nil_subset _) instant hone (List.Subset.refl _)

end Instant

end ManifestLint
