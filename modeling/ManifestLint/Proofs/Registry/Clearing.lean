import ManifestLint.Proofs.Fetching.Pool
import ManifestLint.Proofs.Registry.Hearsay
import ManifestLint.Session.Query

/-!
# What is cached after a cache was cleared

Orders clear the cache of a client while lookups are under way.  What is found in
the cache later was put there since, but the request behind it need not be as young:
a lookup that was waiting for its reply when the cache was cleared puts it into the
cache nevertheless.

* `Pool.Since.turn`, `Pool.Since.run`: what is known of a client's cache since some
  turn after which it was empty.
* `Errand.passes`: whoever clears the cache of a client passes a state in which it
  is empty.
* `held_stems_from_requests_since_cleared`: whatever is cached was asked for after
  the cache was cleared, or was being waited for at that time.
* `held_was_asked_for_before_cleared`: the latter happens.
-/

namespace ManifestLint

/-- Nothing is in the cache of a client. -/
def Registry.Cleared (handle : Handle) (registry : Registry) : Prop :=
  ∀ item, ¬ registry.Holds handle item

/-- What can be asked of a registry: a query to a client, or an order to the store. -/
inductive Errand where
  | query (handle : Handle) (query : Query)
  | setStoreToken (token : Option String)
  | invalidateAll

namespace Errand

/-- The lookup that does an errand. -/
def lookup : Errand → Lookup Answer
  | query handle asked => asked.run handle
  | setStoreToken token => return .flag (← Lookup.setStoreToken token)
  | invalidateAll => do
    Lookup.invalidateAll
    return .nothing

/-- The action that does an errand. -/
def action (errand : Errand) : Action Registry (Except Fault Answer) := errand.lookup.run

/-- The errand is an order to clear the cache of a client, given the registry in
which it begins: the client's own cache, or those of all clients of the store. -/
def Clears (handle : Handle) (registry : Registry) : Errand → Prop
  | query other .invalidate => other = handle
  | query other (.tokenChanged _) => other = handle
  | query (.alone url address) (.setToken _) => .alone url address = handle
  | query (.shared _) (.setToken _) => handle ∈ registry.shared
  | query _ _ => False
  | setStoreToken _ => handle ∈ registry.shared
  | invalidateAll => handle ∈ registry.shared

end Errand

/-- An errand was carried out: it has ended with an answer, and not with the one
that the token was the same as before. -/
def CarriedOut (ended : Except Fault Answer) : Prop :=
  ∃ answer, ended = .ok answer ∧ answer ≠ .flag false

/-- Errands are started, and others leave the caches alone. -/
def Pool.Turn.Works : Pool.Turn Registry (Except Fault Answer) → Prop
  | start action => ∃ errand : Errand, action = errand.action
  | answer _ _ => True
  | meanwhile change => ∀ registry : Registry, registry.Untouched (change registry)

namespace Fallible

open Registry (hearsay)

/-! ## Errands obey hearsay -/

theorem obeys_answer {α : Type} {lookup : Lookup α} {answer : α → Answer}
    (h : Obeys hearsay (fun _ => True) (fun _ _ => True) lookup) :
    Obeys hearsay (fun _ => True) (fun _ _ => True) (do return answer (← lookup)) :=
  h.bind fun _ => obeys_pure fun _ _ => trivial

theorem obeys_query (handle : Handle) (query : Query) :
    Obeys hearsay (fun _ => True) (fun _ _ => True) (query.run handle) := by
  have hlookup : query.IsLookup →
      Obeys hearsay (fun _ => True) (fun _ _ => True) (query.run handle) := by
    intro hquery
    have hbrowses : Lookup.Browses (fun _ => True) (query.run handle) :=
      Query.browses hquery handle fun _ _ _ => trivial
    exact hbrowses.obeys
  cases query with
  | invalidate => exact obeys_answer (obeys_invalidate handle)
  | setToken token => exact obeys_answer (obeys_setToken handle token)
  | tokenChanged token => exact obeys_answer (obeys_tokenChanged handle token)
  | _ => exact hlookup trivial

theorem obeys_errand (errand : Errand) :
    Obeys hearsay (fun _ => True) (fun _ _ => True) errand.lookup := by
  cases errand with
  | query handle asked => exact obeys_query handle asked
  | setStoreToken token => exact obeys_answer (obeys_setStoreToken token)
  | invalidateAll => exact obeys_answer obeys_invalidateAll

end Fallible

theorem Pool.Turn.Works.obeys {turn : Pool.Turn Registry (Except Fault Answer)} (h : turn.Works) :
    turn.Obeys Registry.hearsay := by
  cases turn with
  | start action =>
      obtain ⟨errand, rfl⟩ := h
      exact Action.Obeys.mono (Fallible.obeys_errand errand) fun _ _ _ => trivial
  | answer place reply => trivial
  | meanwhile change => exact fun registry => Registry.hearsay_of_untouched (h registry)

/-! ## Since the cache was empty -/

namespace Pool

variable {α : Type} {before moment pool : Pool Registry α} {handle : Handle}

/-- What is known of the cache of a client since it was empty: every item is shown
by a reply that has come since, to a request that was sent since or was being waited
for.  `moment` is the pool in which the cache was empty, `before` the one a turn
earlier. -/
structure Since (handle : Handle) (before moment pool : Pool Registry α) : Prop where
  heard : moment.heard <+: pool.heard
  sent : before.sent ≤ pool.sent
  awaits : ∀ number request, pool.Awaits number request →
    before.sent ≤ number ∨ before.Awaits number request
  holds : ∀ item, pool.state.Holds handle item →
    ∃ heard ∈ pool.heard.drop moment.heard.length,
      item.ShownBy handle heard.request heard.reply ∧
        (before.sent ≤ heard.number ∨ before.Awaits heard.number heard.request)

theorem since_cleared (turn : Pool.Turn Registry α)
    (hcleared : (before.turn turn).state.Cleared handle) :
    Since handle before (before.turn turn) (before.turn turn) where
  heard := List.prefix_refl _
  sent := sent_le_turn turn
  awaits _ _ hawaits := (awaits_turn hawaits).symm
  holds item hholds := absurd hholds (hcleared item)

/-- A reply that has come since is not lost. -/
theorem mem_drop_append {β : Type} {earlier later more : List β} {element : β}
    (hearlier : earlier <+: later) (hmem : element ∈ later.drop earlier.length) :
    element ∈ (later ++ more).drop earlier.length := by
  rw [List.drop_append_of_le_length hearlier.length_le]
  exact List.mem_append_left _ hmem

/-- One turn keeps what is known since. -/
theorem Since.turn (h : Since handle before moment pool) (hobeys : pool.Obeys Registry.hearsay)
    {turn : Pool.Turn Registry α} (hturn : turn.Obeys Registry.hearsay) :
    Since handle before moment (pool.turn turn) := by
  have hawaits : ∀ number request, (pool.turn turn).Awaits number request →
      before.sent ≤ number ∨ before.Awaits number request := by
    intro number request hnext
    rcases awaits_turn hnext with hold | hnew
    · exact h.awaits number request hold
    · exact .inl (Nat.le_trans h.sent hnew)
  have hsent : before.sent ≤ (pool.turn turn).sent := Nat.le_trans h.sent (sent_le_turn turn)
  cases (hobeys.turn hturn).2 with
  | silently hallows hheard =>
      refine ⟨hheard ▸ h.heard, hsent, hawaits, fun item hholds => ?_⟩
      rcases hallows.1 handle item hholds with hold | ⟨request, reply, hnone, -⟩
      · exact hheard ▸ h.holds item hold
      · cases hnone
  | upon number request reply hasked hallows hheard =>
      have hmore : moment.heard <+: (pool.turn turn).heard :=
        hheard ▸ h.heard.trans (List.prefix_append ..)
      refine ⟨hmore, hsent, hawaits, fun item hholds => ?_⟩
      rcases hallows.1 handle item hholds with hold | ⟨_, _, hlast, hshown⟩
      · obtain ⟨heard, hmem, hrest⟩ := h.holds item hold
        exact ⟨heard, hheard ▸ mem_drop_append h.heard hmem, hrest⟩
      · cases hlast
        refine ⟨⟨number, request, reply⟩, ?_, hshown, h.awaits number request hasked⟩
        rw [hheard, List.drop_append_of_le_length h.heard.length_le]
        exact List.mem_append_right _ (List.mem_singleton.mpr rfl)

theorem Since.run (h : Since handle before moment pool) (hobeys : pool.Obeys Registry.hearsay)
    {turns : List (Pool.Turn Registry α)} (hturns : ∀ turn ∈ turns, turn.Obeys Registry.hearsay) :
    Since handle before moment (pool.run turns) := by
  induction turns generalizing pool with
  | nil => exact h
  | cons turn rest ih =>
      have hturn := hturns turn (List.mem_cons_self ..)
      have hrest : ∀ other ∈ rest, other.Obeys Registry.hearsay :=
        fun other hother => hturns other (List.mem_cons_of_mem _ hother)
      exact ih (h.turn hobeys hturn) (hobeys.turn hturn).1 hrest

end Pool

/-! ## Whoever clears a cache passes an empty one -/

section

variable {α β : Type} {handle : Handle} {registry : Registry} {counts : Except Fault α → Prop}

/-- Before anything is heard an empty cache stays empty. -/
theorem cleared_of_obeys {program : Program Registry α} {kind : Hearing → α → Prop}
    (hobeys : program.Obeys Registry.hearsay kind none registry)
    (hcleared : registry.Cleared handle) : program.state.Cleared handle := by
  have hkind : program.Obeys Registry.hearsay (fun _ _ => True) none registry :=
    hobeys.mono fun _ _ _ => trivial
  intro item hholds
  rcases hkind.state.1 handle item hholds with hbefore | ⟨request, reply, hnone, -⟩
  · exact hcleared item hbefore
  · cases hnone

/-- An order that starts with clearing the cache passes an empty one, whatever it
does afterwards. -/
theorem passes_invalidate {next : Unit → Lookup α}
    (hnext : ∀ value, Fallible.Obeys Registry.hearsay (fun _ => True) (fun _ _ => True)
      (next value)) :
    ((Lookup.invalidate handle >>= next).run registry).Passes (Registry.Cleared handle)
      counts := by
  let clear (client : Client) : Client := { client with cache := {} }
  have hcleared : (registry.update handle clear).Cleared handle := by
    intro item hholds
    rw [Registry.Holds, Registry.client_update, if_pos rfl] at hholds
    cases item <;> cases hholds
  have hrest : Fallible.Obeys Registry.hearsay (fun _ => True) (fun _ _ => True)
      ((Lookup.config handle >>= fun _ => pure ()) >>= next) :=
    ((Fallible.obeys_readConfig handle).bind fun _ => Fallible.obeys_pure fun _ _ => trivial).bind
      hnext
  exact .of_state (cleared_of_obeys (hrest none (registry.update handle clear) trivial) hcleared)

theorem passes_tokenChanged (token : Option String) {next : Unit → Lookup α}
    (hnext : ∀ value, Fallible.Obeys Registry.hearsay (fun _ => True) (fun _ _ => True)
      (next value)) :
    ((Lookup.tokenChanged handle token >>= next).run registry).Passes (Registry.Cleared handle)
      counts := by
  let note (client : Client) : Client := { client with token := usableToken token }
  have hinvalidate : ((Lookup.invalidate handle >>= next).run
      (registry.update handle note)).Passes (Registry.Cleared handle) counts :=
    passes_invalidate hnext
  exact hinvalidate

/-- Whatever comes first, what follows passes an empty cache if it always does. -/
theorem passes_bind {first : Lookup β} {next : β → Lookup α}
    (hnext : ∀ value registry,
      ((next value).run registry).Passes (Registry.Cleared handle) counts)
    (herror : ∀ fault, ¬ counts (.error fault)) :
    ((first >>= next).run registry).Passes (Registry.Cleared handle) counts := by
  refine Program.Passes.bind (first.run registry) fun ended later => ?_
  cases ended with
  | ok value => exact hnext value later
  | error fault => exact fun hcounts => absurd hcounts (herror fault)

/-- An order to several clients passes an empty cache of each of them. -/
theorem passes_forM {order : Handle → Lookup PUnit} {handles : List Handle}
    {next : PUnit → Lookup α} (hmem : handle ∈ handles)
    (hobeys : ∀ handle, Fallible.Obeys Registry.hearsay (fun _ => True) (fun _ _ => True)
      (order handle))
    (hnext : ∀ value, Fallible.Obeys Registry.hearsay (fun _ => True) (fun _ _ => True)
      (next value))
    (horder : ∀ (next : PUnit → Lookup α) (registry : Registry),
      (∀ value, Fallible.Obeys Registry.hearsay (fun _ => True) (fun _ _ => True) (next value)) →
        ((order handle >>= next).run registry).Passes (Registry.Cleared handle) counts)
    (herror : ∀ fault, ¬ counts (.error fault)) :
    ((handles.forM order >>= next).run registry).Passes (Registry.Cleared handle) counts := by
  induction handles generalizing registry with
  | nil => cases hmem
  | cons first rest ih =>
      have hsplit : (first :: rest).forM order >>= next =
          order first >>= fun _ => rest.forM order >>= next :=
        bind_assoc (order first) (fun _ => rest.forM order) next
      rw [hsplit]
      by_cases hfirst : handle = first
      · subst hfirst
        exact horder _ registry fun _ => (Fallible.obeys_forM rest hobeys).bind hnext
      · have hrest : handle ∈ rest := (List.mem_cons.mp hmem).resolve_left hfirst
        exact passes_bind (fun _ later => ih hrest) herror

end

/-- The fetcher is given its token at once. -/
theorem run_setFetcherToken (token : Option String) (registry : Registry) :
    (Lookup.setFetcherToken token).run registry =
      .done { registry with fetcher := (registry.fetcher.setToken token).2 }
        ((registry.fetcher.setToken token).1.elim (.ok ()) fun fault => .error (.fetch fault)) := by
  have hnext (next : Option FetchFault → Lookup Unit) :
      ((Registry.setToken token : Action Registry (Option FetchFault)) >>= next : Lookup Unit).run
          registry =
        (next (registry.fetcher.setToken token).1).run
          { registry with fetcher := (registry.fetcher.setToken token).2 } := rfl
  unfold Lookup.setFetcherToken
  refine (hnext _).trans ?_
  cases (registry.fetcher.setToken token).1 <;> rfl

namespace Errand

variable {handle : Handle} {registry : Registry}

theorem not_carriedOut_error (fault : Fault) : ¬ CarriedOut (.error fault) := by
  rintro ⟨answer, hanswer, -⟩
  cases hanswer

theorem not_carriedOut_same : ¬ CarriedOut (.ok (.flag false)) := by
  rintro ⟨answer, hanswer, hflag⟩
  exact hflag (Except.ok.inj hanswer).symm

/-- What follows a new token of the fetcher begins in a registry that has the same
clients, if the fetcher takes the token. -/
theorem passes_setFetcherToken (token : Option String) {next : Unit → Lookup Answer}
    (hnext : ∀ value later, later.clients = registry.clients →
      ((next value).run later).Passes (Registry.Cleared handle) CarriedOut) :
    ((Lookup.setFetcherToken token >>= next).run registry).Passes (Registry.Cleared handle)
      CarriedOut := by
  have hrun : (Lookup.setFetcherToken token >>= next).run registry =
      ((Lookup.setFetcherToken token).run registry).bind (ExceptT.bindCont next) := rfl
  rw [hrun, run_setFetcherToken]
  cases (registry.fetcher.setToken token).1 with
  | none => exact hnext () { registry with fetcher := _ } rfl
  | some fault => exact fun hcounts => absurd hcounts (not_carriedOut_error _)

/-- Nothing is carried out if the token is the same as before. -/
theorem passes_unless_same {same : Prop} [Decidable same] {change : Lookup Bool}
    (hchange : ((change >>= fun changed => pure (.flag changed) : Lookup Answer).run
      registry).Passes (Registry.Cleared handle) CarriedOut) :
    (((if same then pure false else change) >>= fun changed =>
      pure (.flag changed) : Lookup Answer).run registry).Passes (Registry.Cleared handle)
        CarriedOut := by
  split
  · exact fun hcounts => absurd hcounts not_carriedOut_same
  · exact hchange

/-- What is told to all clients of the store clears the caches of all of them. -/
theorem passes_tellShared (token : Option String) (hmem : handle ∈ registry.shared) :
    ((do
      Lookup.setFetcherToken token
      (← get).shared.forM (Lookup.tokenChanged · token)
      return .flag true : Lookup Answer).run registry).Passes (Registry.Cleared handle)
        CarriedOut := by
  refine passes_setFetcherToken token fun _ later hlater => ?_
  have hshared : handle ∈ later.shared := by
    rw [Registry.shared, hlater]
    exact hmem
  have hpasses : ((later.shared.forM (Lookup.tokenChanged · token) >>= fun _ =>
      pure (.flag true) : Lookup Answer).run later).Passes (Registry.Cleared handle)
        CarriedOut := by
    refine passes_forM hshared ?_ ?_ ?_ not_carriedOut_error
    · exact fun other => Fallible.obeys_tokenChanged other token
    · exact fun _ => Fallible.obeys_pure fun _ _ => trivial
    · exact fun next registry hnext => passes_tokenChanged token hnext
  exact hpasses

/-- A new token of the store clears the caches of all its clients. -/
theorem passes_setStoreToken (token : Option String) (hmem : handle ∈ registry.shared) :
    ((do return Answer.flag (← Lookup.setStoreToken token) : Lookup Answer).run
      registry).Passes (Registry.Cleared handle) CarriedOut := by
  let usable := usableToken token
  let change : Lookup Bool := do
    modify fun registry => { registry with token := usable }
    Lookup.setFetcherToken usable
    (← get).shared.forM (Lookup.tokenChanged · usable)
    return true
  have hchange : (change >>= fun changed => pure (.flag changed) : Lookup Answer) = do
      modify fun registry => { registry with token := usable }
      Lookup.setFetcherToken usable
      (← get).shared.forM (Lookup.tokenChanged · usable)
      return .flag true := by
    simp only [change, bind_assoc, pure_bind]
  have hpasses : ((change >>= fun changed => pure (.flag changed) : Lookup Answer).run
      registry).Passes (Registry.Cleared handle) CarriedOut := by
    rw [hchange]
    let noted : Registry := { registry with token := usable }
    have hshared : handle ∈ noted.shared := hmem
    exact passes_tellShared usable hshared
  exact passes_unless_same hpasses

/-- A new token of a client that stands alone clears its cache. -/
theorem passes_setToken (token : Option String) {url : String} {address : Address} :
    ((do return Answer.flag (← Lookup.setToken (.alone url address) token) : Lookup Answer).run
      registry).Passes (Registry.Cleared (.alone url address)) CarriedOut := by
  let usable := usableToken token
  let change : Lookup Bool := do
    Lookup.setFetcherToken usable
    Lookup.tokenChanged (.alone url address) usable
    return true
  have hchange : (change >>= fun changed => pure (.flag changed) : Lookup Answer) = do
      Lookup.setFetcherToken usable
      Lookup.tokenChanged (.alone url address) usable
      return .flag true := by
    simp only [change, bind_assoc, pure_bind]
  have hpasses : ((change >>= fun changed => pure (.flag changed) : Lookup Answer).run
      registry).Passes (Registry.Cleared (.alone url address)) CarriedOut := by
    rw [hchange]
    refine passes_setFetcherToken usable fun _ later _ => ?_
    exact passes_tokenChanged usable fun _ => Fallible.obeys_pure fun _ _ => trivial
  exact passes_unless_same hpasses

/-- Whoever is ordered to clear the cache of a client passes a state in which it is
empty, unless the order is not carried out. -/
theorem passes {errand : Errand} (h : errand.Clears handle registry) :
    (errand.action registry).Passes (Registry.Cleared handle) CarriedOut := by
  cases errand with
  | query other asked =>
      cases asked with
      | invalidate =>
          obtain rfl : other = handle := h
          exact passes_invalidate fun _ => Fallible.obeys_pure fun _ _ => trivial
      | tokenChanged token =>
          obtain rfl : other = handle := h
          exact passes_tokenChanged token fun _ => Fallible.obeys_pure fun _ _ => trivial
      | setToken token =>
          cases other with
          | shared address => exact passes_setStoreToken token h
          | alone url address =>
              obtain rfl : Handle.alone url address = handle := h
              exact passes_setToken token
      | _ => exact False.elim (by cases other <;> exact h)
  | setStoreToken token => exact passes_setStoreToken token h
  | invalidateAll =>
      have hpasses : ((registry.shared.forM Lookup.invalidate >>= fun _ =>
          pure .nothing : Lookup Answer).run registry).Passes (Registry.Cleared handle)
            CarriedOut := by
        refine passes_forM h Fallible.obeys_invalidate ?_ ?_ not_carriedOut_error
        · exact fun _ => Fallible.obeys_pure fun _ _ => trivial
        · exact fun next registry hnext => passes_invalidate hnext
      exact hpasses

end Errand

/-! ## The age of what is cached -/

/-- An item is shown by nothing but the reply to a request for a part of the index. -/
theorem Item.ShownBy.request {handle : Handle} {request : Request} {reply : Reply} {item : Item}
    (h : item.ShownBy handle request reply) : ∃ kind id, request = handle.request kind id := by
  cases item with
  | root found => exact ⟨.tree, Read.rootId, h.1⟩
  | config found =>
      obtain ⟨id, hrequest, -⟩ := h
      exact ⟨.blob, id, hrequest⟩
  | author key found => exact ⟨.tree, found.id, h.1⟩
  | package key found =>
      obtain ⟨id, hrequest, -⟩ := h
      exact ⟨.blob, id, hrequest⟩

/-- **The age of what is cached.**  Whatever is in the cache of a client, in any run
of queries and orders: if some turn has left the cache empty, the item is shown by a
reply that has come since, to a request that was sent after the cache was cleared, or
to one that was being waited for at that time; so to a request that was sent later,
if none for the index was under way.  And whenever an order to clear the cache has
been carried out, there was such a turn since the order was given. -/
theorem held_stems_from_requests_since_cleared (registry : Registry) (handle : Handle)
    {turns : List (Pool.Turn Registry (Except Fault Answer))}
    (hturns : ∀ turn ∈ turns, turn.Works) :
    let run := (Pool.opened registry).run
    (∀ before turn after, turns = before ++ turn :: after →
      (run (before ++ [turn])).state.Cleared handle →
      ∀ item, (run turns).state.Holds handle item →
        ∃ heard ∈ (run turns).heard.drop (run (before ++ [turn])).heard.length,
          item.ShownBy handle heard.request heard.reply ∧
            ((run before).sent ≤ heard.number ∨
              (run before).Awaits heard.number heard.request) ∧
            ((∀ number kind id, ¬ (run before).Awaits number (handle.request kind id)) →
              (run before).sent ≤ heard.number)) ∧
    ∀ before (errand : Errand) after ended, turns = before ++ .start errand.action :: after →
      errand.Clears handle (run before).state →
      (run turns).stages[(run before).stages.length]? = some (.ended ended) →
      CarriedOut ended →
        ∃ early turn late, .start errand.action :: after = early ++ turn :: late ∧
          (run (before ++ (early ++ [turn]))).state.Cleared handle := by
  intro run
  refine ⟨fun before turn after hsplit hcleared item hholds => ?_,
    fun before errand after ended hsplit hclears hended hcarried => ?_⟩
  · subst hsplit
    have hobeys : ∀ other ∈ before ++ turn :: after, other.Obeys Registry.hearsay :=
      fun other hother => (hturns other hother).obeys
    have hearly : (run (before ++ [turn])).Obeys Registry.hearsay := by
      refine (Pool.obeys_opened registry).run fun other hother => hobeys other ?_
      simpa [or_assoc] using Or.inl (List.mem_append.mp hother)
    have hmoment : run (before ++ [turn]) = (run before).turn turn :=
      Pool.run_append _ before [turn]
    rw [hmoment] at hcleared hearly ⊢
    have hrun : run (before ++ turn :: after) = ((run before).turn turn).run after :=
      Pool.run_append _ before (turn :: after)
    have hlate : ∀ other ∈ after, other.Obeys Registry.hearsay :=
      fun other hother => hobeys other (by simp [hother])
    have hsince := (Pool.since_cleared turn hcleared).run hearly hlate
    rw [← hrun] at hsince
    obtain ⟨heard, hmem, hshown, hage⟩ := hsince.holds item hholds
    refine ⟨heard, hmem, hshown, hage, fun hnone => hage.resolve_right fun hawaits => ?_⟩
    obtain ⟨kind, id, hrequest⟩ := hshown.request
    exact hnone _ kind id (hrequest ▸ hawaits)
  · subst hsplit
    have hrun (later : List (Pool.Turn Registry (Except Fault Answer))) :
        run (before ++ later) = (run before).run later := Pool.run_append _ before later
    rw [hrun] at hended
    obtain ⟨early, turn, late, hlate, hpassed⟩ :=
      Pool.passed_run (Errand.passes hclears) after hended hcarried
    refine ⟨early, turn, late, hlate, ?_⟩
    rw [hrun]
    exact hpassed

/-! ## A belated reply

A lookup waits for the packages of an author when the cache is cleared.  The reply
comes afterwards, and is cached; the next lookup finds it there. -/

namespace Belated

/-- A client that stands alone. -/
def own : Handle := .alone "own" ⟨"owner", "index"⟩

/-- The errands of the client. -/
def ask (query : Query) : Pool.Turn Registry (Except Fault Answer) :=
  .start (Errand.query own query).action

/-- The reply is a tree with one entry. -/
def tree (path kind id : String) (_ : Request) : Reply :=
  .ok (.found (.array [.object
    [("path", .string path), ("type", .string kind), ("sha", .string id)]]))

/-- Before the cache is cleared: the root lists an author, and the packages of the
author are asked for. -/
def before : List (Pool.Turn Registry (Except Fault Answer)) :=
  [ask (.packageNames "a"), .answer 0 (tree "a" "tree" "t1")]

/-- After the cache was cleared: the packages arrive, and a root in which the author
has another tree; and the packages are asked for again. -/
def after : List (Pool.Turn Registry (Except Fault Answer)) :=
  [.answer 0 (tree "old" "blob" "b1"), .answer 1 (tree "a" "tree" "t2"),
    ask (.packageNames "a")]

/-- The run from a new registry. -/
def run : List (Pool.Turn Registry (Except Fault Answer)) → Pool Registry (Except Fault Answer) :=
  (Pool.opened (.new {} (some defaultCooldown) none)).run

/-- The packages that arrived after the cache was cleared. -/
def packages : Item := .author "a" ⟨"a", .string "t1", [⟨"old", .string "b1"⟩]⟩

theorem works : ∀ turn ∈ before ++ ask .invalidate :: after, turn.Works := by
  simp only [before, after, List.cons_append, List.nil_append, List.mem_cons,
    List.not_mem_nil, or_false]
  rintro turn (rfl | rfl | rfl | rfl | rfl | rfl)
  · exact ⟨_, rfl⟩
  · trivial
  · exact ⟨_, rfl⟩
  · trivial
  · trivial
  · exact ⟨_, rfl⟩

theorem cleared : (run (before ++ [ask .invalidate])).state.Cleared own := by
  intro item hholds
  cases item <;> cases hholds

theorem holds_packages :
    (run (before ++ ask .invalidate :: after)).state.Holds own packages := rfl

end Belated

open Belated in
/-- The packages are shown by a reply that has come since, but the request for them
was being waited for when the cache was cleared. -/
theorem held_stems_from_awaited_request :
    ∃ heard ∈ (run (before ++ ask .invalidate :: after)).heard.drop
        (run (before ++ [ask .invalidate])).heard.length,
      packages.ShownBy own heard.request heard.reply ∧
        ((run before).sent ≤ heard.number ∨
          (run before).Awaits heard.number heard.request) := by
  obtain ⟨heard, hmem, hshown, hage, -⟩ :=
    (held_stems_from_requests_since_cleared (.new {} (some defaultCooldown) none) own works).1
      before (ask .invalidate) after rfl cleared packages holds_packages
  exact ⟨heard, hmem, hshown, hage⟩

open Belated in
/-- A lookup that starts after the cache was cleared is answered from it at once,
with packages that only a request of before shows. -/
theorem held_was_asked_for_before_cleared :
    let moment := run (before ++ [ask .invalidate])
    let last := run (before ++ ask .invalidate :: after)
    moment.state.Cleared own ∧ last.state.Holds own packages ∧
      (∀ heard ∈ last.heard.drop moment.heard.length,
        packages.ShownBy own heard.request heard.reply → heard.number < (run before).sent) ∧
      last.stages[2]? = some (.ended (.ok (.texts ["old"]))) ∧
      last.sent = (run (before ++ ask .invalidate :: after.dropLast)).sent := by
  refine ⟨cleared, holds_packages, ?_, rfl, rfl⟩
  have hheard : (run (before ++ ask .invalidate :: after)).heard.drop
      (run (before ++ [ask .invalidate])).heard.length =
        [⟨1, own.request .tree (.string "t1"), tree "old" "blob" "b1" ⟨.tree, "", "", .null⟩⟩,
          ⟨2, own.request .tree Read.rootId, tree "a" "tree" "t2" ⟨.tree, "", "", .null⟩⟩] :=
    rfl
  rw [hheard]
  intro heard hmem hshown
  rcases List.mem_cons.mp hmem with rfl | hmem
  · decide
  · obtain rfl := List.mem_singleton.mp hmem
    have hother : own.request .tree (.string "t1") ≠ own.request .tree Read.rootId := by
      intro hsame
      have hid : Json.string "t1" = Json.string "main" := congrArg Request.id hsame
      simp at hid
    exact absurd hshown.1.symm hother

end ManifestLint
