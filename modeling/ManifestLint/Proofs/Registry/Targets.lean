import ManifestLint.Proofs.Registry.Along
import ManifestLint.Proofs.Registry.Declared

/-!
# Where the requests of a lookup go

To read a level of an index takes a few requests at most: a tree for the root, a tree
more for an author, and a blob more for the history of a package or for the
configuration.  So of every walk it is known beforehand where its requests may go.

* `Handle.walkTargets`: for the configuration of a client, and for one visit to each index.
* `Lookup.Along.asks`: a walk asks along its chain.
* `Instant.asked_query`: the requests of a query.
-/

namespace ManifestLint

namespace Handle

variable (handle : Handle)

/-- The target of a request for something of a client's index. -/
def target (kind : RequestKind) : Target :=
  ⟨handle.address.owner, handle.address.repository, kind⟩

/-- What may be asked for on a visit: the root, an author, and a package. -/
def visitTargets : List Target :=
  [handle.target .tree, handle.target .tree, handle.target .blob]

/-- What may be asked for in order to read the configuration: the root, and the configuration. -/
def configTargets : List Target := [handle.target .tree, handle.target .blob]

/-- Where the requests of a walk may go: for the configuration of the client, and then for the
visits along a chain. -/
def walkTargets (own : Handle) (chain : List Handle) : List Target :=
  own.configTargets ++ chain.flatMap visitTargets

theorem length_walkTargets (own : Handle) (chain : List Handle) :
    (own.walkTargets chain).length = 2 + 3 * chain.length := by
  have hvisit : ∀ handle ∈ chain, handle.visitTargets.length = 3 := fun _ _ => rfl
  rw [walkTargets, List.length_append, List.length_flatMap, List.map_congr_left hvisit,
    List.map_const', List.sum_replicate_nat]
  simp only [configTargets, List.length_cons, List.length_nil]
  omega

/-- No target of a walk is elsewhere than on the chain. -/
theorem exists_of_mem_walkTargets {own : Handle} {rest : List Handle} {target : Target}
    (h : target ∈ own.walkTargets (own :: rest)) :
    ∃ handle ∈ own :: rest, ∃ kind, target = handle.target kind := by
  rcases List.mem_append.mp h with hconfig | hvisit
  · refine ⟨own, List.mem_cons_self, ?_⟩
    rcases List.mem_cons.mp hconfig with rfl | hblob
    · exact ⟨.tree, rfl⟩
    · exact ⟨.blob, List.mem_singleton.mp hblob⟩
  · obtain ⟨handle, hmem, htarget⟩ := List.mem_flatMap.mp hvisit
    refine ⟨handle, hmem, ?_⟩
    simp only [visitTargets, List.mem_cons, List.not_mem_nil, or_false] at htarget
    rcases htarget with rfl | rfl | rfl
    · exact ⟨.tree, rfl⟩
    · exact ⟨.tree, rfl⟩
    · exact ⟨.blob, rfl⟩

end Handle

namespace Fallible

variable (handle : Handle)

/-! ## Reading -/

theorem asks_send (request : Request) : (Registry.ask request).Asks [request.target] := by
  unfold Registry.ask
  refine Action.asks_get.bind fun registry => ?_
  generalize registry.fetcher.send request = sent
  obtain ⟨fault, fetcher⟩ := sent
  refine (Action.asks_modify _).bind fun _ => ?_
  cases fault with
  | none => exact Action.asks_ask request
  | some fault => exact Action.asks_pure _

theorem asks_payload (kind : RequestKind) (id : Json) :
    Asks [handle.target kind] (Read.payload handle kind id) := by
  refine (asks_lift (asks_send ⟨kind, _, _, id⟩)).bind fun reply => ?_
  cases reply with
  | error fault => exact asks_throw _
  | ok result =>
      dsimp only
      split
      · exact asks_pure _
      · exact asks_throw _

theorem asks_ofShape {α : Type} (value : Except Json.ShapeError α) :
    Asks [] (Read.ofShape value) := by
  cases value with
  | ok value => exact asks_pure value
  | error error => exact asks_throw _

theorem asks_tree (id : Json) : Asks [handle.target .tree] (Read.tree handle id) :=
  (asks_payload handle .tree id).bind fun _ =>
    (asks_ofShape _).bind fun _ => asks_pure _

theorem asks_root : Asks [handle.target .tree] (Read.root handle) := by
  refine asks_get.bind fun registry => ?_
  cases (registry.client handle).cache.root with
  | some root => exact asks_pure root
  | none =>
      refine ((asks_tree handle _).rethrow _).bind fun entries => ?_
      refine (asks_ofShape _).bind fun root => ?_
      exact (asks_modifyGet _).bind fun _ => asks_pure root

theorem asks_author (name : String) :
    Asks [handle.target .tree, handle.target .tree] (Read.author handle name) := by
  refine asks_get.bind fun registry => ?_
  cases (registry.client handle).cache.authors.get? (Text.lower name) with
  | some author => exact asks_pure _
  | none =>
      refine (asks_root handle).bind fun root => ?_
      cases root.idOf? (Text.lower name) with
      | none => exact asks_pure none
      | some id =>
          refine (asks_tree handle id).bind fun entries => ?_
          refine (asks_ofShape _).bind fun author => ?_
          exact (asks_modifyGet _).bind fun _ => asks_pure _

theorem asks_historyText (payload : Json) : Asks [] (Read.historyText payload) := by
  cases payload with
  | string text => exact asks_pure text
  | _ => exact asks_throw _

theorem asks_package (author name : String) :
    Asks handle.visitTargets (Read.package handle author name) := by
  refine asks_get.bind fun registry => ?_
  cases (registry.client handle).cache.packages.get? (Text.lower author, Text.lower name) with
  | some package => exact asks_pure _
  | none =>
      refine (asks_author handle _).bind fun found => ?_
      cases found.bind (·.idOf? (Text.lower name)) with
      | none => exact asks_pure none
      | some id =>
          refine (asks_payload handle .blob id).bind fun payload => ?_
          refine (asks_historyText payload).bind fun text => ?_
          exact (asks_modifyGet _).bind fun _ => asks_pure _

theorem asks_configDocument (payload : Json) : Asks [] (Read.configDocument handle payload) := by
  unfold Read.configDocument
  split
  · split
    · exact asks_pure _
    · exact asks_throw _
    · exact asks_throw _
  · exact asks_throw _

theorem asks_config : Asks handle.configTargets (Read.config handle) := by
  refine asks_get.bind fun registry => ?_
  cases (registry.client handle).cache.config with
  | some config => exact asks_pure _
  | none =>
      refine (asks_root handle).bind fun root => ?_
      cases root.config with
      | none => exact asks_pure none
      | some entry =>
          refine (asks_payload handle .blob entry.id).bind fun payload => ?_
          refine (asks_configDocument handle payload).bind fun document => ?_
          refine (asks_ofShape _).bind fun config => ?_
          exact (asks_modifyGet _).bind fun _ => asks_pure _

/-! ## Looking up -/

theorem asks_notify (message : String) : Asks [] (Lookup.notify message) := by
  intro registry
  rw [run_notify]
  cases registry.notifier.notify message <;> exact fun _ _ => List.nil_sublist []

/-- A failure is reported without a request. -/
theorem asks_attempt {α : Type} {targets : List Target} {read : Read α} (h : Asks targets read) :
    Asks targets (Lookup.attempt handle read) := by
  rw [← List.append_nil targets]
  refine (asks_lift h).bind fun ended => ?_
  cases ended with
  | ok value => exact asks_pure _
  | error error =>
      exact (asks_modifyGet _).bind fun _ => (asks_notify _).bind fun _ => asks_pure none

theorem asks_extend (chain : List Handle) (urls : List String) :
    Asks [] (Lookup.extend chain urls) := by
  induction urls generalizing chain with
  | nil => exact asks_pure chain
  | cons url rest ih =>
      refine (asks_modifyGet _).bind fun found => ?_
      cases found with
      | none => exact ih chain
      | some handle =>
          dsimp only
          split
          · exact ih chain
          · exact ih (chain ++ [handle])

/-- To find a chain nothing is asked for but the configuration of the client itself. -/
theorem asks_chain : Asks handle.configTargets (Lookup.chain handle) := by
  cases handle with
  | alone name address => exact asks_pure _
  | shared address =>
      refine (asks_attempt _ (asks_config _)).bind fun found => ?_
      rcases found with _ | (_ | config)
      · exact asks_pure _
      · exact asks_pure _
      · exact asks_extend _ _

theorem asks_ownConfig : Asks handle.configTargets (Lookup.config handle) :=
  (asks_attempt handle (asks_config handle)).bind fun _ => asks_pure _

theorem asks_reachable : Asks handle.configTargets (Lookup.reachable handle) := by
  have hroot : Asks handle.configTargets (Read.root handle) :=
    (asks_root handle).weaken (List.sublist_append_left ..)
  refine (asks_attempt handle hroot).bind fun found => ?_
  cases found with
  | some root => exact asks_pure _
  | none => exact asks_get.bind fun _ => asks_pure _

/-- Of a visit the requests come first, and those of the rest of the walk behind them. -/
theorem asks_visit {α β : Type} {targets : List Target} {read : Read α} {rest : List Handle}
    {next : Option α → Lookup β} (hread : Asks targets read)
    (htargets : targets.Sublist handle.visitTargets)
    (hnext : ∀ found, Asks (rest.flatMap Handle.visitTargets) (next found)) :
    Asks ((handle :: rest).flatMap Handle.visitTargets)
      (Lookup.attempt handle read >>= next) := by
  rw [List.flatMap_cons]
  exact ((asks_attempt handle hread).weaken htargets).bind hnext

end Fallible

open Fallible in
/-- **The targets.**  A walk sends its requests to the indexes of the chain, in their order,
and to each no more than one visit takes. -/
theorem Lookup.Along.asks {α : Type} {stops : Bool} {chain : List Handle} {lookup : Lookup α}
    (h : Lookup.Along stops chain lookup) : Asks (chain.flatMap Handle.visitTargets) lookup := by
  induction h with
  | pure value => exact asks_pure value
  | ofVersions value =>
      cases value with
      | ok value => exact asks_pure value
      | error error => exact asks_throw _
  | stop chain hdone ih => exact ih.weaken (List.nil_sublist _)
  | root stops handle hunread hread ih ihread =>
      refine asks_visit handle (asks_root handle) (by simp [Handle.visitTargets]) fun found => ?_
      cases found with
      | none => exact ih
      | some root => exact ihread root.authors
  | author stops handle name hunread hunlisted hread ih ihunlisted ihread =>
      refine asks_visit handle (asks_author handle name) (by simp [Handle.visitTargets]) ?_
      rintro (_ | _ | author)
      · exact ih
      · exact ihunlisted
      · exact ihread author
  | package stops handle author name hunread hunlisted hread ih ihunlisted ihread =>
      refine asks_visit handle (asks_package handle author name) (List.Sublist.refl _) ?_
      rintro (_ | _ | package)
      · exact ih
      · exact ihunlisted
      · exact ihread package
  | bind hfirst hnext ih ihnext =>
      rw [← List.append_nil (List.flatMap ..)]
      exact ih.bind ihnext

namespace Instant

variable (world : World Registry) (instant : Instant Registry) {own : Handle}

/-- A lookup that walks sends its requests to the client's own index and then along its
chain. -/
theorem asked_walk (hown : own.Stored) {α : Type} {lookup : Lookup α}
    (h : Lookup.Walks own lookup) :
    ((instant.asked world lookup).map Request.target).Sublist
      (own.walkTargets (instant.declaredChain world own)) := by
  obtain ⟨walk, halong, rfl⟩ := h
  have hfirst : ((instant.asked world (Lookup.chain own)).map Request.target).Sublist
      own.configTargets := Fallible.asks_chain own _ world _
  rw [asked_bind, List.map_append]
  refine hfirst.append ?_
  cases hchain : instant.value world (Lookup.chain own) with
  | none => exact List.nil_sublist _
  | some chain =>
      rw [← chain_of_value hown hchain]
      exact (halong chain).asks _ world _

/-- Every query asks its client's own index first, and then the chain if it walks. -/
theorem asked_query (hown : own.Stored) {query : Query} (hquery : query.IsLookup) :
    ((instant.asked world (query.run own)).map Request.target).Sublist
      (own.walkTargets (instant.declaredChain world own)) := by
  by_cases hwalk : query.IsWalk
  · exact asked_walk world instant hown (Query.walks hwalk own)
  · have halone : Fallible.Asks own.configTargets (query.run own) := by
      cases query with
      | config => exact (Fallible.asks_ownConfig own).bind fun _ => Fallible.asks_pure _
      | reachable => exact (Fallible.asks_reachable own).bind fun _ => Fallible.asks_pure _
      | _ => exact absurd hquery hwalk
    exact (halone _ world _).trans (List.sublist_append_left ..)

end Instant

end ManifestLint
