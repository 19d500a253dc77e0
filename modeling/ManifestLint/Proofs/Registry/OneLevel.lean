import ManifestLint.Fetching.Host
import ManifestLint.Proofs.Registry.Indifference
import ManifestLint.Proofs.Registry.Targets

/-!
# One level of fall-backs

Whatever the indexes declare, a lookup goes no further than the fall-backs of the
client's own index.  The chain is made of what that index declares, without
repetitions; the walk goes along the chain once; and what a fall-back declares makes
no difference.  So a lookup comes to an end on every graph of indexes, after a
number of requests that is bounded as soon as the chain is known.

* `Query.one_level` says it all of every query that asks something.
* `one_level_of_cycle` is a graph with a cycle, repetitions and an index that only a
  fall-back declares.
-/

namespace ManifestLint

open Registry (cooling SameBut)

/-- **One level.**  Let a client of the store look something up, whatever the requests are
answered with and whatever others do meanwhile.

The chain that it walks along is the client itself, followed by the first ones of the
supported URLs that its own configuration declares; there is one unless a failure cannot
be reported, and no index is on it twice.  A walk visits these indexes in order and each
once, stops early only at one that was read, and reads no configuration.  The requests go
along the chain too: two at most for the configuration of the client, then three at most
to each index, and none to an index that neither the client nor its own configuration
names.  So the lookup ends, and neither what the registry holds of other configurations
nor what else could have been asked has an influence on what it asks and how it ends. -/
theorem Query.one_level {own : Handle} (hown : own.Stored) (world : World Registry)
    (instant : Instant Registry) {query : Query} (hquery : query.IsLookup) :
    let chain := instant.declaredChain world own
    let asked := instant.asked world (query.run own)
    (∀ found, instant.value world (Lookup.chain own) = some found → found = chain) ∧
      (world.Keeps cooling → cooling.state instant.state →
        instant.value world (Lookup.chain own) = some chain) ∧
      (chain.map Handle.url).Nodup ∧
      (query.IsWalk → Lookup.Walks own (query.run own)) ∧
      (asked.map Request.target).Sublist (own.walkTargets chain) ∧
      (∀ request ∈ asked, ∃ handle kind, request.target = handle.target kind ∧
        (handle = own ∨ ∃ url ∈ instant.declared world own, Handle.find? url = some handle)) ∧
      (instant.after world (query.run own)).waits ≤ instant.waits + (2 + 3 * chain.length) ∧
      ∀ (twin : World Registry) (registry : Registry), world.InStep (SameBut own) asked twin →
        instant.state.SameBut own registry →
          let other : Instant Registry := ⟨registry, instant.waits⟩
          other.asked twin (query.run own) = asked ∧
            other.ended twin (query.run own) = instant.ended world (query.run own) := by
  intro chain asked
  have htargets : (asked.map Request.target).Sublist (own.walkTargets chain) :=
    Instant.asked_query world instant hown hquery
  refine ⟨fun found hfound => Instant.chain_of_value hown hfound,
    Instant.value_chain_eq hown, Instant.nodup_url_declaredChain hown,
    fun hwalk => Query.walks hwalk own, htargets, fun request hrequest => ?_, ?_,
    fun twin registry hworlds hstates => ?_⟩
  · have hmem := htargets.subset (List.mem_map_of_mem hrequest)
    obtain ⟨handle, hhandle, kind, htarget⟩ := Handle.exists_of_mem_walkTargets hmem
    exact ⟨handle, kind, htarget, Instant.mem_declaredChain_iff.mp hhandle⟩
  · have hlength := htargets.length_le
    rw [List.length_map, Handle.length_walkTargets] at hlength
    rw [Instant.waits_after]
    exact Nat.add_le_add_left hlength _
  · exact (Query.inStep hquery).ended hworlds hstates rfl

/-! ## A cycle

The first index declares itself, a text that leads to no index, one index in two spellings,
and another index.  The second one declares the first one again, and an index that
nobody else knows; this one is the only one with an author `b`. -/

namespace FourIndexes

/-- An entry of a tree. -/
def entry (path kind id : String) : Json :=
  .object [("path", .string path), ("type", .string kind), ("sha", .string id)]

/-- The repository of an index with one author and a configuration. -/
def repository (author configuration : String) : Repository where
  trees := [("main",
    .payload (.array [entry author "tree" "t", entry "config.json" "blob" "c"]))]
  blobs := [("c", .payload (.string configuration))]

/-- What the first index declares. -/
def declaration : String :=
  "\x7b\"fallback_registries\": [\"https://github.com/O/R\", \"elsewhere\"," ++
  " \"HTTPS://GitHub.com/o/F.git\", \"https://github.com/o/f/\", \"https://github.com/o/g\"]\x7d"

/-- What the second index declares. -/
def back : String :=
  "\x7b\"fallback_registries\": [\"https://github.com/o/r\", \"https://github.com/o/h\"]\x7d"

/-- The four indexes. -/
def host : Host := .repositories [
  ("o/r", repository "a" declaration), ("o/f", repository "a" back),
  ("o/g", repository "a" "\x7b\x7d"), ("o/h", repository "b" "\x7b\x7d")]

/-- The client of the first index. -/
def first : Handle := .shared ⟨"o", "r"⟩

/-- The client of the second index. -/
def second : Handle := .shared ⟨"o", "f"⟩

/-- A new registry, in which a configuration of the second index may be known. -/
def known (config : Option Index.Config) : Registry :=
  (Registry.new {} (some defaultCooldown) none).update second fun client =>
    { client with cache := { client.cache with config } }

/-- The beginning in such a registry. -/
def start (config : Option Index.Config) : Instant Registry := ⟨known config, 0⟩

end FourIndexes

open FourIndexes in
/-- The chain ends with the third index, and the author of the fourth one is not found.  It
makes no difference whether it is known beforehand what the second one declares. -/
theorem one_level_of_cycle :
    let world : World Registry := .steady host.answer
    let query : Query := .authorValidity "b"
    let declaring : Index.Config := { fallbacks := ["https://github.com/o/h"] }
    (start none).value world (Lookup.chain first) =
        some [first, second, .shared ⟨"o", "g"⟩] ∧
      (start none).value world (Lookup.authorValidity first "b") = some .invalid ∧
      ((start none).after world (query.run first)).waits ≤ 11 ∧
      (start (some declaring)).ended world (query.run first) =
        (start none).ended world (query.run first) := by
  intro world query declaring
  have hown : first.Stored := ⟨"https://github.com/o/r", by decide⟩
  have hquery : query.IsLookup := trivial
  obtain ⟨-, hchain, -, -, -, -, hwaits, htwin⟩ :=
    Query.one_level hown world (start none) hquery
  have hdeclared : (start none).declaredChain world first =
      [first, second, .shared ⟨"o", "g"⟩] := by decide +kernel
  rw [hdeclared] at hchain hwaits
  have hsame : (known none).SameBut first (known (some declaring)) :=
    (SameBut.refl first _).put rfl fun hsecond => nomatch hsecond
  have hinvalid : (start none).value world (Lookup.authorValidity first "b") =
      some .invalid := by decide +kernel
  exact ⟨hchain (World.keeps_cooling_steady _) rfl, hinvalid, hwaits,
    (htwin world _ (World.inStep_steady fun _ _ => rfl) hsame).2⟩

end ManifestLint
