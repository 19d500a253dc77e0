import ManifestLint.Proofs.Index.Paths
import ManifestLint.Proofs.Registry.Offering
import ManifestLint.Proofs.Registry.Passing

/-!
# The chain that a configuration declares

The fall-backs of a client are declared by URLs in the configuration of its index.  The
list may be of any kind: it may name the index itself, or an index in several spellings,
or places that are no index at all.  The chain is made up while the URLs are gone
through, and every URL is compared with what is on the chain already.  What comes of it
can be said at once: behind the client stand the clients of the supported URLs without
the client itself, each where it is declared first.

* `Handle.firsts`: these clients.
* `Handle.eq_of_url_eq`: clients of the store are told apart by their URLs.
* `Plain.extend_eq`, `nodup_url_extend`: what the chain becomes.
* `Instant.chain_of_value`: the chain of a client of the store.
-/

namespace ManifestLint

namespace Handle

/-- The client is one of the store: it is the client for some URL. -/
def Stored (handle : Handle) : Prop := ∃ url, find? url = some handle

/-- The clients of the supported ones among some URLs, without a given client, and each where it
is declared first. -/
def firsts (own : Handle) (urls : List String) : List Handle :=
  ((urls.filterMap find?).filter (· ≠ own)).eraseDups

variable {handle other : Handle}

theorem Stored.exists_address (h : handle.Stored) :
    ∃ address, handle = shared address ∧ '/' ∉ address.owner.toList := by
  obtain ⟨url, hfind⟩ := h
  unfold find? at hfind
  cases hparse : Address.parse url with
  | ok address =>
      rw [hparse] at hfind
      exact ⟨address, (Option.some.inj hfind).symm, Address.slash_not_mem_owner hparse⟩
  | error error =>
      rw [hparse] at hfind
      cases hfind

theorem eq_of_url_eq (h : handle.Stored) (hother : other.Stored) (hurl : handle.url = other.url) :
    handle = other := by
  obtain ⟨address, rfl, hslash⟩ := h.exists_address
  obtain ⟨otherAddress, rfl, hotherSlash⟩ := hother.exists_address
  exact congrArg shared (Address.eq_of_url_eq hslash hotherSlash hurl)

theorem mem_firsts_iff {own : Handle} {urls : List String} :
    handle ∈ own.firsts urls ↔ handle ≠ own ∧ ∃ url ∈ urls, find? url = some handle := by
  simp [firsts, List.mem_eraseDups, and_comm]

end Handle

namespace Plain

variable {chain : List Handle}

/-- Whether a client is on a chain is seen from its URL. -/
theorem any_url_eq_iff (hchain : ∀ handle ∈ chain, handle.Stored) {handle : Handle}
    (h : handle.Stored) : chain.any (·.url = handle.url) = true ↔ handle ∈ chain := by
  rw [List.any_eq_true]
  constructor
  · rintro ⟨other, hmem, hurl⟩
    exact Handle.eq_of_url_eq (hchain other hmem) h (of_decide_eq_true hurl) ▸ hmem
  · exact fun hmem => ⟨handle, hmem, decide_eq_true rfl⟩

/-- **The extension.**  A chain is extended by the clients of the supported URLs that are
not on it, each where it is declared first. -/
theorem extend_eq (hchain : ∀ handle ∈ chain, handle.Stored) (urls : List String) :
    extend chain urls =
      chain ++ ((urls.filterMap Handle.find?).filter (· ∉ chain)).eraseDups := by
  induction urls generalizing chain with
  | nil => simp [extend]
  | cons url rest ih =>
      rw [extend, List.filterMap_cons]
      cases hfind : Handle.find? url with
      | none => exact ih hchain
      | some handle =>
          have hstored : handle.Stored := ⟨url, hfind⟩
          have hany := any_url_eq_iff hchain hstored
          dsimp only
          by_cases hmem : handle ∈ chain
          · rw [if_pos (hany.mpr hmem), ih hchain, List.filter_cons_of_neg (by simpa using hmem)]
          · rw [if_neg (fun hon => hmem (hany.mp hon)), ih ?_,
              List.filter_cons_of_pos (by simpa using hmem), List.eraseDups_cons,
              List.filter_filter, List.append_assoc, List.singleton_append]
            · -- Whoever is neither on the chain nor the new client is not on the new chain.
              refine congrArg (chain ++ handle :: ·.eraseDups) (List.filter_congr fun other _ => ?_)
              by_cases hold : other ∈ chain <;> by_cases hsame : other = handle <;>
                simp [hold, hsame]
            · intro other hother
              rcases List.mem_append.mp hother with hold | hnew
              · exact hchain other hold
              · exact List.mem_singleton.mp hnew ▸ hstored

/-- No index comes on a chain a second time. -/
theorem nodup_url_extend (h : (chain.map Handle.url).Nodup) (urls : List String) :
    ((extend chain urls).map Handle.url).Nodup := by
  induction urls generalizing chain with
  | nil => exact h
  | cons url rest ih =>
      rw [extend]
      cases Handle.find? url with
      | none => exact ih h
      | some handle =>
          dsimp only
          split
          · exact ih h
          · next hnew =>
              refine ih ?_
              rw [List.map_append, List.nodup_append]
              refine ⟨h, List.pairwise_singleton _ _, ?_⟩
              intro early hearly late hlate hsame
              obtain ⟨other, hother, rfl⟩ := List.mem_map.mp hearly
              obtain rfl := List.mem_singleton.mp hlate
              exact hnew (List.any_eq_true.mpr ⟨other, hother, decide_eq_true hsame⟩)

end Plain

namespace Instant

open Registry (cooling)

variable {world : World Registry} {instant : Instant Registry}

/-- The URLs that the configuration of a client's index declares when it is read: none if
it cannot be read, or if there is no configuration. -/
def declared (world : World Registry) (instant : Instant Registry) (own : Handle) :
    List String :=
  match instant.value world (Read.config own) with
  | some (some config) => config.fallbacks
  | _ => []

/-- The client, and behind it the clients that its configuration declares. -/
def declaredChain (world : World Registry) (instant : Instant Registry) (own : Handle) :
    List Handle :=
  own :: own.firsts (instant.declared world own)

/-- A client is on the declared chain if it is the first one, or if the configuration of
the first one declares it. -/
theorem mem_declaredChain_iff {own handle : Handle} :
    handle ∈ instant.declaredChain world own ↔
      handle = own ∨ ∃ url ∈ instant.declared world own, Handle.find? url = some handle := by
  rw [declaredChain, List.mem_cons, Handle.mem_firsts_iff]
  by_cases hown : handle = own <;> simp [hown]

theorem value_extend (world : World Registry) (instant : Instant Registry)
    (chain : List Handle) (urls : List String) :
    instant.value world (Lookup.extend chain urls) = some (Plain.extend chain urls) := by
  induction urls generalizing instant chain with
  | nil => rfl
  | cons url rest ih =>
      have hfind : instant.value world (Lookup.find? url) = some (Handle.find? url) :=
        congrArg some (instant.state.find?_fst url)
      rw [Lookup.extend, Plain.extend, value_bind_some _ _ hfind]
      cases Handle.find? url with
      | none => exact ih _ chain
      | some handle =>
          dsimp only
          split
          · exact ih _ chain
          · exact ih _ (chain ++ [handle])

/-- What the URLs of a configuration make of the client alone. -/
theorem extend_singleton {own : Handle} (hown : own.Stored) (urls : List String) :
    Plain.extend [own] urls = own :: own.firsts urls := by
  rw [Plain.extend_eq (List.forall_mem_singleton.mpr hown), List.singleton_append, Handle.firsts]
  simp

/-- **The chain.**  If a client of the store has a chain, it is the client and what its own
configuration declares. -/
theorem chain_of_value {own : Handle} (hown : own.Stored) {chain : List Handle}
    (hchain : instant.value world (Lookup.chain own) = some chain) :
    chain = instant.declaredChain world own := by
  obtain ⟨address, rfl, -⟩ := hown.exists_address
  rw [Lookup.chain, value_bind] at hchain
  obtain ⟨found, hfound, hrest⟩ := Option.bind_eq_some_iff.mp hchain
  have hread := read_of_value_attempt hfound
  rw [declaredChain, declared, ← hread]
  rcases found with _ | (_ | config)
  · exact (Option.some.inj hrest).symm
  · exact (Option.some.inj hrest).symm
  · dsimp only at hrest ⊢
    rw [value_extend] at hrest
    rw [← extend_singleton hown]
    exact (Option.some.inj hrest).symm

/-- Failures that can be reported keep no client from having its chain. -/
theorem value_chain_eq {own : Handle} (hown : own.Stored) (hworld : world.Keeps cooling)
    (hcooldown : cooling.state instant.state) :
    instant.value world (Lookup.chain own) = some (instant.declaredChain world own) := by
  obtain ⟨chain, hchain⟩ := value_chain hworld hcooldown own
  rw [hchain, chain_of_value hown hchain]

/-- All indexes of a declared chain are different. -/
theorem nodup_url_declaredChain {own : Handle} (hown : own.Stored) :
    ((instant.declaredChain world own).map Handle.url).Nodup := by
  have hsingle : ([own].map Handle.url).Nodup := List.pairwise_singleton _ _
  rw [declaredChain, ← extend_singleton hown]
  exact Plain.nodup_url_extend hsingle _

end Instant

end ManifestLint
