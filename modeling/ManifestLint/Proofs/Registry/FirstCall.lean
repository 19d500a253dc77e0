import ManifestLint.Proofs.Registry.Clearing
import ManifestLint.Proofs.Registry.Determined
import ManifestLint.Proofs.Registry.Raising
import ManifestLint.Proofs.Registry.Sending

/-!
# Every call answers as if it were the first

A store is asked one thing after the other: lookups through its clients, and orders to
clear caches or to change the token.  Caches fill up on the way, failures are noted,
and both are forgotten again.  If each request has one reply, none of this can be seen
in an answer: whatever was called before, a lookup ends as it would if it were the first
call on a new store.

What the calls leave to each other is that the registry is coherent, and that its fetcher
is what the first one may have become (`Registry.standing`).

* `StoreCall.keeps_standing`: each call, orders included, leaves it so.
* `answers_as_first_call`: the answers to a sequence of calls.
-/

namespace ManifestLint

/-! ## Calls -/

/-- What can be asked of a store: a query to its client for a URL, or an order to the
store itself. -/
inductive StoreCall where
  | query (url : String) (query : Query)
  | setToken (token : Option String)
  | invalidateAll

namespace StoreCall

/-- The lookup that does what is asked. -/
def lookup : StoreCall → Lookup Answer
  | query url asked => do asked.run (← Lookup.require url)
  | setToken token => (Errand.setStoreToken token).lookup
  | invalidateAll => Errand.invalidateAll.lookup

/-- The call looks something up, and is no order. -/
def IsLookup : StoreCall → Prop
  | query _ asked => asked.IsLookup
  | setToken _ => False
  | invalidateAll => False

/-- The token that a call may give to the fetcher, if it may give it one. -/
def newToken? : StoreCall → Option (Option String)
  | query _ (.setToken token) => some (usableToken token)
  | query _ _ => none
  | setToken token => some (usableToken token)
  | invalidateAll => none

end StoreCall

/-- A token is given to the fetcher by one of some calls. -/
def TokenOf (calls : List StoreCall) (token : Option String) : Prop :=
  ∃ call ∈ calls, call.newToken? = some token

/-! ## What calls leave to each other -/

/-- The registry is coherent, and its fetcher is what some fetcher may have become. -/
def Registry.standing (answer : Request → Reply) (tokens : Option String → Prop)
    (fetcher : Fetcher) : Agreement Registry :=
  (coherence answer (fetcher.replies answer)).and (sending (fetcher.Becomes tokens))

/-- The world in which each request has one reply, and nothing happens meanwhile but that
time passes. -/
def World.passing (answer : Request → Reply) (seconds : Nat → Float) : World Registry where
  reply _ := answer
  others waits registry :=
    { registry with notifier := registry.notifier.advance (seconds waits) }

namespace World

variable (answer : Request → Reply) (seconds : Nat → Float)

theorem keeps_coherence_passing (replies : Request → Reply) :
    (passing answer seconds).Keeps (Registry.coherence answer replies) where
  reply _ _ := rfl
  others _ _ hcoherent := hcoherent.frame rfl fun _ => rfl

theorem keeps_cooling_passing : (passing answer seconds).Keeps Registry.cooling where
  reply _ _ := trivial
  others _ _ hcooling := hcooling

theorem keeps_standing_passing (tokens : Option String → Prop) (fetcher : Fetcher) :
    (passing answer seconds).Keeps (Registry.standing answer tokens fetcher) :=
  (keeps_coherence_passing answer seconds _).and ⟨fun _ _ => trivial, fun _ _ hstate => hstate⟩

end World

namespace Instant

open Registry (coherence standing)

variable {answer : Request → Reply} {tokens : Option String → Prop} {fetcher : Fetcher}

theorem keeps_standing_browses {refusal : Version.NotANumber → Prop} {α : Type}
    {lookup : Lookup α} (h : Lookup.Browses refusal lookup) :
    Keeps (standing answer tokens fetcher) (fun _ => True) (fun _ => True) lookup := by
  have hsend : ∀ (later : Fetcher) (request : Request), fetcher.Becomes tokens later →
      fetcher.Becomes tokens (later.send request).2 := fun _ request hlater => hlater.send request
  exact Keeps.and h.keeps_coherence (h.keeps_sending hsend)

/-- A client may be changed as long as nothing gets into its cache. -/
theorem keeps_standing_update (handle : Handle) {change : Client → Client}
    (hitems : ∀ (client : Client) (item : Item), item.In (change client).cache →
      item.In client.cache) :
    Keeps (standing answer tokens fetcher) (fun _ => True) (fun _ => True)
      (modify (·.update handle change) : Lookup PUnit) := by
  apply keeps_modify
  rintro registry ⟨hcoherent, hbecomes⟩
  refine ⟨hcoherent.update handle ?_, hbecomes⟩
  intro client item hitem
  exact .inl (hitems client item hitem)

theorem keeps_standing_invalidate (handle : Handle) :
    Keeps (standing answer tokens fetcher) (fun _ => True) (fun _ => True)
      (Lookup.invalidate handle) := by
  have hclear : Keeps (standing answer tokens fetcher) (fun _ => True) (fun _ => True)
      (modify (·.update handle fun client => { client with cache := {} }) : Lookup PUnit) := by
    apply keeps_standing_update
    intro client item hitem
    cases item <;> cases hitem
  have hconfig : Lookup.Browses (fun _ => True) (Lookup.config handle) :=
    Lookup.browses_config handle
  exact hclear.bind fun _ _ => (keeps_standing_browses hconfig).bind fun _ _ => keeps_pure trivial

theorem keeps_standing_tokenChanged (handle : Handle) (token : Option String) :
    Keeps (standing answer tokens fetcher) (fun _ => True) (fun _ => True)
      (Lookup.tokenChanged handle token) := by
  have hnote : Keeps (standing answer tokens fetcher) (fun _ => True) (fun _ => True)
      (modify (·.update handle fun client => { client with token := usableToken token }) :
        Lookup PUnit) :=
    keeps_standing_update handle fun _ _ hitem => hitem
  exact hnote.bind fun _ _ => keeps_standing_invalidate handle

variable (hfixed : fetcher.Fixed answer tokens)

include hfixed

/-- The replies stay as they are when one of the tokens is given to the fetcher, be it
that the fetcher does not take it. -/
theorem keeps_standing_setFetcherToken {token : Option String} (htoken : tokens token) :
    Keeps (standing answer tokens fetcher) (fun _ => True) (fun _ => True)
      (Lookup.setFetcherToken token) := by
  rintro registry ⟨hcoherent, hbecomes⟩
  have hlater : fetcher.Becomes tokens (registry.fetcher.setToken token).2 :=
    hbecomes.setToken htoken
  have hkept : (standing answer tokens fetcher).state
      { registry with fetcher := (registry.fetcher.setToken token).2 } :=
    ⟨⟨hfixed _ hlater, hcoherent.holds⟩, hlater⟩
  rw [run_setFetcherToken]
  cases (registry.fetcher.setToken token).1 <;> exact ⟨hkept, trivial⟩

theorem keeps_standing_setStoreToken {token : Option String}
    (htoken : tokens (usableToken token)) :
    Keeps (standing answer tokens fetcher) (fun _ => True) (fun _ => True)
      (Lookup.setStoreToken token) := by
  apply keeps_get.bind
  intro registry _
  split
  · exact keeps_pure trivial
  · have hnote : Keeps (standing answer tokens fetcher) (fun _ => True) (fun _ => True)
        (modify fun registry => { registry with token := usableToken token } :
          Lookup PUnit) := by
      apply keeps_modify
      rintro registry ⟨hcoherent, hbecomes⟩
      exact ⟨hcoherent.frame rfl fun _ => rfl, hbecomes⟩
    refine hnote.bind fun _ _ => (keeps_standing_setFetcherToken hfixed htoken).bind fun _ _ => ?_
    apply keeps_get.bind
    intro later _
    have htold : Keeps (standing answer tokens fetcher) (fun _ => True) (fun _ => True)
        (later.shared.forM (Lookup.tokenChanged · (usableToken token))) :=
      keeps_forM fun handle _ => keeps_standing_tokenChanged handle _
    exact htold.bind fun _ _ => keeps_pure trivial

theorem keeps_standing_setToken (handle : Handle) {token : Option String}
    (htoken : tokens (usableToken token)) :
    Keeps (standing answer tokens fetcher) (fun _ => True) (fun _ => True)
      (Lookup.setToken handle token) := by
  cases handle with
  | shared address => exact keeps_standing_setStoreToken hfixed htoken
  | alone url address =>
      apply keeps_get.bind
      intro registry _
      split
      · exact keeps_pure trivial
      · refine (keeps_standing_setFetcherToken hfixed htoken).bind fun _ _ => ?_
        exact (keeps_standing_tokenChanged _ _).bind fun _ _ => keeps_pure trivial

/-- Each query leaves the registry so, if the token that it may set is one of those. -/
theorem keeps_standing_query (handle : Handle) (query : Query)
    (htoken : ∀ token, query = .setToken token → tokens (usableToken token)) :
    Keeps (standing answer tokens fetcher) (fun _ => True) (fun _ => True)
      (query.run handle) := by
  have hlookup : query.IsLookup → Keeps (standing answer tokens fetcher) (fun _ => True)
      (fun _ => True) (query.run handle) := by
    intro hquery
    have hbrowses : Lookup.Browses (fun _ => True) (query.run handle) :=
      Query.browses hquery handle fun _ _ _ => trivial
    exact keeps_standing_browses hbrowses
  cases query with
  | invalidate => exact (keeps_standing_invalidate handle).bind fun _ _ => keeps_pure trivial
  | setToken token =>
      exact (keeps_standing_setToken hfixed handle (htoken token rfl)).bind
        fun _ _ => keeps_pure trivial
  | tokenChanged token =>
      exact (keeps_standing_tokenChanged handle token).bind fun _ _ => keeps_pure trivial
  | _ => exact hlookup trivial

end Instant

open Instant in
/-- **Calls.**  Each call leaves the registry coherent, and its fetcher what the first
one may have become. -/
theorem StoreCall.keeps_standing {answer : Request → Reply} {tokens : Option String → Prop}
    {fetcher : Fetcher} (hfixed : fetcher.Fixed answer tokens) (call : StoreCall)
    (htoken : ∀ token, call.newToken? = some token → tokens token) :
    Keeps (Registry.standing answer tokens fetcher) (fun _ => True) (fun _ => True)
      call.lookup := by
  cases call with
  | query url asked =>
      have hfind : Lookup.Browses (fun _ => True) (Lookup.find? url) := .find? url
      have hrequire : Keeps (Registry.standing answer tokens fetcher) (fun _ => True)
          (fun _ => True) (Lookup.require url) := by
        refine (keeps_standing_browses hfind).bind fun found _ => ?_
        cases found with
        | none => exact keeps_throw trivial
        | some handle => exact keeps_pure trivial
      refine hrequire.bind fun handle _ => keeps_standing_query hfixed handle asked ?_
      rintro token rfl
      exact htoken _ rfl
  | setToken token =>
      exact (keeps_standing_setStoreToken hfixed (htoken _ rfl)).bind fun _ _ => keeps_pure trivial
  | invalidateAll =>
      have hall : Keeps (Registry.standing answer tokens fetcher) (fun _ => True)
          (fun _ => True) Lookup.invalidateAll := by
        apply keeps_get.bind
        intro registry _
        exact keeps_forM fun handle _ => keeps_standing_invalidate handle
      exact hall.bind fun _ _ => keeps_pure trivial

/-! ## What a lookup ends with -/

namespace StoreCall

open Instant

/-- The client for a URL is the same one in every registry, or there is none in any. -/
theorem settles_require {answer replies : Request → Reply} (url : String) :
    Settles (Registry.coherence answer replies) (· = .noCooldown) (Lookup.require url)
      (match Handle.find? url with
        | some handle => .ok handle
        | none => .error (.address (.unsupported url))) := by
  have hfind : Settles (Registry.coherence answer replies) (· = .noCooldown)
      (Lookup.find? url) (.ok (Handle.find? url)) := settles_find? url
  refine hfind.bind_ok ?_
  cases Handle.find? url with
  | none => exact settles_throw _
  | some handle => exact settles_pure handle

theorem keeps_cooling_require (url : String) :
    Keeps Registry.cooling (fun _ => True) (· ≠ .noCooldown) (Lookup.require url) := by
  have hfind : Keeps Registry.cooling (fun _ => True) (· ≠ .noCooldown) (Lookup.find? url) := by
    have hbrowses : Lookup.Browses (fun _ => False) (Lookup.find? url) := .find? url
    refine (keeps_cooling_browses hbrowses).weaken ?_
    rintro fault ⟨error, hnever, -⟩
    exact hnever.elim
  refine hfind.bind fun found _ => ?_
  cases found with
  | none => exact keeps_throw nofun
  | some handle => exact keeps_pure trivial

/-- What a lookup ends with is determined by the replies. -/
theorem determined (answer replies : Request → Reply) {call : StoreCall} (h : call.IsLookup) :
    ∃ expected, Settles (Registry.coherence answer replies) (· = .noCooldown) call.lookup
      expected := by
  cases call with
  | query url asked =>
      have hdetermined : ∀ handle, ∃ expected,
          Settles (Registry.coherence answer replies) (· = .noCooldown) (asked.run handle)
            expected := by
        intro handle
        have hbrowses : Lookup.Browses (fun _ => True) (asked.run handle) :=
          Query.browses h handle fun _ _ _ => trivial
        exact hbrowses.determined answer replies
      obtain ⟨expected, hexpected⟩ := Classical.skolem.mp hdetermined
      exact ⟨_, (settles_require url).bind fun handle _ => hexpected handle⟩
  | setToken token => exact h.elim
  | invalidateAll => exact h.elim

/-- A lookup does not miss a cooldown that is there. -/
theorem keeps_cooling {call : StoreCall} (h : call.IsLookup) :
    Keeps Registry.cooling (fun _ => True) (· ≠ .noCooldown) call.lookup := by
  cases call with
  | query url asked =>
      have hasked : ∀ handle, Keeps Registry.cooling (fun _ => True) (· ≠ .noCooldown)
          (asked.run handle) := by
        intro handle
        have hbrowses : Lookup.Browses (fun _ => True) (asked.run handle) :=
          Query.browses h handle fun _ _ _ => trivial
        refine (keeps_cooling_browses hbrowses).weaken ?_
        rintro fault ⟨error, -, rfl⟩
        exact nofun
      exact (keeps_cooling_require url).bind fun handle _ => hasked handle
  | setToken token => exact h.elim
  | invalidateAll => exact h.elim

/-- No call takes the cooldown away. -/
theorem keeps_cooling_always (call : StoreCall) :
    Keeps Registry.cooling (fun _ => True) (fun _ => True) call.lookup := by
  cases call with
  | query url asked =>
      have hrequire : Keeps Registry.cooling (fun _ => True) (fun _ => True)
          (Lookup.require url) := by
        refine (keeps_cooling_of_obeys (Fallible.obeys_find? url)).bind fun found _ => ?_
        cases found with
        | none => exact keeps_throw trivial
        | some handle => exact keeps_pure trivial
      exact hrequire.bind fun handle _ =>
        keeps_cooling_of_obeys (Fallible.obeys_query handle asked)
  | setToken token =>
      exact keeps_cooling_of_obeys (Fallible.obeys_errand (.setStoreToken token))
  | invalidateAll => exact keeps_cooling_of_obeys (Fallible.obeys_errand .invalidateAll)

end StoreCall

/-! ## The answers -/

section

open Instant

variable {answer : Request → Reply} {seconds : Nat → Float} {fetcher : Fetcher}
  {token : Option String} {calls : List StoreCall}

/-- What one of some calls ends with, it ends with in a registry that was left by the
calls before it. -/
theorem StoreCall.ended_inTurn {world : World Registry} {agreement : Agreement Registry}
    (start : Instant Registry)
    (hkeeps : ∀ call ∈ calls, Keeps agreement (fun _ => True) (fun _ => True) call.lookup)
    (hworld : world.Keeps agreement) (hstart : agreement.state start.state) {place : Nat}
    {call : StoreCall} (hcall : calls[place]? = some call) :
    ∃ now : Instant Registry, agreement.state now.state ∧
      (start.inTurn world (calls.map lookup))[place]? = some (now.ended world call.lookup) := by
  have hactions : ∀ action ∈ calls.map lookup,
      Keeps agreement (fun _ => True) (fun _ => True) action := by
    intro action haction
    obtain ⟨other, hother, rfl⟩ := List.mem_map.mp haction
    exact hkeeps other hother
  have hlt : place < (start.inTurn world (calls.map lookup)).length := by
    rw [length_inTurn, List.length_map]
    exact (List.getElem?_eq_some_iff.mp hcall).1
  obtain ⟨action, now, haction, hnow, hended⟩ :=
    getElem?_inTurn hactions hworld hstart (List.getElem?_eq_getElem hlt)
  rw [List.getElem?_map, hcall] at haction
  obtain rfl : call.lookup = action := Option.some.inj haction
  exact ⟨now, hnow, (List.getElem?_eq_getElem hlt).trans (congrArg some hended.symm)⟩

/-- With a cooldown, no lookup among some calls misses it. -/
theorem StoreCall.not_noCooldown {cooldown : Float} {place : Nat} {call : StoreCall}
    (hcall : calls[place]? = some call) (hlookup : call.IsLookup) :
    ((⟨Registry.new fetcher (some cooldown) token, 0⟩ : Instant Registry).inTurn
      (.passing answer seconds) (calls.map lookup))[place]? ≠ some (.error .noCooldown) := by
  have hworld := World.keeps_cooling_passing answer seconds
  obtain ⟨now, hnow, hended⟩ := StoreCall.ended_inTurn
    ⟨Registry.new fetcher (some cooldown) token, 0⟩
    (fun other _ => other.keeps_cooling_always) hworld rfl hcall
  rw [hended]
  intro hfault
  have hkeeps := StoreCall.keeps_cooling hlookup
  exact (hkeeps.ended hworld hnow).of_error (Option.some.inj hfault) rfl

/-- **First calls.**  Let each request have one reply, whichever of the tokens are set
that some calls set.  Whatever the calls are and however much time passes, each lookup
among them ends with exactly what it ends with as the first call on a new store, whatever
has become of the fetcher by then and whichever token the new store has.  The one exception
is a store whose notices have no cooldown: a notice that cannot be held against it is a
fault. -/
theorem answers_as_first_call (answer : Request → Reply) (fetcher : Fetcher)
    (cooldown : Option Float) (token : Option String) (calls : List StoreCall)
    (hfixed : fetcher.Fixed answer (TokenOf calls)) (seconds otherSeconds : Nat → Float) :
    let answers := (⟨Registry.new fetcher cooldown token, 0⟩ : Instant Registry).inTurn
      (.passing answer seconds) (calls.map StoreCall.lookup)
    ∀ (place : Nat) (call : StoreCall), calls[place]? = some call → call.IsLookup →
      ∀ later, fetcher.Becomes (TokenOf calls) later → ∀ otherToken : Option String,
        let alone := (⟨Registry.new later cooldown otherToken, 0⟩ : Instant Registry).ended
          (.passing answer otherSeconds) call.lookup
        ∃ ended, answers[place]? = some ended ∧
          (ended = alone ∨
            cooldown = none ∧ (ended = .error .noCooldown ∨ alone = .error .noCooldown)) := by
  intro answers place call hcall hlookup later hlater otherToken alone
  let replies := fetcher.replies answer
  have hkeeps : ∀ other ∈ calls, Keeps (Registry.standing answer (TokenOf calls) fetcher)
      (fun _ => True) (fun _ => True) other.lookup := by
    intro other hother
    apply other.keeps_standing hfixed
    intro newToken hnew
    exact ⟨other, hother, hnew⟩
  have hnew := Registry.coherent_new answer fetcher cooldown token
  obtain ⟨now, ⟨hnow, -⟩, hended⟩ := StoreCall.ended_inTurn
    ⟨Registry.new fetcher cooldown token, 0⟩ hkeeps
    (World.keeps_standing_passing answer seconds _ fetcher) ⟨hnew, .refl⟩ hcall
  have hfirst : (Registry.new later cooldown otherToken).Coherent answer replies := by
    have hsame : later.replies answer = replies := hfixed later hlater
    exact hsame ▸ Registry.coherent_new answer later cooldown otherToken
  obtain ⟨expected, hsettles⟩ := call.determined answer replies hlookup
  have hinTurn := hsettles.ended_cases (World.keeps_coherence_passing answer seconds _) hnow
  have halone : alone = expected ∨ ∃ fault, fault = .noCooldown ∧ alone = .error fault :=
    hsettles.ended_cases (World.keeps_coherence_passing answer otherSeconds _) hfirst
  refine ⟨_, hended, ?_⟩
  -- Without a fault of the notices both end as the replies determine.
  rcases hinTurn with hinTurn | ⟨fault, rfl, hfault⟩
  · rcases halone with halone | ⟨fault, rfl, hfault⟩
    · exact .inl (hinTurn.trans halone.symm)
    · cases cooldown with
      | none => exact .inr ⟨rfl, .inr hfault⟩
      | some number =>
          let first : Instant Registry := ⟨Registry.new later (some number) otherToken, 0⟩
          have hcold : Registry.cooling.state first.state := rfl
          have hcooling := (StoreCall.keeps_cooling hlookup).ended
            (World.keeps_cooling_passing answer otherSeconds) hcold
          exact absurd rfl (hcooling.of_error hfault)
  · cases cooldown with
    | none => exact .inr ⟨rfl, .inl hfault⟩
    | some number =>
        have hinTurn := hended.trans (congrArg some hfault)
        exact absurd hinTurn (StoreCall.not_noCooldown hcall hlookup)

end

/-! ## Some calls

An index whose configuration cannot be read is asked for the packages of an author, in
capitals.  Then the token is changed, caches are cleared, and an author is asked for who is
not listed; and then the packages are asked for again. -/

namespace Unconfigured

/-- The address of the index. -/
def url : String := "https://github.com/o/r"

/-- The root lists one author, who has one package, and a configuration, which cannot be
had. -/
def answer (request : Request) : Reply :=
  let entry (path kind id : String) : Json :=
    .object [("path", .string path), ("type", .string kind), ("sha", .string id)]
  match request.idText with
  | "main" => .ok (.found (.array [entry "a" "tree" "ta", entry "config.json" "blob" "c"]))
  | "ta" => .ok (.found (.array [entry "b" "blob" "bb"]))
  | _ => .ok { status := 500 }

/-- The last call. -/
def last : StoreCall := .query url (.packageNames "a")

/-- All calls. -/
def calls : List StoreCall :=
  [.query "https://github.com/O/R/" (.packageNames "A"), .query url .reachable,
    .query url (.setToken (some "t")), .query url .invalidate, .invalidateAll,
    .query url (.authorValidity "nobody"), last]

/-- A new store. -/
def start : Instant Registry := ⟨Registry.new {} (some defaultCooldown) none, 0⟩

/-- A second passes at every request. -/
def world : World Registry := .passing answer fun _ => 1

/-- The packages that the last call finds on a new store. -/
def packages : Option (List String) :=
  match start.ended world last.lookup with
  | .ok (.texts names) => some names
  | _ => none

end Unconfigured

open Unconfigured in
/-- The packages are the ones that the first call on a new store finds. -/
theorem packages_as_first_call :
    ({} : Fetcher).Fixed answer (TokenOf calls) ∧ calls[6]? = some last ∧ last.IsLookup ∧
      (start.inTurn world (calls.map StoreCall.lookup))[6]? =
        some (start.ended world last.lookup) ∧ packages = some ["b"] := by
  have hfixed : ({} : Fetcher).Fixed answer (TokenOf calls) := Fetcher.fixed_of_memory rfl
  have hlast : calls[6]? = some last := rfl
  have hlookup : last.IsLookup := trivial
  obtain ⟨ended, hended, hsame⟩ :=
    answers_as_first_call answer {} (some defaultCooldown) none calls hfixed (fun _ => 1)
      (fun _ => 1) 6 last hlast hlookup {} .refl none
  have hfirst : ended = start.ended world last.lookup := by
    rcases hsame with hsame | ⟨hnone, -⟩
    · exact hsame
    · cases hnone
  have hpackages : packages = some ["b"] := by decide +kernel
  exact ⟨hfixed, hlast, hlookup, hfirst ▸ hended, hpackages⟩

end ManifestLint
