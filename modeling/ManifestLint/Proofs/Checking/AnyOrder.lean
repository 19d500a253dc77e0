import Mathlib.Tactic.Choose
import ManifestLint.Proofs.Fetching.Pool
import ManifestLint.Proofs.Registry.Determined

/-!
# Checks in any order

The checks of a document run side by side on one store, and so do those of other
documents.  They share the caches of all clients, and replies come in any order.  If
the host gives each request one reply and nobody clears a cache, all of this leaves
the findings as they are: each check that ends without a fault finds what it would
find alone.

* `Pool.Turn.Browses`: what may happen in such a run.
* `findings_in_any_order`: the findings of a document, and of a dependency.
-/

namespace ManifestLint

open ManifestLint.Toml (Position Span)

/-- What may happen on a store while nobody clears a cache and each request has one
reply: lookups are started, requests answered, clients found; and the notices may
change in any way, as time passes. -/
inductive Pool.Turn.Browses (answer : Request → Reply) {α : Type} :
    Pool.Turn Registry (Except Fault α) → Prop where
  | start {lookup : Lookup α} (hbrowses : Lookup.Browses (fun _ => True) lookup) :
    Browses answer (.start lookup.run)
  | answer (place : Nat) : Browses answer (.answer place answer)
  | find? (url : String) : Browses answer (.meanwhile fun registry => (registry.find? url).2)
  | notices (change : Notifier Float → Notifier Float) : Browses answer
    (.meanwhile fun registry => { registry with notifier := change registry.notifier })

/-- In a run each of some checks was started, and has ended with its value. -/
def Pool.Gathers {α : Type} (registry : Registry)
    (turns : List (Pool.Turn Registry (Except Fault α))) (checks : List (Lookup α))
    (values : List α) : Prop :=
  values.length = checks.length ∧ ∃ place : Nat → Nat, ∀ (i : Nat) (check : Lookup α) (value : α),
    checks[i]? = some check → values[i]? = some value →
      (started turns)[place i]? = some check.run ∧
        ((opened registry).run turns).stages[place i]? = some (.ended (.ok value))

section

open Registry (coherence)

variable {answer replies : Request → Reply} {α : Type} {registry : Registry}
  {turns : List (Pool.Turn Registry (Except Fault α))}

theorem Pool.Turn.Browses.agrees {turn : Pool.Turn Registry (Except Fault α)}
    (h : turn.Browses answer) : turn.Agrees (coherence answer replies) := by
  cases h with
  | start hbrowses => trivial
  | answer place => exact fun _ => rfl
  | find? url => exact fun _ hcoherent => hcoherent.find? url
  | notices change => exact fun _ hcoherent => hcoherent.frame rfl fun _ => rfl

theorem Pool.Turn.Browses.keeps (hturns : ∀ turn ∈ turns, turn.Browses answer)
    {action : Action Registry (Except Fault α)} (haction : action ∈ started turns) :
    action.Keeps (coherence answer replies) fun _ => True := by
  obtain ⟨turn, hmem, hstarted⟩ := List.mem_filterMap.mp haction
  cases hturns turn hmem with
  | start hbrowses =>
      obtain ⟨expected, hsettles⟩ := hbrowses.determined answer replies
      obtain rfl := Option.some.inj hstarted
      exact Action.Keeps.mono hsettles fun _ _ => trivial
  | _ => cases hstarted

/-- A lookup that has ended in a run ends as the replies determine. -/
theorem Pool.eq_of_ended (hregistry : registry.Coherent answer replies)
    (hturns : ∀ turn ∈ turns, turn.Browses answer) {place : Nat} {lookup : Lookup α}
    (hstarted : (started turns)[place]? = some lookup.run) {expected : Except Fault α}
    (hsettles : Instant.Settles (coherence answer replies) (· = .noCooldown) lookup expected)
    {value : α}
    (hended : ((opened registry).run turns).stages[place]? = some (.ended (.ok value))) :
    expected = .ok value := by
  have hagrees : ∀ turn ∈ turns, turn.Agrees (coherence answer replies) :=
    fun turn hturn => (hturns turn hturn).agrees
  have hkeeps : ∀ action ∈ started turns,
      action.Keeps (coherence answer replies) fun _ => True :=
    fun action haction => Turn.Browses.keeps hturns haction
  exact value_of_keeps hregistry hagrees hkeeps hstarted hsettles hended

/-- What a run gathers of some lookups is what they give in turn. -/
theorem Pool.Gathers.eq_inTurn (hregistry : registry.Coherent answer replies)
    (hturns : ∀ turn ∈ turns, turn.Browses answer) {checks : List (Lookup α)}
    (hchecks : ∀ check ∈ checks, Lookup.Browses (fun _ => True) check) {values alone : List α}
    (h : Pool.Gathers registry turns checks values) {start : Instant Registry}
    (hstart : start.state.Coherent answer replies)
    (halone : gathered (start.inTurn (.steady answer) checks) = .ok alone) : values = alone := by
  obtain ⟨hlength, place, hplace⟩ := h
  have hworld := World.keeps_coherence_steady answer replies
  have hkeeps : ∀ check ∈ checks,
      Instant.Keeps (coherence answer replies) (fun _ => True) (fun _ => True) check :=
    fun check hcheck => (hchecks check hcheck).keeps_coherence
  have hended : start.inTurn (.steady answer) checks = alone.map .ok := gathered_eq_ok halone
  have hcount : alone.length = checks.length := by
    rw [← Instant.length_inTurn (.steady answer) start checks, hended, List.length_map]
  refine List.ext_getElem (hlength.trans hcount.symm) fun i hvalues halone => ?_
  have hi : i < checks.length := hlength ▸ hvalues
  obtain ⟨hstarted, hvalue⟩ := hplace i checks[i] values[i] (List.getElem?_eq_getElem hi)
    (List.getElem?_eq_getElem hvalues)
  obtain ⟨expected, hsettles⟩ :=
    (hchecks checks[i] (List.getElem_mem hi)).determined answer replies
  have hinRun : expected = .ok values[i] :=
    Pool.eq_of_ended hregistry hturns hstarted hsettles hvalue
  have hthere : (start.inTurn (.steady answer) checks)[i]? = some (.ok alone[i]) := by
    rw [hended, List.getElem?_map, List.getElem?_eq_getElem halone]
    rfl
  obtain ⟨action, later, haction, hlater, hlast⟩ :=
    Instant.getElem?_inTurn hkeeps hworld hstart hthere
  obtain rfl : checks[i] = action :=
    Option.some.inj ((List.getElem?_eq_getElem hi).symm.trans haction)
  have hinTurn : expected = .ok alone[i] := hsettles.eq_of_ended hworld hlater hlast
  exact Except.ok.inj (hinRun.symm.trans hinTurn)

end

/-! ## The findings -/

/-- The check of a dependency looks at nothing of it but its specifier and its span. -/
theorem Rule.dependency_congr (handle : Handle) (listed : Realm) {dependency other : Dependency}
    (hspecifier : dependency.specifier = other.specifier)
    (hspan : dependency.valueSpan = other.valueSpan) :
    Rule.dependency handle listed dependency = Rule.dependency handle listed other := by
  unfold Rule.dependency author package requirement placement upgrade misplacement?
  simp only [hspecifier, hspan]

/-- The findings of a manifest are in the order of their starts. -/
theorem Rule.sorted_pairwise (manifest : Manifest) (found : List (Option Finding)) :
    (Rule.sorted manifest found).Pairwise fun a b => a.span.start ≤ b.span.start := by
  have htrans : ∀ a b c : Finding, decide (a.span.start ≤ b.span.start) = true →
      decide (b.span.start ≤ c.span.start) = true →
        decide (a.span.start ≤ c.span.start) = true := by
    intro a b c hab hbc
    simp only [decide_eq_true_eq, Position.le_iff] at *
    omega
  have htotal : ∀ a b : Finding, (decide (a.span.start ≤ b.span.start) ||
      decide (b.span.start ≤ a.span.start)) = true := by
    intro a b
    simp only [Bool.or_eq_true, decide_eq_true_eq, Position.le_iff]
    omega
  refine (List.pairwise_mergeSort htrans htotal _).imp fun hle => ?_
  exact of_decide_eq_true hle

/-- **Any order.**  Let the host give each request one reply, and lookups run side by
side on a store through a fetcher, so that their replies come in any order.  If the
checks of a manifest have ended without a fault, the findings are the same as if the
checks had run one after the other on a new store, and are in the order of their
starts.  And there is one function of the URL of the index, the realm, the specifier
and the span that gives what the check of a dependency has found, whatever else is in
the manifest and whatever else has run. -/
theorem findings_in_any_order (answer : Request → Reply) (fetcher : Fetcher) :
    ∃ finding : String → Realm → Specifier → Span → Except Fault (Option Finding),
      ∀ (cooldown : Option Float) (token : Option String)
        (turns : List (Pool.Turn Registry (Except Fault (Option Finding)))),
        (∀ turn ∈ turns, turn.Browses answer) →
        let registry := Registry.new fetcher cooldown token
        (∀ (manifest : Manifest) (values alone : List (Option Finding)),
          let checks := Rule.checks manifest (Handle.find? manifest.indexUrl)
          let start : Instant Registry := ⟨(registry.find? manifest.indexUrl).2, 0⟩
          Pool.Gathers registry turns checks values →
          gathered (start.inTurn (.steady answer) checks) = .ok alone →
            Rule.sorted manifest values = Rule.sorted manifest alone ∧
              (Rule.sorted manifest values).Pairwise fun a b => a.span.start ≤ b.span.start) ∧
        ∀ (place : Nat) (url : String) (handle : Handle) (listed : Realm)
          (dependency : Dependency) (value : Option Finding), Handle.find? url = some handle →
          (started turns)[place]? = some (Rule.dependency handle listed dependency).run →
          ((Pool.opened registry).run turns).stages[place]? = some (.ended (.ok value)) →
            finding url listed dependency.specifier dependency.valueSpan = .ok value := by
  let replies := fetcher.replies answer
  let written (specifier : Specifier) (valueSpan : Span) : Dependency :=
    { key := "", valueSpan, specifier }
  have hdetermined : ∀ (url : String) (listed : Realm) (specifier : Specifier) (span : Span),
      ∃ expected, ∀ handle, Handle.find? url = some handle →
        Instant.Settles (Registry.coherence answer replies) (· = .noCooldown)
          (Rule.dependency handle listed (written specifier span)) expected := by
    intro url listed specifier span
    cases hfind : Handle.find? url with
    | none => exact ⟨.ok none, nofun⟩
    | some client =>
        have hbrowses : Lookup.Browses (fun _ => True)
            (Rule.dependency client listed (written specifier span)) :=
          Rule.browses_dependency client _ (fun _ _ => trivial) listed
        obtain ⟨expected, hsettles⟩ := hbrowses.determined answer replies
        refine ⟨expected, fun handle hhandle => ?_⟩
        exact Option.some.inj hhandle ▸ hsettles
  choose finding hfinding using hdetermined
  refine ⟨finding, fun cooldown token turns hturns => ⟨?_, ?_⟩⟩
  · intro manifest values alone checks start hgathers halone
    have hnew := Registry.coherent_new answer fetcher cooldown token
    have hchecks : ∀ check ∈ checks, Lookup.Browses (fun _ => True) check :=
      fun check hcheck => Rule.browses_of_mem (fun _ _ => trivial) hcheck
    have hsame : values = alone :=
      hgathers.eq_inTurn hnew hturns hchecks (hnew.find? manifest.indexUrl) halone
    exact ⟨congrArg (Rule.sorted manifest) hsame, Rule.sorted_pairwise manifest values⟩
  · intro place url handle listed dependency value hhandle hstarted hended
    have hnew := Registry.coherent_new answer fetcher cooldown token
    have hsettles := hfinding url listed dependency.specifier dependency.valueSpan handle hhandle
    have hsame : Rule.dependency handle listed (written dependency.specifier dependency.valueSpan)
        = Rule.dependency handle listed dependency :=
      Rule.dependency_congr handle listed rfl rfl
    exact Pool.eq_of_ended hnew hturns hstarted (hsame ▸ hsettles) hended

/-! ## A run -/

/-- The value that a lookup has ended with, if it has. -/
def Stage.found? {α : Type} : Stage Registry (Except Fault α) → Option α
  | .ended result => result.toOption
  | .waiting .. => none

theorem Stage.eq_ended_of_found? {α : Type} {stage : Stage Registry (Except Fault α)} {value : α}
    (h : stage.found? = some value) : stage = .ended (.ok value) := by
  cases stage with
  | ended result =>
      cases result with
      | ok other =>
          obtain rfl : other = value := Option.some.inj h
          rfl
      | error fault => cases h
  | waiting number request resume => cases h

/-- A run in which some checks are started first has gathered what is found in their
places. -/
theorem Pool.gathers_of_found {α : Type} {registry : Registry} {checks : List (Lookup α)}
    {rest : List (Pool.Turn Registry (Except Fault α))} {values : List α}
    (hlength : values.length = checks.length)
    (hfound : (((opened registry).run (checks.map (fun check => .start check.run) ++ rest)).stages
      |>.take checks.length |>.map Stage.found?) = values.map some) :
    Pool.Gathers registry (checks.map (fun check => .start check.run) ++ rest) checks values := by
  refine ⟨hlength, id, fun i check value hcheck hvalue => ⟨?_, ?_⟩⟩
  · have hstarted : started (checks.map fun check => Pool.Turn.start check.run) =
        checks.map fun check => check.run := by
      rw [started, List.filterMap_map]
      exact congrFun List.filterMap_eq_map checks
    have hlt : i < checks.length := (List.getElem?_eq_some_iff.mp hcheck).1
    rw [started, List.filterMap_append, ← started, hstarted, id,
      List.getElem?_append_left (by simpa using hlt), List.getElem?_map, hcheck]
    rfl
  · have hplace := congrArg (fun places => places[i]?) hfound
    simp only [List.getElem?_map, hvalue, Option.map_some] at hplace
    obtain ⟨stage, hstage, hstageFound⟩ := Option.map_eq_some_iff.mp hplace
    rw [← Stage.eq_ended_of_found? hstageFound, id, ← hstage, List.getElem?_take_of_lt]
    exact (List.getElem?_eq_some_iff.mp hcheck).1

namespace Unfinished

/-- A dependency of which only some of the author is written. -/
def dependency (author : String) : Dependency :=
  { key := "d", valueSpan := ⟨⟨7, 4⟩, ⟨7, 5⟩⟩, specifier := { author } }

/-- A manifest with such a dependency. -/
def manifest (author : String) : Manifest where
  package := { registry := { key := "registry", text := "https://github.com/o/r" } }
  dependencies := { shared := [dependency author] }

/-- The client of its index. -/
def client : Handle := .shared ⟨"o", "r"⟩

/-- The index lists one author, who has no packages. -/
def answer (request : Request) : Reply :=
  if request.idText = "main" then
    .ok (.found (.array [.object
      [("path", .string "a"), ("type", .string "tree"), ("sha", .string "ta")]]))
  else .ok (.found (.array []))

/-- A new registry with the usual cooldown. -/
def registry : Registry := .new {} (some defaultCooldown) none

/-- The checks of one manifest are started, and a check of another one; of the requests
for the root, which three of them have sent, the last is answered first. -/
def turns : List (Pool.Turn Registry (Except Fault (Option Finding))) :=
  (Rule.checks (manifest "x") (some client)).map (fun check => .start check.run)
    ++ [.start (Rule.dependency client .shared (dependency "a")).run,
      .answer 4 answer, .answer 3 answer, .answer 1 answer, .answer 4 answer]

/-- What the checks find. -/
def values : List (Option Finding) :=
  [none, none, none, some (.of .missingAuthor ⟨⟨7, 4⟩, ⟨7, 5⟩⟩ [])]

end Unfinished

open Unfinished in
/-- The run gathers what the checks find in turn, in the order of their starts. -/
theorem findings_of_unfinished_dependency :
    let checks := Rule.checks (manifest "x") (Handle.find? "https://github.com/o/r")
    let start : Instant Registry := ⟨(registry.find? "https://github.com/o/r").2, 0⟩
    Pool.Gathers registry turns checks values ∧
      gathered (start.inTurn (.steady answer) checks) = .ok values ∧
        (Rule.sorted (manifest "x") values).Pairwise fun a b => a.span.start ≤ b.span.start := by
  intro checks start
  obtain ⟨finding, hfinding⟩ := findings_in_any_order answer {}
  have hclient : Handle.find? "https://github.com/o/r" = some client := by decide
  have hturns : ∀ turn ∈ turns, turn.Browses answer := by
    intro turn hturn
    rcases List.mem_append.mp hturn with hcheck | hrest
    · obtain ⟨check, hmem, rfl⟩ := List.mem_map.mp hcheck
      exact .start (Rule.browses_of_mem (fun _ _ => trivial) hmem)
    · simp only [List.mem_cons, List.not_mem_nil, or_false] at hrest
      rcases hrest with rfl | rfl | rfl | rfl | rfl
      · exact .start (Rule.browses_dependency client _ (fun _ _ => trivial) .shared)
      · exact .answer 4
      · exact .answer 3
      · exact .answer 1
      · exact .answer 4
  have hgathers : Pool.Gathers registry turns checks values := by
    have hchecks : checks = Rule.checks (manifest "x") (some client) :=
      congrArg (Rule.checks (manifest "x")) hclient
    rw [hchecks]
    exact Pool.gathers_of_found rfl (by decide)
  have halone : gathered (start.inTurn (.steady answer) checks) = .ok values :=
    eq_ok_of_toOption (by decide)
  have hall := (hfinding (some defaultCooldown) none turns hturns).1 (manifest "x") values values
    hgathers halone
  exact ⟨hgathers, halone, hall.2⟩

end ManifestLint
