import ManifestLint.Proofs.Tracking.Operations

/-!
# The tracker on its desk

Callers, spawned refreshes and checks take turns on one tracker.  Nothing else
runs during a turn, and any turn that is possible may come next.  What lies
between two turns is a **desk**: the tracker, the refreshes that were spawned
but have not begun, and the refreshes whose checks are under way.

* A call takes effect at once.  It starts at most one refresh itself; to
  refresh all documents it spawns one refresh for each, with the text that the
  document has *at the time of the call*.
* A spawned refresh begins in a turn of its own, and takes its text with it.
* The checks of a refresh end in a turn of their own, with findings or with a
  fault, in any order.

`Desk.turn` takes one turn and `Desk.turns` a whole run of them.  The turns that
start a refresh all do the same to the desk, `Desk.bring`; `bring_document`,
`bring_generation` and `mem_underWay_bring` say what that is.  `Desk.Does` lists
all that a turn can do, and `does_turn` is the only place where a turn is taken
apart.
-/

namespace ManifestLint

/-- A refresh whose checks are under way, with the text they look at. -/
structure UnderWay where
  uri : String
  text : String
  generation : Nat
  deriving DecidableEq, Repr

/-- What a caller asks for. -/
inductive Call where
  | init (uri text : String)
  | refresh (uri text : String)
  | delete (uri : String)
  | setEnabled (enabled : Bool)
  | refreshAll
  | addListener (listener : String)
  | removeListener (listener : String)
  deriving DecidableEq, Repr

/-- What happens in one turn. -/
inductive Turn where
  /-- A caller asks for something. -/
  | call (call : Call)
  /-- A spawned refresh begins. -/
  | begin (uri text : String)
  /-- The checks of a refresh end with findings. -/
  | settle (refresh : UnderWay) (findings : List Finding)
  /-- The checks of a refresh end in a fault. -/
  | fail (refresh : UnderWay)
  deriving DecidableEq, Repr

/-- What lies between two turns.  The last field is a note that no turn reads:
for each tracked document the text of the last call that brought one. -/
structure Desk where
  tracker : Tracker := {}
  spawned : List (String × String) := []
  underWay : List UnderWay := []
  newest : Entries String String := []
  deriving DecidableEq, Repr

namespace Desk

/-- The desk at the beginning: nothing is tracked. -/
def opened (enabled : Bool) : Desk := { tracker := { enabled } }

/-- Starts a refresh of a document with a text. -/
def start (desk : Desk) (uri text : String) : Desk :=
  match desk.tracker.refresh uri text with
  | (tracker, .started generation) =>
    { desk with tracker, underWay := desk.underWay ++ [⟨uri, text, generation⟩] }
  | (tracker, _) => { desk with tracker }

/-- Takes a document up. -/
def takeUp (desk : Desk) (uri text : String) : Desk :=
  { desk with tracker := desk.tracker.track uri text }

/-- Notes the text that a caller brought. -/
def note (desk : Desk) (uri text : String) : Desk :=
  { desk with newest := desk.newest.put uri text }

/-- Spawns a refresh of every document, with the text it has now. -/
def spawnAll (desk : Desk) : Desk :=
  { desk with spawned := desk.spawned ++ desk.tracker.documents }

/-- Carries out a call. -/
def call (desk : Desk) : Call → Desk
  | .init uri text =>
    if desk.tracker.isTracked uri then desk
    else ((desk.takeUp uri text).note uri text).start uri text
  | .refresh uri text =>
    if desk.tracker.isTracked uri then (desk.note uri text).start uri text else desk
  | .delete uri =>
    { desk with tracker := desk.tracker.delete uri, newest := desk.newest.erase uri }
  | .setEnabled true => { desk with tracker := desk.tracker.enable }.spawnAll
  | .setEnabled false => { desk with tracker := desk.tracker.disable }
  | .refreshAll => desk.spawnAll
  | .addListener listener => { desk with tracker := desk.tracker.addListener listener }
  | .removeListener listener =>
    { desk with tracker := desk.tracker.removeListener listener }

/-- Takes one turn.  A turn that is not possible changes nothing. -/
def turn (desk : Desk) : Turn → Desk
  | .call call => desk.call call
  | .begin uri text =>
    if (uri, text) ∈ desk.spawned then
      { desk with spawned := desk.spawned.erase (uri, text) }.start uri text
    else desk
  | .settle refresh findings =>
    if refresh ∈ desk.underWay then
      { desk with
        tracker := (desk.tracker.settle refresh.uri refresh.generation findings).1
        underWay := desk.underWay.erase refresh }
    else desk
  | .fail refresh =>
    if refresh ∈ desk.underWay then
      { desk with underWay := desk.underWay.erase refresh }
    else desk

/-- Takes turns one after the other. -/
def turns (desk : Desk) (run : List Turn) : Desk := run.foldl turn desk

/-- Something holds at every point of a run. -/
def Throughout (p : Desk → Prop) (desk : Desk) : List Turn → Prop
  | [] => p desk
  | next :: rest => p desk ∧ Throughout p (desk.turn next) rest

/-- No turn of a run is of some kind at the desk it finds. -/
def Never (kind : Desk → Turn → Prop) (desk : Desk) : List Turn → Prop
  | [] => True
  | next :: rest => ¬ kind desk next ∧ Never kind (desk.turn next) rest

/-- A turn can be taken: what begins was spawned, and what ends is under way. -/
def Possible (desk : Desk) : Turn → Prop
  | .call _ => True
  | .begin uri text => (uri, text) ∈ desk.spawned
  | .settle refresh _ => refresh ∈ desk.underWay
  | .fail refresh => refresh ∈ desk.underWay

/-- A turn is taken in a run, at a point where it is possible. -/
def Happens (next : Turn) (desk : Desk) : List Turn → Prop
  | [] => False
  | first :: rest => (first = next ∧ desk.Possible next) ∨ Happens next (desk.turn first) rest

@[simp] theorem turns_nil (desk : Desk) : desk.turns [] = desk := rfl

@[simp] theorem turns_cons (desk : Desk) (next : Turn) (rest : List Turn) :
    desk.turns (next :: rest) = (desk.turn next).turns rest := rfl

theorem turns_append (desk : Desk) (first second : List Turn) :
    desk.turns (first ++ second) = (desk.turns first).turns second :=
  List.foldl_append

/-- What holds at the beginning and is kept by every turn holds after every run. -/
theorem turns_induction {p : Desk → Prop}
    (hturn : ∀ desk next, p desk → p (desk.turn next)) :
    ∀ (run : List Turn) (desk : Desk), p desk → p (desk.turns run) := by
  intro run
  induction run with
  | nil => exact fun _ hp => hp
  | cons next rest ih => exact fun desk hp => ih _ (hturn desk next hp)

theorem Throughout.head {p : Desk → Prop} {desk : Desk} {run : List Turn}
    (h : desk.Throughout p run) : p desk := by
  cases run with
  | nil => exact h
  | cons next rest => exact h.1

theorem Throughout.last {p : Desk → Prop} {desk : Desk} {run : List Turn}
    (h : desk.Throughout p run) : p (desk.turns run) := by
  induction run generalizing desk with
  | nil => exact h
  | cons next rest ih => exact ih h.2

/-! ## What starting a refresh does

Whether a call takes a document up, refreshes a tracked one, or a spawned
refresh begins: what happens to the desk is the same, and `bring` names it. -/

/-- Starts a refresh of a document, which is taken up if need be. -/
def bring (desk : Desk) (uri text : String) : Desk :=
  (desk.takeUp uri text).start uri text

section

variable (desk : Desk) (uri text : String)

theorem isTracked_takeUp : (desk.takeUp uri text).tracker.isTracked uri = true :=
  (Tracker.isTracked_iff ..).mpr ⟨text, (Entries.get?_put ..).trans (if_pos rfl)⟩

theorem bring_on (hon : desk.tracker.enabled = true) :
    desk.bring uri text =
      { desk with
        tracker := desk.tracker.counted uri text
        underWay := desk.underWay ++ [⟨uri, text, desk.tracker.counter + 1⟩] } := by
  have hrefresh := Tracker.refresh_on (desk.tracker.track uri text) uri text
    (desk.isTracked_takeUp uri text) hon
  rw [Tracker.counted_track] at hrefresh
  simp only [bring, start, takeUp, hrefresh]
  rfl

theorem bring_off (hoff : desk.tracker.enabled = false) :
    desk.bring uri text =
      { desk with tracker := (desk.tracker.counted uri text).publish uri [] } := by
  have hrefresh := Tracker.refresh_off (desk.tracker.track uri text) uri text
    (desk.isTracked_takeUp uri text) hoff
  rw [Tracker.counted_track] at hrefresh
  simp only [bring, start, takeUp, hrefresh]

theorem start_tracked (htracked : desk.tracker.isTracked uri = true) :
    desk.start uri text = desk.bring uri text := by
  cases hon : desk.tracker.enabled with
  | true => simp [start, Tracker.refresh_on _ _ _ htracked hon, bring_on _ _ _ hon]
  | false => simp [start, Tracker.refresh_off _ _ _ htracked hon, bring_off _ _ _ hon]

theorem start_untracked (huntracked : desk.tracker.isTracked uri = false) :
    desk.start uri text = desk := by
  simp [start, Tracker.refresh_untracked _ _ _ huntracked]

/-- The two ways in which a refresh starts. -/
theorem bring_cases :
    (desk.tracker.enabled = true ∧ desk.bring uri text =
      { desk with
        tracker := desk.tracker.counted uri text
        underWay := desk.underWay ++ [⟨uri, text, desk.tracker.counter + 1⟩] }) ∨
    (desk.tracker.enabled = false ∧ desk.bring uri text =
      { desk with tracker := (desk.tracker.counted uri text).publish uri [] }) := by
  cases hon : desk.tracker.enabled with
  | true => exact .inl ⟨rfl, bring_on desk uri text hon⟩
  | false => exact .inr ⟨rfl, bring_off desk uri text hon⟩

@[simp] theorem bring_spawned : (desk.bring uri text).spawned = desk.spawned := by
  obtain ⟨-, h⟩ | ⟨-, h⟩ := bring_cases desk uri text <;> rw [h]

@[simp] theorem bring_newest : (desk.bring uri text).newest = desk.newest := by
  obtain ⟨-, h⟩ | ⟨-, h⟩ := bring_cases desk uri text <;> rw [h]

@[simp] theorem bring_enabled :
    (desk.bring uri text).tracker.enabled = desk.tracker.enabled := by
  obtain ⟨-, h⟩ | ⟨-, h⟩ := bring_cases desk uri text <;> rw [h] <;> rfl

@[simp] theorem bring_counter :
    (desk.bring uri text).tracker.counter = desk.tracker.counter + 1 := by
  obtain ⟨-, h⟩ | ⟨-, h⟩ := bring_cases desk uri text <;> rw [h] <;> rfl

theorem bring_documents :
    (desk.bring uri text).tracker.documents = desk.tracker.documents.put uri text := by
  obtain ⟨-, h⟩ | ⟨-, h⟩ := bring_cases desk uri text <;> rw [h] <;> rfl

/-- The document has the text that was brought, whatever the switch says. -/
theorem bring_document (other : String) :
    (desk.bring uri text).tracker.documents.get? other =
      if uri = other then some text else desk.tracker.documents.get? other := by
  rw [bring_documents, Entries.get?_put]

theorem isTracked_bring_other (other : String) (hother : uri ≠ other) :
    (desk.bring uri text).tracker.isTracked other = desk.tracker.isTracked other := by
  simp only [Tracker.isTracked, Entries.has, bring_document, if_neg hother]

theorem bring_generation (other : String) :
    (desk.bring uri text).tracker.generations.get? other =
      if uri = other then some (desk.tracker.counter + 1)
      else desk.tracker.generations.get? other := by
  obtain ⟨-, h⟩ | ⟨-, h⟩ := bring_cases desk uri text <;> rw [h] <;>
    exact Tracker.counted_generation ..

/-- What is under way after a start was under way before, or it is the refresh
that was started, and the checks are on. -/
theorem mem_underWay_bring {refresh : UnderWay}
    (hmem : refresh ∈ (desk.bring uri text).underWay) :
    refresh ∈ desk.underWay ∨
      (desk.tracker.enabled = true ∧
        refresh = ⟨uri, text, desk.tracker.counter + 1⟩) := by
  obtain ⟨hon, h⟩ | ⟨-, h⟩ := bring_cases desk uri text <;> rw [h] at hmem
  · rcases List.mem_append.mp hmem with hold | hnew
    · exact .inl hold
    · exact .inr ⟨hon, List.mem_singleton.mp hnew⟩
  · exact .inl hmem

end

/-! ## What a turn does -/

/-- A turn starts a refresh of a document: a call that takes effect, or a
spawned refresh that begins. -/
def Starts (uri : String) (desk : Desk) : Turn → Prop
  | .call (.init other _) => other = uri ∧ desk.tracker.isTracked uri = false
  | .call (.refresh other _) => other = uri ∧ desk.tracker.isTracked uri = true
  | .begin other text =>
    other = uri ∧ (uri, text) ∈ desk.spawned ∧ desk.tracker.isTracked uri = true
  | _ => False

/-- A turn outdates the refreshes of a document that are under way: it starts
another one, drops the document, or switches the checks off. -/
def Outdates (uri : String) (desk : Desk) (next : Turn) : Prop :=
  desk.Starts uri next ∨ next = .call (.delete uri) ∨ next = .call (.setEnabled false)

/-- Takes a spawned refresh off the list. -/
def unspawn (desk : Desk) (uri text : String) : Desk :=
  { desk with spawned := desk.spawned.erase (uri, text) }

/-- The desk after a refresh under way has ended with findings. -/
def settled (desk : Desk) (refresh : UnderWay) (findings : List Finding) : Desk :=
  { desk with
    tracker := (desk.tracker.settle refresh.uri refresh.generation findings).1
    underWay := desk.underWay.erase refresh }

/-- The desk after a refresh under way has ended in a fault. -/
def givenUp (desk : Desk) (refresh : UnderWay) : Desk :=
  { desk with underWay := desk.underWay.erase refresh }

/-- All that a turn can do to a desk. -/
inductive Does (desk : Desk) : Turn → Desk → Prop where
  | init {uri text : String} (huntracked : desk.tracker.isTracked uri = false) :
      Does desk (.call (.init uri text)) ((desk.note uri text).bring uri text)
  | refresh {uri text : String} (htracked : desk.tracker.isTracked uri = true) :
      Does desk (.call (.refresh uri text)) ((desk.note uri text).bring uri text)
  | begin {uri text : String} (hspawned : (uri, text) ∈ desk.spawned)
      (htracked : desk.tracker.isTracked uri = true) :
      Does desk (.begin uri text) ((desk.unspawn uri text).bring uri text)
  | lapse {uri text : String} (hspawned : (uri, text) ∈ desk.spawned)
      (huntracked : desk.tracker.isTracked uri = false) :
      Does desk (.begin uri text) (desk.unspawn uri text)
  | delete {uri : String} : Does desk (.call (.delete uri)) (desk.call (.delete uri))
  | enable : Does desk (.call (.setEnabled true)) (desk.call (.setEnabled true))
  | disable : Does desk (.call (.setEnabled false)) (desk.call (.setEnabled false))
  | spawn : Does desk (.call .refreshAll) desk.spawnAll
  | addListener {listener : String} :
      Does desk (.call (.addListener listener)) (desk.call (.addListener listener))
  | removeListener {listener : String} :
      Does desk (.call (.removeListener listener)) (desk.call (.removeListener listener))
  | settle {refresh : UnderWay} {findings : List Finding}
      (hmem : refresh ∈ desk.underWay) :
      Does desk (.settle refresh findings) (desk.settled refresh findings)
  | fail {refresh : UnderWay} (hmem : refresh ∈ desk.underWay) :
      Does desk (.fail refresh) (desk.givenUp refresh)
  | idle {next : Turn} (hidle : ∀ uri, ¬ Outdates uri desk next) : Does desk next desk

/-- Every turn does one of these things. -/
theorem does_turn (desk : Desk) (next : Turn) : Does desk next (desk.turn next) := by
  cases next with
  | call call =>
      cases call with
      | init uri text =>
          cases htracked : desk.tracker.isTracked uri with
          | true =>
              simp only [turn, Desk.call, htracked, if_true]
              refine .idle ?_
              rintro _ (⟨rfl, huntracked⟩ | hdelete | hdisable)
              · exact Bool.false_ne_true (huntracked.symm.trans htracked)
              · cases hdelete
              · cases hdisable
          | false =>
              simp only [turn, Desk.call, htracked]
              exact .init htracked
      | refresh uri text =>
          cases htracked : desk.tracker.isTracked uri with
          | true =>
              simp only [turn, Desk.call, htracked, if_true]
              rw [start_tracked (desk.note uri text) uri text htracked]
              exact .refresh htracked
          | false =>
              simp only [turn, Desk.call, htracked]
              refine .idle ?_
              rintro _ (⟨rfl, hother⟩ | hdelete | hdisable)
              · exact Bool.false_ne_true (htracked.symm.trans hother)
              · cases hdelete
              · cases hdisable
      | delete uri => exact .delete
      | setEnabled enabled =>
          cases enabled with
          | true => exact .enable
          | false => exact .disable
      | refreshAll => exact .spawn
      | addListener listener => exact .addListener
      | removeListener listener => exact .removeListener
  | begin uri text =>
      by_cases hspawned : (uri, text) ∈ desk.spawned
      · simp only [turn, hspawned, if_true]
        cases htracked : desk.tracker.isTracked uri with
        | true =>
            have hstart := start_tracked (desk.unspawn uri text) uri text htracked
            exact hstart ▸ .begin hspawned htracked
        | false =>
            have hstart := start_untracked (desk.unspawn uri text) uri text htracked
            exact hstart ▸ .lapse hspawned htracked
      · simp only [turn, hspawned, if_false]
        refine .idle ?_
        rintro _ (⟨rfl, hmem, -⟩ | hdelete | hdisable)
        · exact hspawned hmem
        · cases hdelete
        · cases hdisable
  | settle refresh findings =>
      simp only [turn]
      split
      · next hmem => exact .settle hmem
      · exact .idle (by simp [Outdates, Starts])
  | fail refresh =>
      simp only [turn]
      split
      · next hmem => exact .fail hmem
      · exact .idle (by simp [Outdates, Starts])

end Desk

end ManifestLint
