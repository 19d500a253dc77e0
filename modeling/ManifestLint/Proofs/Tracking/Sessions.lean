import ManifestLint.Proofs.Tracking.Coherence
import ManifestLint.Session.Step

/-!
# Sessions on the desk

A session fixes the order in which things happen: a call and all that follows
from it until every thread has ended or waits.  That order is one of those that
turns on a desk can take.  `Mirrors` relates a workshop to a desk: the tracker
is the same, and every refresh that is under way as a job is under way on the
desk.  Whatever a step does to the workshop, some run of turns does to the desk
(`step_mirrored`), so that what holds of the tracker after every run of turns
holds in every session (`tracker_eq_turns`).
-/

namespace ManifestLint

/-- A job is the refresh of a document under a generation, and has not ended. -/
def Job.Refreshes (job : Job) (uri : String) (generation : Nat) : Prop :=
  ∃ batch manifest found, job = { task := .refresh batch uri generation manifest found }

namespace Workshop

/-- Under a number there is the refresh of a document, which has not ended. -/
def Refreshing (shop : Workshop) (number : Nat) (uri : String) (generation : Nat) : Prop :=
  ∃ job, shop.jobs[number]? = some job ∧ job.Refreshes uri generation

section

variable (shop : Workshop) (number : Nat) {other generation : Nat} {uri : String}

/-- A refresh under way was there before another job was added, or it is that job. -/
theorem refreshing_addJob {new : Job}
    (h : (shop.addJob new).1.Refreshing other uri generation) :
    shop.Refreshing other uri generation ∨
      (other = shop.jobs.length ∧ new.Refreshes uri generation) := by
  obtain ⟨job, hget, hjob⟩ := h
  rcases Nat.lt_trichotomy other shop.jobs.length with hlt | rfl | hgt
  · exact .inl ⟨job, (List.getElem?_append_left hlt).symm.trans hget, hjob⟩
  · rw [addJob, List.getElem?_concat_length] at hget
    exact .inr ⟨rfl, Option.some.inj hget ▸ hjob⟩
  · have hlength : (shop.jobs ++ [new]).length ≤ other := by simp; omega
    rw [addJob, List.getElem?_eq_none hlength] at hget
    cases hget

/-- A change of one job starts no refresh unless it makes that job one. -/
theorem refreshing_modifyJob {change : Job → Job}
    (hchange : ∀ job, shop.jobs[number]? = some job → ∀ uri generation,
      (change job).Refreshes uri generation → job.Refreshes uri generation)
    (h : (shop.modifyJob number change).Refreshing other uri generation) :
    shop.Refreshing other uri generation := by
  obtain ⟨job, hget, hjob⟩ := h
  rw [modifyJob, List.getElem?_modify] at hget
  obtain ⟨before, hbefore, rfl⟩ := Option.map_eq_some_iff.mp hget
  refine ⟨before, hbefore, ?_⟩
  by_cases hsame : number = other
  · subst hsame
    exact hchange before hbefore uri generation (by simpa using hjob)
  · simpa [hsame] using hjob

theorem not_refreshes_outcome (job : Job) (outcome : Outcome) :
    ¬ { job with outcome := some outcome }.Refreshes uri generation := by
  rintro ⟨batch, manifest, found, heq⟩
  cases congrArg Job.outcome heq

theorem refreshing_finish {outcome : Outcome}
    (h : (shop.finish number outcome).Refreshing other uri generation) :
    shop.Refreshing other uri generation ∧ other ≠ number := by
  refine ⟨shop.refreshing_modifyJob number (fun job _ _ _ hended => ?_) h, ?_⟩
  · exact absurd hended (not_refreshes_outcome job _)
  · rintro rfl
    obtain ⟨job, hget, hjob⟩ := h
    rw [finish, modifyJob, List.getElem?_modify_eq] at hget
    obtain ⟨before, -, rfl⟩ := Option.map_eq_some_iff.mp hget
    exact not_refreshes_outcome before _ hjob

theorem refreshing_finishPart {batch : Option Nat} {fault : Option Fault}
    (h : (shop.finishPart batch fault).Refreshing other uri generation) :
    shop.Refreshing other uri generation := by
  unfold finishPart at h
  split at h
  · exact h
  · split at h
    · exact (shop.refreshing_finish _ h).1
    · refine shop.refreshing_modifyJob _ (fun job _ _ _ hbatch => ?_) h
      obtain ⟨_, _, _, heq⟩ := hbatch
      cases congrArg Job.task heq
    · exact (shop.refreshing_finish _ h).1

theorem refreshing_finishRefresh {batch : Option Nat} {published : Option (List Finding)}
    (h : (shop.finishRefresh number batch published).Refreshing other uri generation) :
    shop.Refreshing other uri generation ∧ other ≠ number :=
  shop.refreshing_finish number ((shop.finish number _).refreshing_finishPart h)

/-- A refresh that ends at once is entered as a job that is none. -/
theorem refreshing_finishQuery {batch : Option Nat} {published : Option (List Finding)}
    (h : ((shop.addJob { task := .query }).1.finishRefresh number batch published).Refreshing
      other uri generation) : shop.Refreshing other uri generation := by
  rcases shop.refreshing_addJob (refreshing_finishRefresh _ _ h).1 with hold | ⟨-, hnew⟩
  · exact hold
  · obtain ⟨_, _, _, heq⟩ := hnew
    cases congrArg Job.task heq

@[simp] theorem finishPart_tracker (batch : Option Nat) (fault : Option Fault) :
    (shop.finishPart batch fault).tracker = shop.tracker := by
  unfold finishPart
  split
  · rfl
  · split <;> rfl

@[simp] theorem finishRefresh_tracker (batch : Option Nat)
    (published : Option (List Finding)) :
    (shop.finishRefresh job batch published).tracker = shop.tracker :=
  finishPart_tracker ..

end

/-- A desk on which everything is that is under way in a workshop, and nothing
waits but the refreshes that the workshop is about to open. -/
structure Mirrors (shop : Workshop) (waiting : List (String × String)) (desk : Desk) :
    Prop where
  tracker : desk.tracker = shop.tracker
  spawned : desk.spawned = waiting
  underWay : ∀ job uri generation, shop.Refreshing job uri generation →
    ∃ text, ⟨uri, text, generation⟩ ∈ desk.underWay
  /-- Refreshes under way have drawn their generations. -/
  drawn : ∀ job uri generation, shop.Refreshing job uri generation →
    generation ≤ shop.tracker.counter
  /-- No two of them have drawn the same one. -/
  distinct : ∀ job other uri otherUri generation, shop.Refreshing job uri generation →
    shop.Refreshing other otherUri generation → job = other

variable {shop after : Workshop} {waiting : List (String × String)} {desk : Desk}

/-- Jobs that are no refreshes, and refreshes that end, are not seen on the desk. -/
theorem Mirrors.frame (h : shop.Mirrors waiting desk) (htracker : after.tracker = shop.tracker)
    (hjobs : ∀ job uri generation, after.Refreshing job uri generation →
      shop.Refreshing job uri generation) : after.Mirrors waiting desk where
  tracker := h.tracker.trans htracker.symm
  spawned := h.spawned
  underWay _ _ _ hafter := h.underWay _ _ _ (hjobs _ _ _ hafter)
  drawn _ _ _ hafter := htracker ▸ h.drawn _ _ _ (hjobs _ _ _ hafter)
  distinct _ _ _ _ _ hafter hother :=
    h.distinct _ _ _ _ _ (hjobs _ _ _ hafter) (hjobs _ _ _ hother)

/-- A job that is no refresh may be added. -/
theorem Mirrors.addJob (h : shop.Mirrors waiting desk) {new : Job}
    (hnew : ∀ uri generation, ¬ new.Refreshes uri generation) :
    (shop.addJob new).1.Mirrors waiting desk := by
  refine h.frame rfl fun number uri generation hafter => ?_
  rcases shop.refreshing_addJob hafter with hold | ⟨-, hjob⟩
  · exact hold
  · exact absurd hjob (hnew uri generation)

/-- The tracker may change in any way that draws no generation back. -/
theorem Mirrors.onTracker (h : shop.Mirrors waiting desk) {tracker : Tracker} {next : Desk}
    (htracker : next.tracker = tracker) (hcounter : shop.tracker.counter ≤ tracker.counter)
    (hspawned : next.spawned = desk.spawned) (hunderWay : next.underWay = desk.underWay) :
    { shop with tracker }.Mirrors waiting next where
  tracker := htracker
  spawned := hspawned.trans h.spawned
  underWay _ _ _ hjob := hunderWay ▸ h.underWay _ _ _ hjob
  drawn _ _ _ hjob := Nat.le_trans (h.drawn _ _ _ hjob) hcounter
  distinct := h.distinct

/-- A refresh that is settled ends on the desk. -/
theorem Mirrors.settled (h : shop.Mirrors waiting desk) {refresh : UnderWay}
    (findings : List Finding) (hmem : refresh ∈ desk.underWay)
    (htracker :
      after.tracker = (shop.tracker.settle refresh.uri refresh.generation findings).1)
    (hjobs : ∀ number uri generation, after.Refreshing number uri generation →
      shop.Refreshing number uri generation ∧ generation ≠ refresh.generation) :
    after.Mirrors waiting (desk.turns [.settle refresh findings]) := by
  have hturn : desk.turns [.settle refresh findings] = desk.settled refresh findings := by
    simp [Desk.turn, Desk.settled, hmem]
  obtain ⟨-, -, -, hcounter⟩ :=
    shop.tracker.settle_frame refresh.uri findings refresh.generation
  rw [hturn]
  refine ⟨?_, h.spawned, ?_, ?_, ?_⟩
  · rw [htracker, ← h.tracker]
    rfl
  · intro number uri generation hafter
    obtain ⟨hbefore, hother⟩ := hjobs number uri generation hafter
    obtain ⟨text, hunderWay⟩ := h.underWay number uri generation hbefore
    refine ⟨text, (List.mem_erase_of_ne fun heq => hother ?_).mpr hunderWay⟩
    exact congrArg UnderWay.generation heq
  · intro number uri generation hafter
    rw [htracker, hcounter]
    exact h.drawn _ _ _ (hjobs number uri generation hafter).1
  · intro number other uri otherUri generation hafter hother
    exact h.distinct _ _ _ _ _ (hjobs _ _ _ hafter).1 (hjobs _ _ _ hother).1

/-- The end of a refresh that is under way is a turn on the desk. -/
theorem Mirrors.settle (h : shop.Mirrors waiting desk) (number : Nat) :
    ∃ run, (shop.settle number).Mirrors waiting (desk.turns run) := by
  unfold Workshop.settle
  split
  · next batch uri generation manifest found hjob =>
      have hrefreshing : shop.Refreshing number uri generation :=
        ⟨_, hjob, batch, manifest, found, rfl⟩
      obtain ⟨text, hmem⟩ := h.underWay number uri generation hrefreshing
      refine ⟨_, h.settled (Rule.sorted manifest (found.map (·.join))) hmem ?_ ?_⟩
      · exact finishRefresh_tracker ..
      · intro other otherUri otherGeneration hother
        obtain ⟨hbefore, hne⟩ := refreshing_finishRefresh _ _ hother
        refine ⟨hbefore, fun (hsame : otherGeneration = generation) => hne ?_⟩
        exact h.distinct other number otherUri uri generation (hsame ▸ hbefore) hrefreshing
  · exact ⟨[], h⟩

/-- What a thread ends with is not seen on the desk until the refresh is settled. -/
theorem Mirrors.deliver (h : shop.Mirrors waiting desk) (number place : Nat)
    (yield : Except Fault Yield) :
    (shop.deliver number place yield).1.Mirrors waiting desk := by
  unfold Workshop.deliver
  split
  · next value batch uri generation manifest found outcome hjob =>
      refine h.frame rfl fun other otherUri otherGeneration => ?_
      refine shop.refreshing_modifyJob number fun job hget _ _ hafter => ?_
      obtain rfl := Option.some.inj (hjob.symm.trans hget)
      obtain ⟨otherBatch, otherManifest, otherFound, heq⟩ := hafter
      cases heq
      exact ⟨_, _, _, rfl⟩
  · refine h.frame (finishPart_tracker ..) fun other uri generation hafter => ?_
    exact (shop.refreshing_finish number (refreshing_finishPart _ hafter)).1
  · exact h.frame rfl fun other uri generation hafter =>
      (shop.refreshing_finish number hafter).1
  · exact h.frame rfl fun other uri generation hafter =>
      (shop.refreshing_finish number hafter).1
  · exact h

theorem Mirrors.runThread (h : shop.Mirrors waiting desk) (thread : Thread) :
    (shop.runThread thread).1.Mirrors waiting desk := by
  have hregistry : ∀ registry, { shop with registry }.Mirrors waiting desk :=
    fun _ => h.frame rfl fun _ _ _ => id
  unfold Workshop.runThread
  split
  · exact (hregistry _).deliver ..
  · cases thread.action shop.registry with
    | done registry yield => exact (hregistry registry).deliver ..
    | waiting registry request resume => exact h.frame rfl fun _ _ _ => id

theorem Mirrors.runThreads (h : shop.Mirrors waiting desk) (threads : List Thread) :
    (shop.runThreads threads).1.Mirrors waiting desk := by
  induction threads generalizing shop with
  | nil => exact h
  | cons thread rest ih => exact ih (h.runThread thread)

theorem Mirrors.settles (h : shop.Mirrors waiting desk) (ended : List Nat) :
    ∃ run, (ended.foldl Workshop.settle shop).Mirrors waiting (desk.turns run) := by
  induction ended generalizing shop desk with
  | nil => exact ⟨[], h⟩
  | cons number rest ih =>
      obtain ⟨first, hfirst⟩ := h.settle number
      obtain ⟨second, hsecond⟩ := ih hfirst
      exact ⟨first ++ second, Desk.turns_append .. ▸ hsecond⟩

/-- Letting threads run is a run of turns on the desk. -/
theorem Mirrors.work (h : shop.Mirrors waiting desk) (threads : List Thread) :
    ∃ run, (shop.work threads).Mirrors waiting (desk.turns run) :=
  (h.runThreads threads).settles _

theorem Mirrors.finishQuery (h : shop.Mirrors waiting desk) (batch : Option Nat)
    (published : Option (List Finding)) :
    ((shop.addJob { task := .query }).1.finishRefresh (shop.addJob { task := .query }).2
      batch published).Mirrors waiting desk :=
  h.frame (finishRefresh_tracker ..) fun _ _ _ => refreshing_finishQuery _ _

/-- A desk with a new refresh mirrors the workshop in which it is entered as a
job. -/
theorem Mirrors.start (h : shop.Mirrors waiting desk) {tracker : Tracker} {uri text : String}
    (hcounter : tracker.counter = shop.tracker.counter + 1)
    (htracker : after.tracker = tracker)
    (hjobs : ∀ number otherUri generation, after.Refreshing number otherUri generation →
      shop.Refreshing number otherUri generation ∨
        (number = shop.jobs.length ∧ otherUri = uri ∧ generation = tracker.counter)) :
    after.Mirrors waiting { desk with
      tracker, underWay := desk.underWay ++ [⟨uri, text, tracker.counter⟩] } := by
  have hlow : ∀ number otherUri generation, shop.Refreshing number otherUri generation →
      generation < tracker.counter := by
    intro number otherUri generation hold
    have := h.drawn number otherUri generation hold
    omega
  refine ⟨htracker.symm, h.spawned, ?_, ?_, ?_⟩
  · intro number otherUri generation hafter
    rcases hjobs number otherUri generation hafter with hold | ⟨-, rfl, rfl⟩
    · obtain ⟨other, hmem⟩ := h.underWay number otherUri generation hold
      exact ⟨other, List.mem_append_left _ hmem⟩
    · exact ⟨text, List.mem_append_right _ (List.mem_singleton_self _)⟩
  · intro number otherUri generation hafter
    rw [htracker]
    rcases hjobs number otherUri generation hafter with hold | ⟨-, -, rfl⟩
    · exact Nat.le_of_lt (hlow _ _ _ hold)
    · exact Nat.le_refl _
  · intro number other oneUri otherUri generation hone hother
    rcases hjobs _ _ _ hone with hone | ⟨hone, -, hnew⟩ <;>
      rcases hjobs _ _ _ hother with hother | ⟨hother, -, hlast⟩
    · exact h.distinct _ _ _ _ _ hone hother
    · exact absurd hlast (Nat.ne_of_lt (hlow _ _ _ hone))
    · exact absurd hnew (Nat.ne_of_lt (hlow _ _ _ hother))
    · exact hone.trans hother.symm

/-- A refresh that is opened in a workshop starts on the desk. -/
theorem Mirrors.openRefresh (h : shop.Mirrors waiting desk) (batch : Option Nat)
    (uri text : String) :
    ∃ run, (shop.openRefresh batch uri text).1.Mirrors waiting
      ((desk.start uri text).turns run) := by
  unfold Workshop.openRefresh Desk.start
  rw [h.tracker]
  obtain hrefresh | hrefresh | hrefresh := shop.tracker.refresh_cases uri text <;>
    rw [hrefresh]
  · have hsame : { shop with tracker := shop.tracker }.Mirrors waiting
        { desk with tracker := shop.tracker } := h.onTracker rfl (Nat.le_refl _) rfl rfl
    exact ⟨[], hsame.finishQuery batch none⟩
  · let cleared := (shop.tracker.counted uri text).publish uri []
    have hcleared : { shop with tracker := cleared }.Mirrors waiting
        { desk with tracker := cleared } := h.onTracker rfl (Nat.le_succ _) rfl rfl
    exact ⟨[], hcleared.finishQuery batch (some [])⟩
  · let counted := shop.tracker.counted uri text
    let refresh : UnderWay := ⟨uri, text, counted.counter⟩
    have hstart : { shop with tracker := counted }.Mirrors waiting { desk with
        tracker := counted, underWay := desk.underWay ++ [refresh] } :=
      h.start rfl rfl fun _ _ _ => .inl
    cases Manifest.parse? text with
    | none =>
        have hmem : refresh ∈ desk.underWay ++ [refresh] :=
          List.mem_append_right _ (List.mem_singleton_self _)
        refine ⟨_, hstart.settled [] hmem ?_ ?_⟩
        · exact finishRefresh_tracker ..
        · intro number otherUri generation hafter
          have hbefore : shop.Refreshing number otherUri generation :=
            refreshing_finishQuery { shop with
              tracker := (counted.settle uri counted.counter []).1 } _ hafter
          refine ⟨hbefore, fun (hsame : generation = shop.tracker.counter + 1) => ?_⟩
          have := h.drawn number otherUri generation hbefore
          omega
    | some manifest =>
        refine ⟨[], h.start rfl rfl fun number otherUri generation hafter => ?_⟩
        rcases refreshing_addJob { shop with
          tracker := counted
          registry := (shop.registry.find? manifest.indexUrl).2 } hafter with
          hold | ⟨hnumber, _, _, _, heq⟩
        · exact .inl hold
        · cases congrArg Job.task heq
          exact .inr ⟨hnumber, rfl, rfl⟩

theorem Mirrors.startRefresh (h : shop.Mirrors waiting desk) (uri text : String) :
    ∃ run, (shop.startRefresh uri text).1.Mirrors waiting
      ((desk.start uri text).turns run) := by
  obtain ⟨first, hfirst⟩ := h.openRefresh none uri text
  obtain ⟨second, hsecond⟩ := hfirst.work (shop.openRefresh none uri text).2.2
  exact ⟨first ++ second, Desk.turns_append .. ▸ hsecond⟩

/-- The refreshes of a batch begin on the desk in their order. -/
theorem Mirrors.openRefreshes (batch : Nat) (documents : List (String × String))
    (h : shop.Mirrors documents desk) :
    ∃ run, (shop.openRefreshes batch documents).1.Mirrors [] (desk.turns run) := by
  induction documents generalizing shop desk with
  | nil => exact ⟨[], h⟩
  | cons document rest ih =>
      obtain ⟨uri, text⟩ := document
      have hmem : (uri, text) ∈ desk.spawned := h.spawned ▸ List.mem_cons_self
      have hbegin : desk.turn (.begin uri text) = (desk.unspawn uri text).start uri text := by
        simp [Desk.turn, Desk.unspawn, hmem]
      have hunspawned : shop.Mirrors rest (desk.unspawn uri text) :=
        ⟨h.tracker, by simp [Desk.unspawn, h.spawned], h.underWay, h.drawn, h.distinct⟩
      obtain ⟨first, hfirst⟩ := hunspawned.openRefresh (some batch) uri text
      obtain ⟨second, hsecond⟩ := ih hfirst
      refine ⟨.begin uri text :: (first ++ second), ?_⟩
      rw [Desk.turns_cons, hbegin, Desk.turns_append]
      exact hsecond

/-- A refresh of all documents is spawned on the desk, and begins at once. -/
theorem Mirrors.startRefreshAll (h : shop.Mirrors [] desk) :
    ∃ run, shop.startRefreshAll.1.Mirrors [] (desk.spawnAll.turns run) := by
  let batch : Job := { task := .batch shop.tracker.documents.length }
  have hadded : (shop.addJob batch).1.Mirrors shop.tracker.documents desk.spawnAll := by
    have hsame : (shop.addJob batch).1.Mirrors [] desk := h.addJob fun _ _ ⟨_, _, _, heq⟩ => by
      cases congrArg Job.task heq
    refine ⟨hsame.tracker, ?_, hsame.underWay, hsame.drawn, hsame.distinct⟩
    simp [Desk.spawnAll, h.spawned, h.tracker]
  unfold Workshop.startRefreshAll
  cases hempty : shop.tracker.documents.isEmpty with
  | true =>
      rw [List.isEmpty_iff.mp hempty] at hadded
      simp only [hempty, if_true]
      exact ⟨[], hadded.frame rfl fun _ _ _ hafter => (refreshing_finish _ _ hafter).1⟩
  | false =>
      simp only [hempty]
      obtain ⟨first, hfirst⟩ := hadded.openRefreshes shop.jobs.length
      obtain ⟨second, hsecond⟩ := hfirst.work
        ((shop.addJob batch).1.openRefreshes shop.jobs.length shop.tracker.documents).2
      exact ⟨first ++ second, Desk.turns_append .. ▸ hsecond⟩

theorem Mirrors.startQuery (h : shop.Mirrors waiting desk) (lookup : Lookup Answer) :
    ∃ run, (shop.startQuery lookup).1.Mirrors waiting (desk.turns run) := by
  have hadded : (shop.addJob { task := .query }).1.Mirrors waiting desk :=
    h.addJob fun _ _ ⟨_, _, _, heq⟩ => by cases congrArg Job.task heq
  let action : Action Registry (Except Fault Yield) := do return (← lookup.run).map .answer
  exact hadded.work [⟨shop.jobs.length, 0, action⟩]

theorem Mirrors.setGate (h : shop.Mirrors waiting desk) (isOpen : Bool) :
    ∃ run, (shop.setGate isOpen).Mirrors waiting (desk.turns run) := by
  cases isOpen with
  | true =>
      have hopened : { shop with gateOpen := true, parked := [] }.Mirrors waiting desk :=
        h.frame rfl fun _ _ _ => id
      exact hopened.work _
  | false => exact ⟨[], h.frame rfl fun _ _ _ => id⟩

end Workshop

namespace Session

variable {session : Session} {desk : Desk}

/-- A desk on which everything is that is under way in a session. -/
def Mirrors (session : Session) (desk : Desk) : Prop := session.toWorkshop.Mirrors [] desk

/-- What a call does to the tracker alone is one turn on the desk. -/
theorem Mirrors.turn (h : session.Mirrors desk) (call : Call) (change : Tracker → Tracker)
    (htracker : (desk.turn (.call call)).tracker = change desk.tracker)
    (hcounter : ∀ tracker, tracker.counter ≤ (change tracker).counter)
    (hspawned : (desk.turn (.call call)).spawned = desk.spawned)
    (hunderWay : (desk.turn (.call call)).underWay = desk.underWay) :
    ∃ run, (session.onTracker change).Mirrors (desk.turns run) := by
  refine ⟨[.call call], Workshop.Mirrors.onTracker h ?_ (hcounter _) hspawned hunderWay⟩
  rw [← h.tracker]
  exact htracker

theorem Mirrors.init (h : session.Mirrors desk) (uri text : String) :
    ∃ run, (session.begin (.init uri text)).1.Mirrors (desk.turns run) := by
  unfold Session.begin
  cases htracked : session.tracker.isTracked uri with
  | true => exact ⟨[], h⟩
  | false =>
      let taken := (desk.takeUp uri text).note uri text
      have htaken : (session.onTracker (·.track uri text)).Mirrors taken := by
        refine Workshop.Mirrors.onTracker h ?_ (Nat.le_refl _) rfl rfl
        rw [← h.tracker]
        rfl
      obtain ⟨run, hrun⟩ := Workshop.Mirrors.startRefresh htaken uri text
      have hturn : desk.turn (.call (.init uri text)) = taken.start uri text := by
        simp [Desk.turn, Desk.call, h.tracker, htracked, taken]
      exact ⟨.call (.init uri text) :: run, by rw [Desk.turns_cons, hturn]; exact hrun⟩

theorem Mirrors.refresh (h : session.Mirrors desk) (uri text : String) :
    ∃ run, (session.begin (.refresh uri text)).1.Mirrors (desk.turns run) := by
  cases htracked : desk.tracker.isTracked uri with
  | true =>
      have hnoted : session.Mirrors (desk.note uri text) :=
        ⟨h.tracker, h.spawned, h.underWay, h.drawn, h.distinct⟩
      obtain ⟨run, hrun⟩ := Workshop.Mirrors.startRefresh hnoted uri text
      have hturn : desk.turn (.call (.refresh uri text)) =
          (desk.note uri text).start uri text := by
        simp [Desk.turn, Desk.call, htracked]
      exact ⟨.call (.refresh uri text) :: run, by rw [Desk.turns_cons, hturn]; exact hrun⟩
  | false =>
      obtain ⟨run, hrun⟩ := Workshop.Mirrors.startRefresh h uri text
      rw [Desk.start_untracked _ _ _ htracked] at hrun
      exact ⟨run, hrun⟩

theorem Mirrors.refreshAll (h : session.Mirrors desk) :
    ∃ run, (session.begin .refreshAll).1.Mirrors (desk.turns run) := by
  obtain ⟨run, hrun⟩ := Workshop.Mirrors.startRefreshAll h
  exact ⟨.call .refreshAll :: run, hrun⟩

theorem Mirrors.setEnabled (h : session.Mirrors desk) (enabled : Bool) :
    ∃ run, (session.begin (.setEnabled enabled)).1.Mirrors (desk.turns run) := by
  cases enabled with
  | true =>
      have hon : (session.onTracker Tracker.enable).Mirrors
          { desk with tracker := desk.tracker.enable } := by
        refine Workshop.Mirrors.onTracker h ?_ (Nat.le_refl _) rfl rfl
        rw [← h.tracker]
      obtain ⟨run, hrun⟩ := Workshop.Mirrors.startRefreshAll hon
      exact ⟨.call (.setEnabled true) :: run, hrun⟩
  | false =>
      exact h.turn (.setEnabled false) Tracker.disable rfl Tracker.counter_le_disable rfl rfl

/-- Whatever is done in a session, some run of turns does to the desk. -/
theorem step_mirrored (h : session.Mirrors desk) (step : Step) :
    ∃ run, (session.step step).1.Mirrors (desk.turns run) := by
  have hregistry : ∀ change, (session.onRegistry change).Mirrors desk := fun _ =>
    Workshop.Mirrors.frame h rfl fun _ _ _ hafter => hafter
  have hhost : ∀ change, (session.onHost change).Mirrors desk := fun _ =>
    Workshop.Mirrors.frame h rfl fun _ _ _ hafter => hafter
  have hask : ∀ lookup, ∃ run, (session.ask lookup).1.Mirrors (desk.turns run) :=
    Workshop.Mirrors.startQuery h
  show ∃ run, (session.begin step).1.Mirrors (desk.turns run)
  induction step with
  | query | find | require | setToken | invalidateAll | fetch | setFetcherToken | notify
  | complete => exact hask _
  | clients | pending | findingsOf | isTracked => exact ⟨[], h⟩
  | summary uri => cases uri <;> exact ⟨[], h⟩
  | close | closeFetcher | advance | reset => exact ⟨[], hregistry _⟩
  | setStatus | store => exact ⟨[], hhost _⟩
  | init uri text => exact h.init uri text
  | refresh uri text => exact h.refresh uri text
  | delete uri => exact h.turn (.delete uri) (·.delete uri) rfl (fun _ => by simp) rfl rfl
  | setEnabled enabled => exact h.setEnabled enabled
  | refreshAll => exact h.refreshAll
  | addListener id =>
      exact h.turn (.addListener id) (·.addListener id) rfl (fun _ => Nat.le_refl _) rfl rfl
  | removeListener id =>
      exact h.turn (.removeListener id) (·.removeListener id) rfl (fun _ => Nat.le_refl _)
        rfl rfl
  | setGate isOpen => exact Workshop.Mirrors.setGate h isOpen
  | start id step ih =>
      obtain ⟨run, hrun⟩ := ih
      exact ⟨run, hrun.frame rfl fun _ _ _ hafter => hafter⟩
  | join id =>
      unfold Session.begin
      cases session.started.get? id <;> exact ⟨[], h⟩

theorem steps_mirrored (h : session.Mirrors desk) (steps : List Step) :
    ∃ run, (steps.foldl (fun session step => (session.step step).1) session).Mirrors
      (desk.turns run) := by
  induction steps generalizing session desk with
  | nil => exact ⟨[], h⟩
  | cons step rest ih =>
      obtain ⟨first, hfirst⟩ := step_mirrored h step
      obtain ⟨second, hsecond⟩ := ih hfirst
      exact ⟨first ++ second, Desk.turns_append .. ▸ hsecond⟩

/-- A session without jobs is mirrored by a desk with its tracker. -/
theorem mirrors_of_no_jobs (hjobs : session.jobs = []) :
    session.Mirrors { tracker := session.tracker } := by
  have hnone : ∀ number uri generation,
      ¬ session.toWorkshop.Refreshing number uri generation := by
    rintro number uri generation ⟨job, hget, -⟩
    simp [hjobs] at hget
  exact ⟨rfl, rfl, fun _ _ _ hjob => (hnone _ _ _ hjob).elim,
    fun _ _ _ hjob => (hnone _ _ _ hjob).elim,
    fun _ _ _ _ _ hjob => (hnone _ _ _ hjob).elim⟩

/-- Listeners may be there from the beginning. -/
theorem turns_addListener (desk : Desk) (listeners : List String) :
    desk.turns (listeners.map fun listener => .call (.addListener listener)) =
      { desk with tracker := { desk.tracker with
          listeners := desk.tracker.listeners ++ listeners } } := by
  induction listeners generalizing desk with
  | nil => simp
  | cons listener rest ih =>
      rw [List.map_cons, Desk.turns_cons, ih]
      simp [Desk.turn, Desk.call, Tracker.addListener]

/-- **Sessions are runs of turns.**  After any steps the tracker of a session that
began with nothing but listeners is the one that some run of turns leaves. -/
theorem tracker_eq_turns (enabled : Bool) (listeners : List String)
    (htracker : session.tracker = { enabled, listeners }) (hjobs : session.jobs = [])
    (steps : List Step) :
    ∃ run, (steps.foldl (fun session step => (session.step step).1) session).tracker =
      ((Desk.opened enabled).turns run).tracker := by
  let added := listeners.map fun listener => Turn.call (.addListener listener)
  have hadded : (Desk.opened enabled).turns added = { tracker := session.tracker } := by
    rw [turns_addListener, htracker]
    rfl
  obtain ⟨run, hrun⟩ := steps_mirrored (mirrors_of_no_jobs hjobs) steps
  refine ⟨added ++ run, ?_⟩
  rw [Desk.turns_append, hadded]
  exact hrun.tracker.symm

/-- In every session only tracked documents have a generation, and it was drawn
from the counter. -/
theorem generation_tracked (enabled : Bool) (listeners : List String)
    (htracker : session.tracker = { enabled, listeners }) (hjobs : session.jobs = [])
    (steps : List Step) {uri : String} {generation : Nat} :
    let last := (steps.foldl (fun session step => (session.step step).1) session).tracker
    last.generations.get? uri = some generation →
      last.isTracked uri = true ∧ generation ≤ last.counter := by
  intro last hget
  obtain ⟨run, hrun⟩ := tracker_eq_turns enabled listeners htracker hjobs steps
  have hcoherent := Desk.coherent_turns enabled run
  have hlast : last = ((Desk.opened enabled).turns run).tracker := hrun
  rw [hlast] at hget ⊢
  exact ⟨hcoherent.tracked uri generation hget, hcoherent.drawn uri generation hget⟩

end Session

end ManifestLint
