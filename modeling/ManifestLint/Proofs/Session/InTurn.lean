import ManifestLint.Proofs.Registry.Raising
import ManifestLint.Proofs.Tracking.Operations
import ManifestLint.Session.Step

/-!
# Checks that run in turn

While the gate is open every request is answered at once, so that the threads of a
refresh run one after the other, each from the state that the one before has left.
What the refresh ends with is then what its checks end with in turn, gathered: the
first fault, or else all that was found.

* `Workshop.runThreads_checks`: the run over the threads of the checks.
* `Workshop.startRefresh_fault`, `startRefresh_ok`: what a refresh that is started while
  the gate is open ends with, and the findings that are tracked then.
-/

namespace ManifestLint

namespace Workshop

open Instant (inTurn)

/-- The outcome of a refresh as soon as one of its checks has ended in a fault. -/
def faultOf (ended : List (Except Fault (Option Finding))) : Option Outcome :=
  match gathered ended with
  | .ok _ => none
  | .error fault => some (.error fault)

/-- A refresh of which some checks have ended and others are left, as a job. -/
def refreshJob (uri : String) (generation : Nat) (manifest : Manifest)
    (ended : List (Except Fault (Option Finding))) (left : Nat) : Job where
  task := .refresh none uri generation manifest
    (ended.map Except.toOption ++ List.replicate left none)
  outcome := faultOf ended

variable {shop : Workshop} {number : Nat} {uri : String} {generation : Nat}
  {manifest : Manifest} {ended : List (Except Fault (Option Finding))} {left : Nat}

/-- The workshop with another job under a number. -/
def setJob (shop : Workshop) (number : Nat) (job : Job) : Workshop :=
  { shop with jobs := shop.jobs.set number job }

theorem modifyJob_eq {job : Job} (hjob : shop.jobs[number]? = some job) (change : Job → Job) :
    shop.modifyJob number change = shop.setJob number (change job) := by
  obtain ⟨hlt, hget⟩ := List.getElem?_eq_some_iff.mp hjob
  have hjobs : shop.jobs.modify number change = shop.jobs.set number (change job) := by
    refine List.ext_getElem? fun other => ?_
    rw [List.getElem?_modify, List.getElem?_set]
    by_cases hother : number = other
    · subst hother
      simp [hlt, hget]
    · simp [hother]
  rw [modifyJob, hjobs, setJob]

/-- Nothing is missing from what was found once no check is left and none has failed. -/
theorem all_found_iff (ended : List (Except Fault (Option Finding))) (left : Nat) :
    (ended.map Except.toOption ++ List.replicate left none).all (·.isSome) = true ↔
      left = 0 ∧ (gathered ended).isOk = true := by
  induction ended with
  | nil => cases left <;> simp [gathered, List.replicate_succ, Except.isOk, Except.toBool]
  | cons first rest ih =>
      cases first with
      | error fault =>
          simp [gathered, Except.toOption, Except.isOk, Except.toBool]
      | ok value =>
          have hrest : (gathered (.ok value :: rest)).isOk = (gathered rest).isOk := by
            rw [gathered]
            cases gathered rest <;> rfl
          rw [hrest, ← ih, List.map_cons, List.cons_append, List.all_cons]
          simp [Except.toOption]

section

variable {batch : Option Nat} {found : List (Option (Option Finding))} {outcome : Option Outcome}

theorem deliver_found
    (hjob : shop.jobs[number]? = some ⟨.refresh batch uri generation manifest found, outcome⟩)
    (place : Nat) (value : Option Finding) :
    let next := found.set place (some value)
    shop.deliver number place (.ok (.found value)) =
      (shop.setJob number ⟨.refresh batch uri generation manifest next, outcome⟩,
        next.all (·.isSome) && outcome.isNone) := by
  unfold deliver
  simp only [hjob]
  rw [modifyJob_eq hjob]

/-- Only the first fault of a refresh counts. -/
theorem deliver_fault
    (hjob : shop.jobs[number]? = some ⟨.refresh none uri generation manifest found, outcome⟩)
    (place : Nat) (fault : Fault) :
    shop.deliver number place (.error fault) =
      (shop.setJob number ⟨.refresh none uri generation manifest found,
        some (outcome.getD (.error fault))⟩, false) := by
  unfold deliver
  simp only [hjob]
  cases outcome with
  | none =>
      dsimp only [finishPart, finish]
      rw [modifyJob_eq hjob]
  | some outcome =>
      dsimp only [finish]
      rw [modifyJob_eq hjob]

end

/-- What the next check ends with is entered in its place. -/
theorem deliver_refreshJob
    (hjob : shop.jobs[number]? = some (refreshJob uri generation manifest ended (left + 1)))
    (result : Except Fault (Option Finding)) :
    shop.deliver number ended.length (result.map .found) =
      (shop.setJob number (refreshJob uri generation manifest (ended ++ [result]) left),
        decide (left = 0) && (gathered (ended ++ [result])).isOk) := by
  cases result with
  | ok value =>
      have hfound : (ended.map Except.toOption ++ List.replicate (left + 1) none).set ended.length
          (some value) =
            (ended ++ [Except.ok value]).map Except.toOption ++ List.replicate left none := by
        simp [List.replicate_succ, Except.toOption]
      have houtcome : faultOf (ended ++ [.ok value]) = faultOf ended := by
        rw [faultOf, faultOf, gathered_append]
        cases gathered ended <;> rfl
      have hnone : (gathered (ended ++ [.ok value])).isOk = true → (faultOf ended).isNone := by
        rw [faultOf, gathered_append]
        cases gathered ended with
        | ok values => exact fun _ => rfl
        | error fault =>
            intro hok
            cases hok
      refine (deliver_found hjob ended.length value).trans ?_
      rw [hfound]
      refine Prod.ext (congrArg (shop.setJob number) ?_) ?_
      · rw [refreshJob, houtcome]
      · rw [Bool.eq_iff_iff]
        simp only [Bool.and_eq_true, all_found_iff, decide_eq_true_eq]
        exact and_iff_left_of_imp fun hall => hnone hall.2
  | error fault =>
      have hgathered : (gathered (ended ++ [.error fault])).isOk = false := by
        rw [gathered_append]
        cases gathered ended <;> rfl
      refine (deliver_fault hjob ended.length fault).trans ?_
      rw [hgathered, Bool.and_false]
      refine Prod.ext (congrArg (shop.setJob number) ?_) rfl
      simp only [refreshJob, faultOf, gathered_append]
      cases gathered ended <;> simp [List.replicate_succ, Except.toOption, gathered, Except.map]

/-- While the gate is open, the thread of a check runs to its end. -/
theorem runThread_check {instant : Instant Registry} (hgate : shop.gateOpen = true)
    (hregistry : shop.registry = instant.state) (place : Nat) (check : Lookup (Option Finding)) :
    let world : World Registry := .steady shop.host.answer
    shop.runThread ⟨number, place, do return (← check.run).map Yield.found⟩ =
      { shop with registry := (instant.after world check).state }.deliver number place
        ((instant.ended world check).map .found) := by
  intro world
  obtain ⟨hvalue, hstate⟩ :=
    Program.play_steady shop.host.answer (check.run instant.state) instant.waits
  unfold runThread
  simp only [hgate, if_true, hregistry]
  have hrun : ((do return (← check.run).map Yield.found : Action Registry _)
      instant.state).run shop.host.answer =
        ((instant.after world check).state, (instant.ended world check).map .found) := by
    refine (Program.run_bind ..).trans (Prod.ext ?_ ?_)
    · exact hstate.symm
    · exact congrArg (Except.map Yield.found) hvalue.symm
  rw [hrun]

theorem setJob_self {job : Job} (hjob : shop.jobs[number]? = some job) :
    shop.setJob number job = shop := by
  obtain ⟨hlt, rfl⟩ := List.getElem?_eq_some_iff.mp hjob
  rw [setJob, List.set_getElem_self]

/-- The threads of the last checks of a refresh. -/
def threadsFrom (number place : Nat) (checks : List (Lookup (Option Finding))) : List Thread :=
  (checks.zipIdx place).map fun (check, place) =>
    ⟨number, place, do return (← check.run).map Yield.found⟩

theorem runThreads_cons {next last : Workshop} {thread : Thread} {rest : List Thread}
    {done : Bool} {others : List Nat} (hfirst : shop.runThread thread = (next, done))
    (hrest : next.runThreads rest = (last, others)) :
    shop.runThreads (thread :: rest) = (last, if done then thread.job :: others else others) := by
  rw [runThreads, hfirst]
  dsimp only
  rw [hrest]

/-- **In turn.**  When the threads of a refresh have run, what they have ended with is
entered, and the refresh is to be settled if there was no fault. -/
theorem runThreads_checks {instant : Instant Registry}
    {checks : List (Lookup (Option Finding))} (hgate : shop.gateOpen = true)
    (hregistry : shop.registry = instant.state)
    (hjob : shop.jobs[number]? =
      some (refreshJob uri generation manifest ended checks.length)) :
    let all := ended ++ instant.inTurn (.steady shop.host.answer) checks
    ∃ registry, shop.runThreads (threadsFrom number ended.length checks) =
      ({ shop with registry }.setJob number (refreshJob uri generation manifest all 0),
        if checks ≠ [] ∧ (gathered all).isOk = true then [number] else []) := by
  induction checks generalizing shop instant ended with
  | nil =>
      refine ⟨shop.registry, ?_⟩
      rw [Instant.inTurn, List.append_nil, if_neg (by simp)]
      exact congrArg (·, []) (setJob_self hjob).symm
  | cons check rest ih =>
      intro all
      have hlt : number < shop.jobs.length := (List.getElem?_eq_some_iff.mp hjob).1
      let world : World Registry := .steady shop.host.answer
      let result := instant.ended world check
      let next := { shop with registry := (instant.after world check).state }.setJob number
        (refreshJob uri generation manifest (ended ++ [result]) rest.length)
      have hrun : shop.runThread ⟨number, ended.length,
          do return (← check.run).map Yield.found⟩ =
            (next, decide (rest.length = 0) && (gathered (ended ++ [result])).isOk) := by
        rw [runThread_check hgate hregistry]
        let moved : Workshop := { shop with registry := (instant.after world check).state }
        have hmoved : moved.jobs[number]? =
            some (refreshJob uri generation manifest ended (rest.length + 1)) := hjob
        exact deliver_refreshJob hmoved result
      have hnext : next.jobs[number]? = some
          (refreshJob uri generation manifest (ended ++ [result]) rest.length) :=
        List.getElem?_set_self hlt
      have hstate : next.registry = (instant.after world check).state := rfl
      have hopen : next.gateOpen = true := hgate
      obtain ⟨registry, hrest⟩ := ih hopen hstate hnext
      have hall : ended ++ [result] ++ (instant.after world check).inTurn world rest = all :=
        List.append_assoc ..
      have hset : { next with registry }.setJob number (refreshJob uri generation manifest all 0) =
          { shop with registry }.setJob number (refreshJob uri generation manifest all 0) :=
        congrArg (fun jobs => { shop with registry, jobs }) (List.set_set ..)
      have hthreads : threadsFrom number ended.length (check :: rest) =
          ⟨number, ended.length, do return (← check.run).map Yield.found⟩ ::
            threadsFrom number (ended ++ [result]).length rest := by
        rw [List.length_append]
        rfl
      have hlater : next.runThreads (threadsFrom number (ended ++ [result]).length rest) =
          ({ shop with registry }.setJob number (refreshJob uri generation manifest all 0),
            if rest ≠ [] ∧ (gathered all).isOk = true then [number] else []) := by
        rw [← hset, ← hall]
        exact hrest
      refine ⟨registry, ?_⟩
      rw [hthreads, runThreads_cons hrun hlater]
      refine Prod.ext rfl ?_
      dsimp only
      cases rest with
      | nil =>
          rw [← hall]
          simp [Instant.inTurn]
      | cons second rest => simp

/-! ## Refreshes -/

/-- What the checks of a manifest end with, one after the other. -/
def checked (shop : Workshop) (manifest : Manifest) : List (Except Fault (Option Finding)) :=
  let (handle, registry) := shop.registry.find? manifest.indexUrl
  (⟨registry, 0⟩ : Instant Registry).inTurn (.steady shop.host.answer)
    (Rule.checks manifest handle)

theorem checks_ne_nil (manifest : Manifest) (handle : Option Handle) :
    Rule.checks manifest handle ≠ [] := by
  cases handle <;> exact nofun

/-- The job of a refresh when all its checks have ended. -/
theorem work_checks {checks : List (Lookup (Option Finding))} {instant : Instant Registry}
    (hgate : shop.gateOpen = true) (hregistry : shop.registry = instant.state)
    (hchecks : checks ≠ [])
    (hjob : shop.jobs[number]? =
      some (refreshJob uri generation manifest [] checks.length)) :
    let all := instant.inTurn (.steady shop.host.answer) checks
    ∃ registry,
      let after := { shop with registry }.setJob number (refreshJob uri generation manifest all 0)
      shop.work (checkThreads number checks) =
        match gathered all with
        | .ok _ => after.settle number
        | .error _ => after := by
  intro all
  obtain ⟨registry, hrun⟩ := runThreads_checks hgate hregistry hjob
  refine ⟨registry, ?_⟩
  have hthreads : shop.runThreads (checkThreads number checks) =
      ({ shop with registry }.setJob number (refreshJob uri generation manifest all 0),
        if checks ≠ [] ∧ (gathered all).isOk = true then [number] else []) := hrun
  rw [work, hthreads]
  cases gathered all with
  | ok values =>
      rw [if_pos ⟨hchecks, rfl⟩]
      rfl
  | error fault =>
      rw [if_neg fun hboth => Bool.false_ne_true hboth.2]
      rfl

section

variable (shop)

theorem outcome?_setJob {job : Job} (hlt : number < shop.jobs.length) :
    (shop.setJob number job).outcome? number = job.outcome := by
  rw [outcome?, setJob, List.getElem?_set_self hlt]
  rfl

theorem outcome?_finishRefresh {job : Job} (hjob : shop.jobs[number]? = some job)
    (houtcome : job.outcome = none) (published : Option (List Finding)) :
    (shop.finishRefresh number none published).outcome? number =
      some (.ok (.ofOption .findings published)) := by
  have hlt : number < shop.jobs.length := (List.getElem?_eq_some_iff.mp hjob).1
  rw [finishRefresh, finishPart, finish, modifyJob_eq hjob, outcome?_setJob shop hlt, houtcome]
  rfl

/-- A refresh that runs no checks ends at once. -/
theorem outcome?_ended (published : Option (List Finding)) :
    let (after, job) := shop.addJob { task := .query }
    (after.finishRefresh job none published).outcome? job =
      some (.ok (.ofOption .findings published)) :=
  outcome?_finishRefresh _ List.getElem?_concat_length rfl published

/-- Without checks to run there is no fault: the document is not tracked, or the checks
are off, or the text is no manifest. -/
theorem startRefresh_unchecked (uri text : String)
    (hnone : shop.tracker.isTracked uri = true → shop.tracker.enabled = true →
      Manifest.parse? text = none) :
    ∃ answer, (shop.startRefresh uri text).1.outcome? (shop.startRefresh uri text).2 =
      some (.ok answer) := by
  unfold startRefresh openRefresh
  cases htracked : shop.tracker.isTracked uri with
  | false =>
      rw [Tracker.refresh_untracked _ _ _ htracked]
      exact ⟨_, outcome?_ended _ none⟩
  | true =>
      cases hon : shop.tracker.enabled with
      | false =>
          rw [Tracker.refresh_off _ _ _ htracked hon]
          exact ⟨_, outcome?_ended { shop with tracker := _ } (some [])⟩
      | true =>
          rw [Tracker.refresh_on _ _ _ htracked hon, hnone htracked hon]
          exact ⟨_, outcome?_finishRefresh _ List.getElem?_concat_length rfl _⟩

variable {text : String}

/-- The workshop in which a refresh with checks to run is a job, and its checks have
ended. -/
theorem startRefresh_checked (hgate : shop.gateOpen = true)
    (htracked : shop.tracker.isTracked uri = true) (hon : shop.tracker.enabled = true)
    (hparse : Manifest.parse? text = some manifest) :
    ∃ (after : Workshop) (job : Nat),
      after.tracker = shop.tracker.counted uri text ∧
      after.jobs[job]? = some (refreshJob uri (shop.tracker.counter + 1) manifest
        (shop.checked manifest) 0) ∧
      shop.startRefresh uri text =
        (match gathered (shop.checked manifest) with
          | .ok _ => after.settle job
          | .error _ => after, job) := by
  let found := shop.registry.find? manifest.indexUrl
  let checks := Rule.checks manifest found.1
  let opened : Workshop := { shop with
    tracker := shop.tracker.counted uri text
    registry := found.2
    jobs := shop.jobs ++
      [refreshJob uri (shop.tracker.counter + 1) manifest [] checks.length] }
  have hopen : shop.openRefresh none uri text =
      (opened, shop.jobs.length, checkThreads shop.jobs.length checks) := by
    unfold openRefresh
    rw [Tracker.refresh_on _ _ _ htracked hon, hparse]
    dsimp only [addJob]
    rw [List.map_const']
    rfl
  have hopened : opened.gateOpen = true := hgate
  have hregistry : opened.registry = (⟨found.2, 0⟩ : Instant Registry).state := rfl
  have hjob : opened.jobs[shop.jobs.length]? =
      some (refreshJob uri (shop.tracker.counter + 1) manifest [] checks.length) :=
    List.getElem?_concat_length
  obtain ⟨registry, hwork⟩ :=
    work_checks hopened hregistry (checks_ne_nil manifest found.1) hjob
  let after := { opened with registry }.setJob shop.jobs.length
    (refreshJob uri (shop.tracker.counter + 1) manifest (shop.checked manifest) 0)
  refine ⟨after, shop.jobs.length, rfl, List.getElem?_set_self (by simp [opened]), ?_⟩
  rw [startRefresh, hopen]
  exact Prod.ext hwork rfl

theorem startRefresh_fault (hgate : shop.gateOpen = true)
    (htracked : shop.tracker.isTracked uri = true) (hon : shop.tracker.enabled = true)
    (hparse : Manifest.parse? text = some manifest) {fault : Fault}
    (hfault : gathered (shop.checked manifest) = .error fault) :
    (shop.startRefresh uri text).1.outcome? (shop.startRefresh uri text).2 =
      some (.error fault) := by
  obtain ⟨after, job, -, hjob, hstart⟩ :=
    shop.startRefresh_checked hgate htracked hon hparse
  rw [hstart, hfault]
  rw [outcome?, hjob, refreshJob, faultOf, hfault]
  rfl

theorem settle_refresh {found : List (Option (Option Finding))}
    (hjob : shop.jobs[number]? = some ⟨.refresh none uri generation manifest found, none⟩)
    (hcurrent : shop.tracker.isCurrent uri generation = true) :
    let findings := Rule.sorted manifest (found.map Option.join)
    (shop.settle number).outcome? number = some (.ok (.findings findings)) ∧
      (shop.settle number).tracker = shop.tracker.publish uri findings := by
  intro findings
  have hsettle : shop.settle number =
      { shop with tracker := shop.tracker.publish uri findings }.finishRefresh number none
        (some findings) := by
    unfold settle
    simp only [hjob]
    rw [Tracker.settle_current _ _ _ _ hcurrent]
  rw [hsettle]
  exact ⟨outcome?_finishRefresh _ hjob rfl _, rfl⟩

/-- **Findings.**  If no check ends in a fault, what the checks have found in turn is
put in order, published, and the outcome of the refresh. -/
theorem startRefresh_ok (hgate : shop.gateOpen = true)
    (htracked : shop.tracker.isTracked uri = true) (hon : shop.tracker.enabled = true)
    (hparse : Manifest.parse? text = some manifest) {values : List (Option Finding)}
    (hvalues : gathered (shop.checked manifest) = .ok values) :
    let findings := Rule.sorted manifest values
    let (after, job) := shop.startRefresh uri text
    after.outcome? job = some (.ok (.findings findings)) ∧
      after.tracker = (shop.tracker.counted uri text).publish uri findings := by
  obtain ⟨after, job, htracker, hjob, hstart⟩ :=
    shop.startRefresh_checked hgate htracked hon hparse
  have hfound : ((shop.checked manifest).map Except.toOption ++ List.replicate 0 none).map
      Option.join = values := by
    rw [gathered_eq_ok hvalues]
    simp [Function.comp_def, Except.toOption]
  have hcurrent : (shop.tracker.counted uri text).isCurrent uri (shop.tracker.counter + 1) =
      true := shop.tracker.isCurrent_counted uri text hon
  rw [refreshJob, faultOf, hvalues] at hjob
  have hsettled := after.settle_refresh hjob (htracker.symm ▸ hcurrent)
  rw [hfound, htracker] at hsettled
  rw [hstart, hvalues]
  exact hsettled

end

end Workshop

end ManifestLint
