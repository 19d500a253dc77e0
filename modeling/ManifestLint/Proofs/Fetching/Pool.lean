import ManifestLint.Proofs.Fetching.Conduct

/-!
# Programs side by side

A **pool** is the state that several programs share, and where each of them
stands: it has ended, or it waits for the reply to a request.  Programs have their
places in the order in which they were started, and requests have numbers in the
order in which they were sent.

One thing happens at a time: a program is started, or one that waits is given the
reply, or something else changes the state.  Nobody says in which order, nor which
replies there are, nor whether there ever is one.

* `Pool.Keeps.run`: if all programs of a run keep an agreement, the state stays as
  agreed; and `Pool.value_of_keeps`: a program that has ended then has a value of
  the kind that it is known to end in.
* `Pool.Obeys.turn`: if all programs obey a conduct, so does every turn.
* `Pool.passed_run`: what a program passes on its way, a run has passed when the
  program has ended.
-/

namespace ManifestLint

/-- Where a program stands. -/
inductive Stage (σ α : Type) where
  | ended (value : α)
  | waiting (number : Nat) (request : Request) (resume : σ → Reply → Program σ α)

/-- A reply, and the request to which it came. -/
structure Heard where
  number : Nat
  request : Request
  reply : Reply

/-- A state, where the programs stand that share it, how many requests were sent,
and which replies have come. -/
structure Pool (σ α : Type) where
  state : σ
  stages : List (Stage σ α) := []
  sent : Nat := 0
  heard : List Heard := []

/-- What can happen next. -/
inductive Pool.Turn (σ α : Type) where
  /-- A program is started. -/
  | start (action : Action σ α)
  /-- The program at a place is given the reply to its request. -/
  | answer (place : Nat) (reply : Request → Reply)
  /-- The state is changed. -/
  | meanwhile (change : σ → σ)

variable {σ α : Type}

namespace Program

/-- The state in which a program waits or ends. -/
def state : Program σ α → σ
  | done state _ => state
  | waiting state _ _ => state

/-- Where a program stands, if its request has a number. -/
def stage (number : Nat) : Program σ α → Stage σ α
  | done _ value => .ended value
  | waiting _ request resume => .waiting number request resume

/-- How many requests a program has just sent. -/
def requests : Program σ α → Nat
  | done .. => 0
  | waiting .. => 1

end Program

namespace Pool

/-- The pool after one turn. -/
def turn (pool : Pool σ α) : Pool.Turn σ α → Pool σ α
  | .start action =>
    let program := action pool.state
    { pool with
      state := program.state
      stages := pool.stages ++ [program.stage pool.sent]
      sent := pool.sent + program.requests }
  | .answer place reply =>
    match pool.stages[place]? with
    | some (.waiting number request resume) =>
      let program := resume pool.state (reply request)
      { state := program.state
        stages := pool.stages.set place (program.stage pool.sent)
        sent := pool.sent + program.requests
        heard := pool.heard ++ [⟨number, request, reply request⟩] }
    | _ => pool
  | .meanwhile change => { pool with state := change pool.state }

/-- The pool after some turns. -/
def run (pool : Pool σ α) (turns : List (Pool.Turn σ α)) : Pool σ α := turns.foldl turn pool

/-- The pool in which nothing was started yet. -/
def opened (state : σ) : Pool σ α := { state }

theorem run_append (pool : Pool σ α) (early late : List (Pool.Turn σ α)) :
    pool.run (early ++ late) = (pool.run early).run late :=
  List.foldl_append

end Pool

/-- The action that a turn starts. -/
def Pool.Turn.started? : Pool.Turn σ α → Option (Action σ α)
  | start action => some action
  | _ => none

/-- The actions that are started, in order. -/
def started (turns : List (Pool.Turn σ α)) : List (Action σ α) :=
  turns.filterMap Pool.Turn.started?

/-! ## Agreements -/

variable {agreement : Agreement σ} {kind : Nat → α → Prop} {result : α → Prop}

/-- The program goes on as agreed, and ends with a value of some kind. -/
def Stage.Keeps (agreement : Agreement σ) (result : α → Prop) : Stage σ α → Prop
  | ended value => result value
  | waiting _ request resume => ∀ later reply, agreement.state later →
      agreement.reply request reply → (resume later reply).Keeps agreement result

/-- Replies and changes are as agreed. -/
def Pool.Turn.Agrees (agreement : Agreement σ) : Pool.Turn σ α → Prop
  | start _ => True
  | answer _ reply => ∀ request, agreement.reply request (reply request)
  | meanwhile change => ∀ state, agreement.state state → agreement.state (change state)

namespace Program

variable {program : Program σ α}

theorem Keeps.state (h : program.Keeps agreement result) : agreement.state program.state := by
  cases program with
  | done state value => exact h.1
  | waiting state request resume => exact h.1

theorem Keeps.stage (h : program.Keeps agreement result) (number : Nat) :
    (program.stage number).Keeps agreement result := by
  cases program with
  | done state value => exact h.2
  | waiting state request resume => exact h.2

end Program

namespace Pool

/-- The state is as agreed, every program keeps the agreement, and ends with a
value of the kind that goes with its place. -/
structure Keeps (agreement : Agreement σ) (kind : Nat → α → Prop) (pool : Pool σ α) :
    Prop where
  state : agreement.state pool.state
  stages : ∀ (place : Nat) (stage : Stage σ α), pool.stages[place]? = some stage →
    stage.Keeps agreement (kind place)

variable {pool : Pool σ α}

theorem keeps_opened {state : σ} (hstate : agreement.state state) :
    (opened state : Pool σ α).Keeps agreement kind :=
  ⟨hstate, fun _ _ hstage => by cases hstage⟩

/-- A program may be started that keeps the agreement. -/
theorem Keeps.start (h : pool.Keeps agreement kind) {action : Action σ α}
    (haction : action.Keeps agreement (kind pool.stages.length)) :
    (pool.turn (.start action)).Keeps agreement kind := by
  have hprogram := haction pool.state h.state
  refine ⟨hprogram.state, fun place stage hstage => ?_⟩
  rcases Nat.lt_trichotomy place pool.stages.length with hbefore | rfl | hbehind
  · rw [turn, List.getElem?_append_left hbefore] at hstage
    exact h.stages place stage hstage
  · simp only [turn, List.getElem?_concat_length, Option.some.injEq] at hstage
    exact hstage ▸ hprogram.stage pool.sent
  · have hnone : (pool.turn (.start action)).stages[place]? = none := by
      apply List.getElem?_eq_none
      simp only [turn, List.length_append, List.length_singleton]
      omega
    rw [hnone] at hstage
    cases hstage

/-- A program may be given a reply that was agreed on. -/
theorem Keeps.answer (h : pool.Keeps agreement kind) (place : Nat) {reply : Request → Reply}
    (hreply : ∀ request, agreement.reply request (reply request)) :
    (pool.turn (.answer place reply)).Keeps agreement kind := by
  unfold turn
  dsimp only
  split
  · next number request resume hwaiting =>
      have hprogram := h.stages place _ hwaiting pool.state (reply request) h.state
        (hreply request)
      refine ⟨hprogram.state, fun other stage hstage => ?_⟩
      by_cases hother : place = other
      · subst hother
        have hlt : place < pool.stages.length := (List.getElem?_eq_some_iff.mp hwaiting).1
        simp only [List.getElem?_set_self hlt, Option.some.injEq] at hstage
        exact hstage ▸ hprogram.stage pool.sent
      · rw [List.getElem?_set_ne hother] at hstage
        exact h.stages other stage hstage
  · exact h

theorem Keeps.turn (h : pool.Keeps agreement kind) {turn : Pool.Turn σ α}
    (hagrees : turn.Agrees agreement)
    (hstarted : ∀ action, turn.started? = some action →
      action.Keeps agreement (kind pool.stages.length)) :
    (pool.turn turn).Keeps agreement kind := by
  cases turn with
  | start action => exact h.start (hstarted action rfl)
  | answer place reply => exact h.answer place hagrees
  | meanwhile change => exact ⟨hagrees pool.state h.state, h.stages⟩

/-- Only a start makes a place. -/
theorem length_turn (turn : Pool.Turn σ α) :
    (pool.turn turn).stages.length = pool.stages.length + (started [turn]).length := by
  cases turn with
  | start action => simp [Pool.turn, started, Pool.Turn.started?]
  | answer place reply =>
      have hnone : started [Pool.Turn.answer (σ := σ) (α := α) place reply] = [] := rfl
      rw [hnone, Pool.turn]
      split <;> simp
  | meanwhile change => rfl

/-- **Agreements.**  If every program that is started keeps the agreement, and
everything else is as agreed, the state stays as agreed, and whatever has ended
has a value of the kind that goes with its place. -/
theorem Keeps.run (h : pool.Keeps agreement kind) (turns : List (Pool.Turn σ α))
    (hagrees : ∀ turn ∈ turns, turn.Agrees agreement)
    (hstarted : ∀ (place : Nat) (action : Action σ α), (started turns)[place]? = some action →
      action.Keeps agreement (kind (pool.stages.length + place))) :
    (pool.run turns).Keeps agreement kind := by
  induction turns generalizing pool with
  | nil => exact h
  | cons turn rest ih =>
      have hnext : (pool.turn turn).Keeps agreement kind := by
        refine h.turn (hagrees turn (List.mem_cons_self ..)) fun action haction => ?_
        refine hstarted 0 action ?_
        simp [started, haction]
      refine ih hnext (fun other hother => hagrees other (List.mem_cons_of_mem _ hother)) ?_
      intro place action hplace
      have hsplit : started (turn :: rest) = started [turn] ++ started rest := by
        simp [started, ← List.filterMap_append]
      rw [length_turn, Nat.add_assoc]
      refine hstarted _ action ?_
      rw [hsplit, List.getElem?_append_right (by omega), Nat.add_sub_cancel_left]
      exact hplace

/-- A program that has ended has a value of the kind that its action is known to
end in, whatever the others were. -/
theorem value_of_keeps {state : σ} (hstate : agreement.state state) {turns : List (Pool.Turn σ α)}
    (hagrees : ∀ turn ∈ turns, turn.Agrees agreement)
    (hstarted : ∀ action ∈ started turns, action.Keeps agreement fun _ => True)
    {place : Nat} {action : Action σ α} (haction : (started turns)[place]? = some action)
    (hkeeps : action.Keeps agreement result) {value : α}
    (hended : ((opened state).run turns).stages[place]? = some (.ended value)) :
    result value := by
  let kind (other : Nat) (value : α) : Prop := other = place → result value
  have hrun : ((opened state).run turns).Keeps agreement kind := by
    refine (keeps_opened hstate).run turns hagrees fun other begun hbegun => ?_
    have hzero : (opened state : Pool σ α).stages.length + other = other := Nat.zero_add other
    rw [hzero]
    by_cases hother : other = place
    · subst hother
      obtain rfl : action = begun := Option.some.inj (haction.symm.trans hbegun)
      exact hkeeps.mono fun value hvalue _ => hvalue
    · exact (hstarted begun (List.mem_of_getElem? hbegun)).mono
        fun value _ hsame => absurd hsame hother
  exact hrun.stages place _ hended rfl

end Pool

/-! ## Conduct -/

variable {conduct : Conduct σ}

/-- The program goes on as the conduct wants it. -/
def Stage.Obeys (conduct : Conduct σ) : Stage σ α → Prop
  | ended _ => True
  | waiting _ request resume => ∀ later reply,
      (resume later reply).Obeys conduct (fun _ _ => True) (some (request, reply)) later

/-- What is started obeys the conduct, and changes from outside are allowed. -/
def Pool.Turn.Obeys (conduct : Conduct σ) : Pool.Turn σ α → Prop
  | start action => action.Obeys conduct (fun _ => True) fun _ _ => True
  | answer _ _ => True
  | meanwhile change => ∀ state, conduct.allows none state (change state)

namespace Program

variable {program : Program σ α} {heard : Hearing} {start : σ}

theorem Obeys.state (h : program.Obeys conduct (fun _ _ => True) heard start) :
    conduct.allows heard start program.state := by
  cases program with
  | done state value => exact h.1
  | waiting state request resume => exact h.1

theorem Obeys.stage (h : program.Obeys conduct (fun _ _ => True) heard start) (number : Nat) :
    (program.stage number).Obeys conduct := by
  cases program with
  | done state value => trivial
  | waiting state request resume => exact h.2

end Program

namespace Pool

/-- A program of the pool waits for the reply to a request. -/
def Awaits (pool : Pool σ α) (number : Nat) (request : Request) : Prop :=
  ∃ resume, Stage.waiting number request resume ∈ pool.stages

/-- Every program of the pool obeys a conduct. -/
def Obeys (conduct : Conduct σ) (pool : Pool σ α) : Prop :=
  ∀ stage ∈ pool.stages, stage.Obeys conduct

/-- How one turn may change a pool: nothing was heard, or the reply to a request
that was waited for. -/
inductive Moves (conduct : Conduct σ) (pool next : Pool σ α) : Prop where
  | silently (hallows : conduct.allows none pool.state next.state)
      (hheard : next.heard = pool.heard)
  | upon (number : Nat) (request : Request) (reply : Reply)
      (hawaits : pool.Awaits number request)
      (hallows : conduct.allows (some (request, reply)) pool.state next.state)
      (hheard : next.heard = pool.heard ++ [⟨number, request, reply⟩])

variable {pool : Pool σ α}

theorem obeys_opened (state : σ) : (opened state : Pool σ α).Obeys conduct :=
  fun _ hstage => by cases hstage

/-- **Conduct.**  If every program of the pool obeys a conduct, so does every turn,
and every program of the pool after it. -/
theorem Obeys.turn (h : pool.Obeys conduct) {turn : Pool.Turn σ α} (hturn : turn.Obeys conduct) :
    (pool.turn turn).Obeys conduct ∧ pool.Moves conduct (pool.turn turn) := by
  cases turn with
  | start action =>
      have hprogram := hturn none pool.state trivial
      refine ⟨fun stage hstage => ?_, .silently hprogram.state rfl⟩
      rcases List.mem_append.mp hstage with hold | hnew
      · exact h stage hold
      · exact List.mem_singleton.mp hnew ▸ hprogram.stage pool.sent
  | answer place reply =>
      unfold Pool.turn
      dsimp only
      split
      · next number request resume hwaiting =>
          have hmem := List.mem_of_getElem? hwaiting
          have hprogram := h _ hmem pool.state (reply request)
          refine ⟨fun stage hstage => ?_, ?_⟩
          · rcases List.mem_or_eq_of_mem_set hstage with hold | hnew
            · exact h stage hold
            · exact hnew ▸ hprogram.stage pool.sent
          · exact .upon number request (reply request) ⟨resume, hmem⟩ hprogram.state rfl
      · exact ⟨h, .silently (conduct.refl none pool.state) rfl⟩
  | meanwhile change => exact ⟨h, .silently (hturn pool.state) rfl⟩

theorem Obeys.run (h : pool.Obeys conduct) {turns : List (Pool.Turn σ α)}
    (hturns : ∀ turn ∈ turns, turn.Obeys conduct) : (pool.run turns).Obeys conduct := by
  induction turns generalizing pool with
  | nil => exact h
  | cons turn rest ih =>
      have hnext := (h.turn (hturns turn (List.mem_cons_self ..))).1
      exact ih hnext fun other hother => hturns other (List.mem_cons_of_mem _ hother)

/-- Whoever waits after a turn waited before, or has sent a request meanwhile. -/
theorem awaits_turn {turn : Pool.Turn σ α} {number : Nat} {request : Request}
    (h : (pool.turn turn).Awaits number request) :
    pool.Awaits number request ∨ pool.sent ≤ number := by
  have hsent : ∀ (program : Program σ α) {resume : σ → Reply → Program σ α},
      Stage.waiting number request resume = program.stage pool.sent → pool.sent ≤ number := by
    intro program resume hstage
    cases program with
    | done state value => cases hstage
    | waiting state asked later =>
        simp only [Program.stage, Stage.waiting.injEq] at hstage
        omega
  obtain ⟨resume, hmem⟩ := h
  cases turn with
  | start action =>
      rcases List.mem_append.mp hmem with hold | hnew
      · exact .inl ⟨resume, hold⟩
      · exact .inr (hsent (action pool.state) (List.mem_singleton.mp hnew))
  | answer place reply =>
      unfold Pool.turn at hmem
      dsimp only at hmem
      split at hmem
      · next other asked later hwaiting =>
          rcases List.mem_or_eq_of_mem_set hmem with hold | hnew
          · exact .inl ⟨resume, hold⟩
          · exact .inr (hsent _ hnew)
      · exact .inl ⟨resume, hmem⟩
  | meanwhile change => exact .inl ⟨resume, hmem⟩

theorem sent_le_turn (turn : Pool.Turn σ α) : pool.sent ≤ (pool.turn turn).sent := by
  cases turn with
  | start action => exact Nat.le_add_right ..
  | answer place reply =>
      unfold Pool.turn
      dsimp only
      split
      · exact Nat.le_add_right ..
      · exact Nat.le_refl _
  | meanwhile change => exact Nat.le_refl _

end Pool

/-! ## Passing a state -/

variable {passed : σ → Prop} {counts : α → Prop}

/-- At some wait or in the end the state is of some kind, unless the program ends
with a value that does not count. -/
def Program.Passes (passed : σ → Prop) (counts : α → Prop) : Program σ α → Prop
  | done state value => counts value → passed state
  | waiting state _ resume =>
    passed state ∨ ∀ later reply, (resume later reply).Passes passed counts

/-- The program still has to pass such a state. -/
def Stage.Owes (passed : σ → Prop) (counts : α → Prop) : Stage σ α → Prop
  | ended value => ¬ counts value
  | waiting _ _ resume => ∀ later reply, (resume later reply).Passes passed counts

theorem Program.Passes.of_state {program : Program σ α} (h : passed program.state) :
    program.Passes passed counts := by
  cases program with
  | done state value => exact fun _ => h
  | waiting state request resume => exact .inl h

/-- Whatever comes first, what follows passes such a state if it always does. -/
theorem Program.Passes.bind {β : Type} (program : Program σ β) {next : β → σ → Program σ α}
    (hnext : ∀ value state, (next value state).Passes passed counts) :
    (program.bind next).Passes passed counts := by
  induction program with
  | done state value => exact hnext value state
  | waiting state request resume ih => exact .inr fun later reply => ih later reply

/-- Where a program stands, it has just passed such a state or it has still to. -/
theorem Program.Passes.stage {program : Program σ α} (h : program.Passes passed counts)
    (number : Nat) : passed program.state ∨ (program.stage number).Owes passed counts := by
  cases program with
  | done state value =>
      by_cases hcounts : counts value
      · exact .inl (h hcounts)
      · exact .inr hcounts
  | waiting state request resume => exact h

namespace Pool

variable {pool : Pool σ α} {place : Nat}

/-- A program that has to pass such a state does so in the next turn, or has to
afterwards. -/
theorem owes_turn {stage : Stage σ α} (hstage : pool.stages[place]? = some stage)
    (howes : stage.Owes passed counts) (turn : Pool.Turn σ α) :
    passed (pool.turn turn).state ∨
      ∃ next, (pool.turn turn).stages[place]? = some next ∧ next.Owes passed counts := by
  have hlt : place < pool.stages.length := (List.getElem?_eq_some_iff.mp hstage).1
  cases turn with
  | start action =>
      refine .inr ⟨stage, ?_, howes⟩
      rw [Pool.turn, List.getElem?_append_left hlt, hstage]
  | answer other reply =>
      unfold Pool.turn
      dsimp only
      split
      · next number request resume hwaiting =>
          by_cases hother : other = place
          · subst hother
            obtain rfl : stage = .waiting number request resume :=
              Option.some.inj (hstage.symm.trans hwaiting)
            rcases (howes pool.state (reply request)).stage pool.sent with hpassed | hnext
            · exact .inl hpassed
            · exact .inr ⟨_, List.getElem?_set_self hlt, hnext⟩
          · exact .inr ⟨stage, (List.getElem?_set_ne hother).trans hstage, howes⟩
      · exact .inr ⟨stage, hstage, howes⟩
  | meanwhile change => exact .inr ⟨stage, hstage, howes⟩

theorem passed_of_owes {stage : Stage σ α} (hstage : pool.stages[place]? = some stage)
    (howes : stage.Owes passed counts) (turns : List (Pool.Turn σ α)) {value : α}
    (hended : (pool.run turns).stages[place]? = some (.ended value)) (hcounts : counts value) :
    ∃ early turn late, turns = early ++ turn :: late ∧
      passed (pool.run (early ++ [turn])).state := by
  induction turns generalizing pool stage with
  | nil =>
      obtain rfl : stage = .ended value := Option.some.inj (hstage.symm.trans hended)
      exact absurd hcounts howes
  | cons turn rest ih =>
      rcases owes_turn hstage howes turn with hpassed | ⟨next, hnext, hstill⟩
      · exact ⟨[], turn, rest, rfl, hpassed⟩
      · obtain ⟨early, last, late, rfl, hpassed⟩ := ih hnext hstill hended
        exact ⟨turn :: early, last, late, rfl, hpassed⟩

/-- **Passing.**  If a program passes a state of some kind whatever happens, then
a run in which it was started and has ended has passed such a state since, after
some turn. -/
theorem passed_run {action : Action σ α} (h : (action pool.state).Passes passed counts)
    (turns : List (Pool.Turn σ α)) {value : α}
    (hended : (pool.run (.start action :: turns)).stages[pool.stages.length]? =
      some (.ended value)) (hcounts : counts value) :
    ∃ early turn late, .start action :: turns = early ++ turn :: late ∧
      passed (pool.run (early ++ [turn])).state := by
  have hstage : (pool.turn (.start action)).stages[pool.stages.length]? =
      some ((action pool.state).stage pool.sent) := by
    rw [Pool.turn, List.getElem?_concat_length]
  rcases h.stage pool.sent with hpassed | howes
  · exact ⟨[], _, turns, rfl, hpassed⟩
  · obtain ⟨early, last, late, rfl, hlast⟩ := passed_of_owes hstage howes turns hended hcounts
    exact ⟨.start action :: early, last, late, rfl, hlast⟩

end Pool

end ManifestLint
