import ManifestLint.Proofs.Fetching.Playing

/-!
# What programs ask for

In a world a program sends some requests, one after the other, and then it is done.
Which they are depends on the replies and on what others do meanwhile; but it may be
known beforehand where they go.  A program **asks along** a list of targets if in every
world its requests go to some of them, in their order and to each at most once.  So
the list is a bound on the requests as well.

* `Program.asked`: the requests of a program in a world; `Program.exchanges`: the same
  with the state in which each was made, and the reply.
* `Program.Asks.bind`: of two programs the lists are joined.
* `Instant.waits_after`: no request is waited for but those.
-/

namespace ManifestLint

/-- Where a request goes: to which repository, and for what. -/
structure Target where
  owner : String
  repository : String
  kind : RequestKind
  deriving DecidableEq, Repr

/-- The target of a request, which leaves open what its id is. -/
def Request.target (request : Request) : Target :=
  ⟨request.owner, request.repository, request.kind⟩

variable {σ α β ε : Type} {targets more : List Target}

/-- A request that was waited for: in which state, and which reply came. -/
structure Exchange (σ : Type) where
  state : σ
  request : Request
  reply : Reply

namespace Program

/-- The requests that a program waits for in a world. -/
def asked (world : World σ) (waits : Nat) : Program σ α → List Request
  | done _ _ => []
  | waiting state request resume =>
    request ::
      (resume (world.others waits state) (world.reply waits request)).asked world (waits + 1)

/-- The same requests, with what there is to each of them. -/
def exchanges (world : World σ) (waits : Nat) : Program σ α → List (Exchange σ)
  | done _ _ => []
  | waiting state request resume =>
    ⟨state, request, world.reply waits request⟩ ::
      (resume (world.others waits state) (world.reply waits request)).exchanges world (waits + 1)

variable (world : World σ) (program : Program σ α) (waits : Nat)

theorem exchanges_bind (next : α → σ → Program σ β) :
    (program.bind next).exchanges world waits =
      program.exchanges world waits ++
        (next (program.play world waits).1 (program.play world waits).2.state).exchanges world
          (program.play world waits).2.waits := by
  induction program generalizing waits with
  | done state value => rfl
  | waiting state request resume ih => exact congrArg (_ :: ·) (ih _ _ _)

theorem asked_bind (next : α → σ → Program σ β) :
    (program.bind next).asked world waits =
      program.asked world waits ++
        (next (program.play world waits).1 (program.play world waits).2.state).asked world
          (program.play world waits).2.waits := by
  induction program generalizing waits with
  | done state value => rfl
  | waiting state request resume ih => exact congrArg (request :: ·) (ih _ _ _)

theorem waits_play :
    (program.play world waits).2.waits = waits + (program.asked world waits).length := by
  induction program generalizing waits with
  | done state value => rfl
  | waiting state request resume ih =>
      have hresume := ih (world.others waits state) (world.reply waits request) (waits + 1)
      rw [play, hresume, asked, List.length_cons]
      omega

/-- Whatever happens, the requests go to some of the targets, in their order and to
each at most once. -/
def Asks (targets : List Target) (program : Program σ α) : Prop :=
  ∀ world waits, ((program.asked world waits).map Request.target).Sublist targets

variable {program}

theorem Asks.weaken (h : program.Asks targets) (hmore : targets.Sublist more) :
    program.Asks more :=
  fun world waits => (h world waits).trans hmore

theorem Asks.bind {next : α → σ → Program σ β} (h : program.Asks targets)
    (hnext : ∀ value state, (next value state).Asks more) :
    (program.bind next).Asks (targets ++ more) := by
  intro world waits
  rw [asked_bind, List.map_append]
  exact (h world waits).append (hnext _ _ world _)

end Program

namespace Action

/-- An action asks along a list of targets if it does so from every state. -/
def Asks (targets : List Target) (action : Action σ α) : Prop :=
  ∀ state, (action state).Asks targets

variable {action : Action σ α}

theorem Asks.weaken (h : action.Asks targets) (hmore : targets.Sublist more) :
    action.Asks more :=
  fun state => (h state).weaken hmore

theorem asks_pure (value : α) : (pure value : Action σ α).Asks targets :=
  fun _ _ _ => List.nil_sublist targets

theorem asks_get : (get : Action σ σ).Asks [] :=
  fun _ _ _ => List.nil_sublist []

theorem asks_modify (change : σ → σ) : (modify change : Action σ PUnit).Asks [] :=
  fun _ _ _ => List.nil_sublist []

theorem asks_ask (request : Request) : (ask request : Action σ Reply).Asks [request.target] :=
  fun _ _ _ => List.Sublist.refl [request.target]

theorem Asks.bind {next : α → Action σ β} (h : action.Asks targets)
    (hnext : ∀ value, (next value).Asks more) : (action >>= next).Asks (targets ++ more) :=
  fun state => (h state).bind fun value later => hnext value later

end Action

/-! ## Actions that may end in an error -/

namespace Fallible

/-- The action asks along a list of targets, however it ends. -/
def Asks (targets : List Target) (action : ExceptT ε (Action σ) α) : Prop :=
  action.run.Asks targets

variable {action : ExceptT ε (Action σ) α}

theorem Asks.weaken (h : Asks targets action) (hmore : targets.Sublist more) :
    Asks more action :=
  Action.Asks.weaken h hmore

theorem asks_pure (value : α) : Asks targets (pure value : ExceptT ε (Action σ) α) :=
  Action.asks_pure _

theorem asks_throw (error : ε) : Asks targets (throw error : ExceptT ε (Action σ) α) :=
  Action.asks_pure _

theorem asks_get : Asks [] (get : ExceptT ε (Action σ) σ) :=
  fun _ _ _ => List.nil_sublist []

theorem asks_modifyGet (f : σ → α × σ) : Asks [] (modifyGet f : ExceptT ε (Action σ) α) :=
  fun _ _ _ => List.nil_sublist []

theorem Asks.bind {next : α → ExceptT ε (Action σ) β} (h : Asks targets action)
    (hnext : ∀ value, Asks more (next value)) : Asks (targets ++ more) (action >>= next) := by
  refine Action.Asks.bind h fun ended => ?_
  cases ended with
  | ok value => exact hnext value
  | error error => exact Action.asks_pure _

theorem asks_lift {action : Action σ α} (h : action.Asks targets) :
    Asks targets (action : ExceptT ε (Action σ) α) := by
  have hmap : Action.Asks (targets ++ [])
      (action >>= fun value => (pure (.ok value) : Action σ (Except ε α))) :=
    h.bind fun value => Action.asks_pure _
  rw [List.append_nil, bind_pure_comp] at hmap
  exact hmap

/-- An error may be put in other words. -/
theorem Asks.rethrow (h : Asks targets action) (f : ε → ε) :
    Asks targets (tryCatch action fun error => throw (f error)) := by
  rw [← List.append_nil targets]
  refine Action.Asks.bind h fun ended => ?_
  cases ended with
  | ok value => exact Action.asks_pure _
  | error error => exact Action.asks_pure _

end Fallible

namespace Instant

variable (world : World σ) (instant : Instant σ) (action : ExceptT ε (Action σ) α)

/-- The requests that an action waits for in a world. -/
def asked : List Request := (action.run instant.state).asked world instant.waits

/-- The requests that an action waits for in a world, with what there is to each of them. -/
def exchanges : List (Exchange σ) := (action.run instant.state).exchanges world instant.waits

/-- Nothing else is waited for. -/
theorem waits_after :
    (instant.after world action).waits = instant.waits + (instant.asked world action).length :=
  Program.waits_play world _ instant.waits

/-- What follows an action asks only if the action has a value. -/
theorem asked_bind (next : α → ExceptT ε (Action σ) β) :
    instant.asked world (action >>= next) =
      instant.asked world action ++
        match instant.value world action with
        | some value => (instant.after world action).asked world (next value)
        | none => [] := by
  refine (Program.asked_bind world (action.run instant.state) instant.waits _).trans ?_
  refine congrArg (instant.asked world action ++ ·) ?_
  rw [Instant.value, Instant.after, Action.play]
  cases ((action.run instant.state).play world instant.waits).1 <;> rfl

theorem exchanges_bind (next : α → ExceptT ε (Action σ) β) :
    instant.exchanges world (action >>= next) =
      instant.exchanges world action ++
        match instant.ended world action with
        | .ok value => (instant.after world action).exchanges world (next value)
        | .error _ => [] := by
  refine (Program.exchanges_bind world (action.run instant.state) instant.waits _).trans ?_
  refine congrArg (instant.exchanges world action ++ ·) ?_
  rw [Instant.ended, Instant.after, Action.play]
  cases ((action.run instant.state).play world instant.waits).1 <;> rfl

end Instant

end ManifestLint
