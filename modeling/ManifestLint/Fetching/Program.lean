import ManifestLint.Fetching.Request

/-!
# Programs that wait for replies

Several lookups may be under way at a time, over one state.  A `Program` is one of them seen from
outside: it is done, or it waits for the reply to a request.  Between two waits nothing else runs,
so a program holds the state only at those points: it gives the state up when it starts to wait, and
takes it as it finds it when it goes on.

An `Action` is a program that still needs the state to start in.  Actions are a monad, and `ask` is
the one that waits.

* `Program.run` runs a program to its end if every request is answered at once.
* The monad laws hold: `bind_done`, `bind_bind`, and the instance of `LawfulMonad`.
-/

namespace ManifestLint

/-- A computation that waits for replies, over states of type `σ`. -/
inductive Program (σ α : Type) where
  | done (state : σ) (value : α)
  | waiting (state : σ) (request : Request) (resume : σ → Reply → Program σ α)

namespace Program

variable {σ α β γ : Type}

/-- A program followed by another one that depends on its value. -/
def bind (program : Program σ α) (next : α → σ → Program σ β) : Program σ β :=
  match program with
  | done state value => next value state
  | waiting state request resume =>
    waiting state request fun state reply => (resume state reply).bind next

/-- The state and the value at the end of a program whose requests are answered at once. -/
def run (answer : Request → Reply) : Program σ α → σ × α
  | done state value => (state, value)
  | waiting state request resume => (resume state (answer request)).run answer

@[simp] theorem bind_done (program : Program σ α) :
    program.bind (fun value state => done state value) = program := by
  induction program with
  | done state value => rfl
  | waiting state request resume ih => simp [bind, ih]

theorem bind_bind (program : Program σ α) (f : α → σ → Program σ β) (g : β → σ → Program σ γ) :
    (program.bind f).bind g = program.bind fun value state => (f value state).bind g := by
  induction program with
  | done state value => rfl
  | waiting state request resume ih => simp [bind, ih]

theorem run_bind (answer : Request → Reply) (program : Program σ α) (f : α → σ → Program σ β) :
    (program.bind f).run answer
      = (f (program.run answer).2 (program.run answer).1).run answer := by
  induction program with
  | done state value => rfl
  | waiting state request resume ih => simp [bind, run, ih]

end Program

/-- A program without the state to start in. -/
def Action (σ α : Type) : Type := σ → Program σ α

namespace Action

variable {σ α : Type}

instance : Monad (Action σ) where
  pure value := fun state => .done state value
  bind action next := fun state => (action state).bind next

instance : LawfulMonad (Action σ) :=
  LawfulMonad.mk' _
    (fun action => funext fun state => Program.bind_done (action state))
    (fun _ _ => rfl)
    (fun action f g => funext fun state => Program.bind_bind (action state) f g)

instance : MonadStateOf σ (Action σ) where
  get := fun state => .done state state
  set state := fun _ => .done state ⟨⟩
  modifyGet f := fun state => .done (f state).2 (f state).1

/-- Waits for the reply to a request. -/
def ask (request : Request) : Action σ Reply :=
  fun state => .waiting state request fun state reply => .done state reply

/-- The state and the value at the end of an action whose requests are answered at once. -/
def run (action : Action σ α) (answer : Request → Reply) (state : σ) : σ × α :=
  (action state).run answer

end Action

end ManifestLint
