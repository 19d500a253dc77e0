import ManifestLint.Fetching.Program

/-!
# Programs in a world of replies

`Program.run` answers every request at once, and always in the same way.  The
host of a registry is not so steady: a request that fails may succeed the next
time, and while a program waits others may change the state it goes on with.

A **world** decides both, for the first request that is waited for, the second,
and so on.  To play a program in a world is to let it run to its end; the
**instant** at which it ends is the state it leaves and how many requests were
waited for by then.

* `play_bind`: an action followed by another one is played one after the other.
* `play_steady`: in a world without surprises `play` is `run`.
-/

namespace ManifestLint

/-- The reply to each request, and what others do to the state meanwhile. -/
structure World (σ : Type) where
  reply : Nat → Request → Reply
  others : Nat → σ → σ

/-- A state, and how many requests were waited for so far. -/
structure Instant (σ : Type) where
  state : σ
  waits : Nat := 0

/-- The world in which each request has one reply, and nobody else is about. -/
def World.steady {σ : Type} (answer : Request → Reply) : World σ :=
  ⟨fun _ => answer, fun _ => id⟩

variable {σ α β ε : Type}

/-- The value of a program in a world, and the instant at which it ends. -/
def Program.play (world : World σ) (waits : Nat) : Program σ α → α × Instant σ
  | done state value => (value, ⟨state, waits⟩)
  | waiting state request resume =>
    (resume (world.others waits state) (world.reply waits request)).play world (waits + 1)

theorem Program.play_bind (world : World σ) (program : Program σ α)
    (next : α → σ → Program σ β) (waits : Nat) :
    (program.bind next).play world waits =
      (next (program.play world waits).1 (program.play world waits).2.state).play world
        (program.play world waits).2.waits := by
  induction program generalizing waits with
  | done state value => rfl
  | waiting state request resume ih => exact ih _ _ _

/-- In a steady world a program runs as if every request was answered at once. -/
theorem Program.play_steady (answer : Request → Reply) (program : Program σ α) (waits : Nat) :
    (program.play (.steady answer) waits).1 = (program.run answer).2 ∧
      (program.play (.steady answer) waits).2.state = (program.run answer).1 := by
  induction program generalizing waits with
  | done state value => exact ⟨rfl, rfl⟩
  | waiting state request resume ih => exact ih _ _ _

namespace Action

/-- The value of an action that starts at an instant, and the instant at which it
ends. -/
def play (world : World σ) (instant : Instant σ) (action : Action σ α) : α × Instant σ :=
  (action instant.state).play world instant.waits

theorem play_steady (answer : Request → Reply) (action : Action σ α) (instant : Instant σ) :
    (action.play (.steady answer) instant).1 = (action.run answer instant.state).2 :=
  (Program.play_steady answer _ _).1

variable (world : World σ) (instant : Instant σ)

@[simp] theorem play_get :
    (get : Action σ σ).play world instant = (instant.state, instant) := rfl

@[simp] theorem play_modify (change : σ → σ) :
    (modify change : Action σ PUnit).play world instant =
      (⟨⟩, { instant with state := change instant.state }) := rfl

theorem play_bind (action : Action σ α) (next : α → Action σ β) :
    (action >>= next).play world instant =
      (next (action.play world instant).1).play world (action.play world instant).2 :=
  Program.play_bind ..

@[simp] theorem play_map (f : α → β) (action : Action σ α) :
    (f <$> action).play world instant =
      (f (action.play world instant).1, (action.play world instant).2) := by
  rw [← bind_pure_comp, play_bind]
  rfl

end Action

/-! ## Actions that may end in an error

Of such an action it is enough to know the value, if it has one, and the instant
after it: that is where the next action starts. -/

namespace Instant

variable (world : World σ) (instant : Instant σ)

/-- The value of an action, unless it ends in an error. -/
def value (action : ExceptT ε (Action σ) α) : Option α :=
  (action.run.play world instant).1.toOption

/-- What an action ends with: a value or an error. -/
def ended (action : ExceptT ε (Action σ) α) : Except ε α := (action.run.play world instant).1

/-- The instant at which an action ends. -/
def after (action : ExceptT ε (Action σ) α) : Instant σ := (action.run.play world instant).2

theorem value_bind (action : ExceptT ε (Action σ) α) (next : α → ExceptT ε (Action σ) β) :
    instant.value world (action >>= next) =
      (instant.value world action).bind fun value =>
        (instant.after world action).value world (next value) := by
  simp only [value, after, ExceptT.run_bind, Action.play_bind]
  cases (action.run.play world instant).1 <;> rfl

theorem ended_bind (action : ExceptT ε (Action σ) α) (next : α → ExceptT ε (Action σ) β) :
    instant.ended world (action >>= next) =
      match instant.ended world action with
      | .ok value => (instant.after world action).ended world (next value)
      | .error error => .error error := by
  simp only [ended, after, ExceptT.run_bind, Action.play_bind]
  cases (action.run.play world instant).1 <;> rfl

/-- An action that follows another one ends it, unless that one ends in an error. -/
theorem after_bind (action : ExceptT ε (Action σ) α) (next : α → ExceptT ε (Action σ) β) :
    instant.after world (action >>= next) =
      match instant.ended world action with
      | .ok value => (instant.after world action).after world (next value)
      | .error _ => instant.after world action := by
  simp only [ended, after, ExceptT.run_bind, Action.play_bind]
  cases (action.run.play world instant).1 <;> rfl

/-- What comes after an action of which the value is known. -/
theorem value_bind_some {action : ExceptT ε (Action σ) α} {first : α}
    (h : instant.value world action = some first) (next : α → ExceptT ε (Action σ) β) :
    instant.value world (action >>= next) =
      (instant.after world action).value world (next first) := by
  rw [value_bind, h]
  rfl

@[simp] theorem value_pure (first : α) :
    instant.value world (pure first : ExceptT ε (Action σ) α) = some first := rfl

@[simp] theorem value_get :
    instant.value world (get : ExceptT ε (Action σ) σ) = some instant.state := rfl

@[simp] theorem after_get : instant.after world (get : ExceptT ε (Action σ) σ) = instant := rfl

@[simp] theorem value_modify (change : σ → σ) :
    instant.value world (modify change : ExceptT ε (Action σ) PUnit) = some ⟨⟩ := rfl

@[simp] theorem value_lift (action : Action σ α) :
    instant.value world (action : ExceptT ε (Action σ) α) =
      some (action.play world instant).1 :=
  congrArg (fun played : Except ε α × Instant σ => played.1.toOption)
    (Action.play_map world instant Except.ok action)

@[simp] theorem after_lift (action : Action σ α) :
    instant.after world (action : ExceptT ε (Action σ) α) = (action.play world instant).2 :=
  congrArg Prod.snd (Action.play_map world instant Except.ok action)

/-- An error may be put in other words. -/
theorem run_play_rethrow (action : ExceptT ε (Action σ) α) (f : ε → ε) :
    (tryCatch action fun error => throw (f error)).run.play world instant =
      ((action.run.play world instant).1.mapError f, (action.run.play world instant).2) := by
  have hrun : (tryCatch action fun error => throw (f error)).run =
      (·.mapError f) <$> action.run := by
    rw [← bind_pure_comp]
    refine congrArg (action.run >>= ·) (funext fun result => ?_)
    cases result <;> rfl
  rw [hrun, Action.play_map]

@[simp] theorem value_rethrow (action : ExceptT ε (Action σ) α) (f : ε → ε) :
    instant.value world (tryCatch action fun error => throw (f error)) =
      instant.value world action := by
  rw [value, run_play_rethrow, value]
  cases (action.run.play world instant).1 <;> rfl

/-! ## One after the other -/

/-- What actions end with that run one after the other. -/
def inTurn (instant : Instant σ) : List (ExceptT ε (Action σ) α) → List (Except ε α)
  | [] => []
  | action :: rest => instant.ended world action :: (instant.after world action).inTurn rest

/-- The instant at which the last of them ends. -/
def afterAll (instant : Instant σ) : List (ExceptT ε (Action σ) α) → Instant σ
  | [] => instant
  | action :: rest => (instant.after world action).afterAll rest

@[simp] theorem length_inTurn (actions : List (ExceptT ε (Action σ) α)) :
    (instant.inTurn world actions).length = actions.length := by
  induction actions generalizing instant with
  | nil => rfl
  | cons action rest ih => exact congrArg (· + 1) (ih _)

end Instant

end ManifestLint
