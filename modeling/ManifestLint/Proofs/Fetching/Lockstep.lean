import ManifestLint.Proofs.Fetching.Asking

/-!
# Programs in lockstep

What does a program not look at?  Take two states that differ only there, and let the
program go on from both.  If it runs **in step**, with the same requests, and with the
same value in the end, then it makes no difference what it finds there; and as the
states that it leaves differ only there again, it makes none later on.

Two programs are in step with respect to a relation between states.  At each wait they
hand over states that are related, wait for the same request, and go on in step from
related states with the same reply.

* `Program.InStep.bind`: programs in step may follow each other.
* `Program.InStep.play`: in worlds that are in step they send the same requests.
* `Fallible.InStep`: the same for actions that may end in an error.
-/

namespace ManifestLint

variable {σ α β ε : Type} {related : σ → σ → Prop} {first same : α → α → Prop}
  {last : β → β → Prop}

/-- Two worlds with the same replies to some requests, in which others leave related states
related. -/
structure World.InStep (related : σ → σ → Prop) (requests : List Request) (world twin : World σ) :
    Prop where
  reply : ∀ waits, ∀ request ∈ requests, twin.reply waits request = world.reply waits request
  others : ∀ waits state other, related state other →
    related (world.others waits state) (twin.others waits other)

theorem World.inStep_steady {requests : List Request} {answer other : Request → Reply}
    (h : ∀ request ∈ requests, other request = answer request) :
    World.InStep related requests (.steady answer) (.steady other) where
  reply _ := h
  others _ _ _ hrelated := hrelated

namespace Program

/-- Both programs wait for the same requests, in related states, as long as they are
given the same replies and related states. -/
def InStep (related : σ → σ → Prop) (same : α → α → Prop) : Program σ α → Program σ α → Prop
  | done state value, done other result => related state other ∧ same value result
  | waiting state request resume, waiting other awaited twin =>
    related state other ∧ awaited = request ∧ ∀ later otherLater reply,
      related later otherLater → (resume later reply).InStep related same (twin otherLater reply)
  | done .., waiting .. => False
  | waiting .., done .. => False

variable {program twin : Program σ α}

theorem InStep.mono (h : program.InStep related first twin)
    (hsame : ∀ value other, first value other → same value other) :
    program.InStep related same twin := by
  induction program generalizing twin with
  | done state value =>
      cases twin with
      | done other result => exact ⟨h.1, hsame value result h.2⟩
      | waiting => exact h
  | waiting state request resume ih =>
      cases twin with
      | done => exact h
      | waiting other awaited otherResume =>
          refine ⟨h.1, h.2.1, fun later otherLater reply hlater => ?_⟩
          exact ih later reply (h.2.2 later otherLater reply hlater)

theorem InStep.bind {next otherNext : α → σ → Program σ β}
    (h : program.InStep related first twin)
    (hnext : ∀ value other state otherState, first value other → related state otherState →
      (next value state).InStep related last (otherNext other otherState)) :
    (program.bind next).InStep related last (twin.bind otherNext) := by
  induction program generalizing twin with
  | done state value =>
      cases twin with
      | done other result => exact hnext value result state other h.2 h.1
      | waiting => exact h.elim
  | waiting state request resume ih =>
      cases twin with
      | done => exact h.elim
      | waiting other awaited otherResume =>
          refine ⟨h.1, h.2.1, fun later otherLater reply hlater => ?_⟩
          exact ih later reply (h.2.2 later otherLater reply hlater)

/-- In worlds that are in step for the requests of one of them, such programs send the
same requests and end with the same value. -/
theorem InStep.play {requests : List Request} {world other : World σ}
    (h : program.InStep related same twin) (hworlds : world.InStep related requests other)
    (waits : Nat) (hrequests : program.asked world waits ⊆ requests) :
    twin.asked other waits = program.asked world waits ∧
      same (program.play world waits).1 (twin.play other waits).1 := by
  induction program generalizing twin waits with
  | done state value =>
      cases twin with
      | done => exact ⟨rfl, h.2⟩
      | waiting => exact h.elim
  | waiting state request resume ih =>
      cases twin with
      | done => exact h.elim
      | waiting otherState awaited otherResume =>
          obtain ⟨hstates, rfl, hresume⟩ := h
          obtain ⟨hfirst, hrest⟩ := List.cons_subset.mp hrequests
          have hlater := hworlds.others waits state otherState hstates
          obtain ⟨hasked, hvalue⟩ :=
            ih _ _ (hresume _ _ (world.reply waits awaited) hlater) (waits + 1) hrest
          rw [asked, asked, Program.play, Program.play, hworlds.reply waits awaited hfirst]
          exact ⟨congrArg (awaited :: ·) hasked, hvalue⟩

end Program

namespace Action

/-- Two actions are in step if they are so from related states. -/
def InStep (related : σ → σ → Prop) (same : α → α → Prop) (action twin : Action σ α) : Prop :=
  ∀ state other, related state other → (action state).InStep related same (twin other)

variable {action twin : Action σ α}

theorem InStep.mono (h : action.InStep related first twin)
    (hsame : ∀ value other, first value other → same value other) :
    action.InStep related same twin :=
  fun state other hrelated => (h state other hrelated).mono hsame

theorem inStep_pure {value other : α} (h : same value other) :
    (pure value : Action σ α).InStep related same (pure other) :=
  fun _ _ hrelated => ⟨hrelated, h⟩

theorem inStep_get : (get : Action σ σ).InStep related related get :=
  fun _ _ hrelated => ⟨hrelated, hrelated⟩

theorem inStep_modify {change twin : σ → σ}
    (h : ∀ state other, related state other → related (change state) (twin other)) :
    (modify change : Action σ PUnit).InStep related (· = ·) (modify twin) :=
  fun state other hrelated => ⟨h state other hrelated, rfl⟩

theorem inStep_ask (request : Request) :
    (ask request : Action σ Reply).InStep related (· = ·) (ask request) :=
  fun _ _ hrelated => ⟨hrelated, rfl, fun _ _ _ hlater => ⟨hlater, rfl⟩⟩

theorem InStep.bind {next otherNext : α → Action σ β} (h : action.InStep related first twin)
    (hnext : ∀ value other, first value other →
      (next value).InStep related last (otherNext other)) :
    (action >>= next).InStep related last (twin >>= otherNext) :=
  fun state other hrelated => (h state other hrelated).bind
    fun value result later otherLater hvalue hlater =>
      hnext value result hvalue later otherLater hlater

end Action

/-! ## Actions that may end in an error -/

/-- Both end with the same value, or with the same error. -/
def SameEnd (same : α → α → Prop) : Except ε α → Except ε α → Prop
  | .ok value, .ok other => same value other
  | .error error, .error other => error = other
  | _, _ => False

theorem sameEnd_eq_iff {ended other : Except ε α} : SameEnd (· = ·) ended other ↔ ended = other := by
  cases ended <;> cases other <;> simp [SameEnd]

namespace Fallible

/-- The actions are in step, and end in the same way. -/
def InStep (related : σ → σ → Prop) (same : α → α → Prop)
    (action twin : ExceptT ε (Action σ) α) : Prop :=
  Action.InStep related (SameEnd same) action.run twin.run

variable {action twin : ExceptT ε (Action σ) α}

theorem InStep.mono (h : InStep related first action twin)
    (hsame : ∀ value other, first value other → same value other) :
    InStep related same action twin :=
  Action.InStep.mono h fun ended other hended => by
    cases ended <;> cases other <;> first | exact hsame _ _ hended | exact hended

theorem inStep_pure {value other : α} (h : same value other) :
    InStep related same (pure value : ExceptT ε (Action σ) α) (pure other) :=
  Action.inStep_pure h

theorem inStep_throw (error : ε) :
    InStep related same (throw error : ExceptT ε (Action σ) α) (throw error) :=
  Action.inStep_pure rfl

theorem inStep_get : InStep related related (get : ExceptT ε (Action σ) σ) get :=
  fun _ _ hrelated => ⟨hrelated, hrelated⟩

theorem inStep_modifyGet {f : σ → α × σ}
    (hf : ∀ state other, related state other →
      same (f state).1 (f other).1 ∧ related (f state).2 (f other).2) :
    InStep related same (modifyGet f : ExceptT ε (Action σ) α) (modifyGet f) :=
  fun state other hrelated => ⟨(hf state other hrelated).2, (hf state other hrelated).1⟩

theorem inStep_modify {change twin : σ → σ}
    (h : ∀ state other, related state other → related (change state) (twin other)) :
    InStep related (· = ·) (modify change : ExceptT ε (Action σ) PUnit) (modify twin) :=
  fun state other hrelated => ⟨h state other hrelated, rfl⟩

theorem InStep.bind {next otherNext : α → ExceptT ε (Action σ) β}
    (h : InStep related first action twin)
    (hnext : ∀ value other, first value other →
      InStep related last (next value) (otherNext other)) :
    InStep related last (action >>= next) (twin >>= otherNext) := by
  refine Action.InStep.bind h fun ended other hended => ?_
  cases ended with
  | ok value =>
      cases other with
      | ok result => exact hnext value result hended
      | error error => exact hended.elim
  | error error =>
      cases other with
      | ok result => exact hended.elim
      | error otherError => exact Action.inStep_pure hended

/-- What follows a value that is the same has to be in step for that value alone. -/
theorem InStep.bind_eq {next otherNext : α → ExceptT ε (Action σ) β}
    (h : InStep related (· = ·) action twin)
    (hnext : ∀ value, InStep related last (next value) (otherNext value)) :
    InStep related last (action >>= next) (twin >>= otherNext) :=
  h.bind fun value _ hsame => hsame ▸ hnext value

theorem inStep_lift {action twin : Action σ α} (h : action.InStep related same twin) :
    InStep related same (action : ExceptT ε (Action σ) α) twin := by
  have hbind : Action.InStep related (SameEnd same)
      (action >>= fun value => (pure (.ok value) : Action σ (Except ε α)))
      (twin >>= fun value => pure (.ok value)) :=
    h.bind fun _ _ hsame => Action.inStep_pure hsame
  rw [bind_pure_comp, bind_pure_comp] at hbind
  exact hbind

/-- An error may be put in other words. -/
theorem InStep.rethrow (h : InStep related same action twin) (f : ε → ε) :
    InStep related same (tryCatch action fun error => throw (f error))
      (tryCatch twin fun error => throw (f error)) := by
  refine Action.InStep.bind h fun ended other hended => ?_
  cases ended with
  | ok value =>
      cases other with
      | ok result => exact Action.inStep_pure hended
      | error error => exact hended.elim
  | error error =>
      cases other with
      | ok result => exact hended.elim
      | error otherError => exact Action.inStep_pure (congrArg f hended)

/-- Actions in step send the same requests and end in the same way, if only these requests
have the same replies. -/
theorem InStep.ended {world other : World σ} {instant twinInstant : Instant σ}
    (h : InStep related (· = ·) action twin)
    (hworlds : world.InStep related (instant.asked world action) other)
    (hstates : related instant.state twinInstant.state)
    (hwaits : twinInstant.waits = instant.waits) :
    twinInstant.asked other twin = instant.asked world action ∧
      twinInstant.ended other twin = instant.ended world action := by
  obtain ⟨hasked, hended⟩ := (h instant.state twinInstant.state hstates).play hworlds
    instant.waits (List.Subset.refl _)
  rw [Instant.asked, Instant.ended, Action.play, hwaits]
  exact ⟨hasked, (sameEnd_eq_iff.mp hended).symm⟩

end Fallible

end ManifestLint
