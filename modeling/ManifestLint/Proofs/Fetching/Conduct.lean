import ManifestLint.Proofs.Fetching.Keeping

/-!
# What programs do between two waits

An agreement says what the state looks like whenever a program waits.  It does
not say which program has brought the state there, nor with the help of which
reply.  A **conduct** does: it relates the state in which a program goes on, or
begins, with the state in which it waits the next time, or ends, and it may
depend on what the program has *heard last*, a request and the reply to it.

A program obeys a conduct whatever others do to the state meanwhile and whatever
the replies are; so what is known of it holds in every run.

* `Program.Obeys.bind`: programs that obey a conduct may follow each other.
* `Program.Obeys.keeps`: an agreement that the conduct respects is kept.
* `Fallible.Obeys`: the same for actions that may end in an error.
-/

namespace ManifestLint

/-- What a program has heard last; nothing if it has only begun. -/
abbrev Hearing : Type := Option (Request × Reply)

/-- What programs may do to the state between two waits. -/
structure Conduct (σ : Type) where
  allows : Hearing → σ → σ → Prop
  refl : ∀ heard state, allows heard state state
  trans : ∀ heard {first second third}, allows heard first second →
    allows heard second third → allows heard first third

variable {σ α β ε : Type} {conduct : Conduct σ} {given : Hearing → Prop}
  {first result : Hearing → α → Prop} {last : Hearing → β → Prop}

namespace Program

/-- From a state in which something was heard, the program does nothing but what
is allowed, here and after every wait; and it ends with a value that fits what it
has heard last. -/
def Obeys (conduct : Conduct σ) (result : Hearing → α → Prop) (heard : Hearing) (start : σ) :
    Program σ α → Prop
  | done state value => conduct.allows heard start state ∧ result heard value
  | waiting state request resume =>
    conduct.allows heard start state ∧ ∀ later reply,
      (resume later reply).Obeys conduct result (some (request, reply)) later

variable {program : Program σ α} {heard : Hearing} {start : σ}

theorem Obeys.mono (h : program.Obeys conduct first heard start)
    (hresult : ∀ heard value, first heard value → result heard value) :
    program.Obeys conduct result heard start := by
  induction program generalizing heard start with
  | done state value => exact ⟨h.1, hresult heard value h.2⟩
  | waiting state request resume ih => exact ⟨h.1, fun later reply => ih later reply (h.2 ..)⟩

/-- What is allowed first may be followed by what the program does. -/
theorem Obeys.after {before : σ} (h : program.Obeys conduct result heard start)
    (hbefore : conduct.allows heard before start) :
    program.Obeys conduct result heard before := by
  cases program with
  | done state value => exact ⟨conduct.trans heard hbefore h.1, h.2⟩
  | waiting state request resume => exact ⟨conduct.trans heard hbefore h.1, h.2⟩

theorem Obeys.bind {next : α → σ → Program σ β} (h : program.Obeys conduct first heard start)
    (hnext : ∀ heard value state, first heard value →
      (next value state).Obeys conduct last heard state) :
    (program.bind next).Obeys conduct last heard start := by
  induction program generalizing heard start with
  | done state value => exact (hnext heard value state h.2).after h.1
  | waiting state request resume ih => exact ⟨h.1, fun later reply => ih later reply (h.2 ..)⟩

/-- Whoever obeys a conduct that leaves the state as agreed keeps the agreement. -/
theorem Obeys.keeps {agreement : Agreement σ}
    (h : program.Obeys conduct (fun _ _ => True) heard start) (hstart : agreement.state start)
    (hallows : ∀ heard before after, conduct.allows heard before after →
      agreement.state before → agreement.state after) :
    program.Keeps agreement fun _ => True := by
  induction program generalizing heard start with
  | done state value => exact ⟨hallows _ _ _ h.1 hstart, trivial⟩
  | waiting state request resume ih =>
      refine ⟨hallows _ _ _ h.1 hstart, fun later reply hlater _ => ?_⟩
      exact ih later reply (h.2 later reply) hlater

end Program

namespace Action

/-- An action obeys a conduct if it does so from every state, given something of
what was heard before. -/
def Obeys (conduct : Conduct σ) (given : Hearing → Prop) (result : Hearing → α → Prop)
    (action : Action σ α) : Prop :=
  ∀ heard state, given heard → (action state).Obeys conduct result heard state

variable {action : Action σ α}

theorem Obeys.mono (h : action.Obeys conduct given first)
    (hresult : ∀ heard value, first heard value → result heard value) :
    action.Obeys conduct given result :=
  fun heard state hgiven => (h heard state hgiven).mono hresult

theorem obeys_pure {value : α} (hvalue : ∀ heard, given heard → result heard value) :
    (pure value : Action σ α).Obeys conduct given result :=
  fun heard state hgiven => ⟨conduct.refl heard state, hvalue heard hgiven⟩

theorem obeys_modify {change : σ → σ}
    (hchange : ∀ heard state, given heard → conduct.allows heard state (change state)) :
    (modify change : Action σ PUnit).Obeys conduct given fun heard _ => given heard :=
  fun heard state hgiven => ⟨hchange heard state hgiven, hgiven⟩

theorem obeys_get : (get : Action σ σ).Obeys conduct given fun heard _ => given heard :=
  fun heard state hgiven => ⟨conduct.refl heard state, hgiven⟩

/-- Whoever waits for a reply has heard it afterwards. -/
theorem obeys_ask (request : Request) :
    (ask request : Action σ Reply).Obeys conduct given
      fun heard reply => heard = some (request, reply) :=
  fun heard state _ => ⟨conduct.refl heard state, fun later _ => ⟨conduct.refl _ later, rfl⟩⟩

theorem Obeys.bind {next : α → Action σ β} (h : action.Obeys conduct given first)
    (hnext : ∀ value, (next value).Obeys conduct (first · value) last) :
    (action >>= next).Obeys conduct given last :=
  fun heard state hgiven =>
    (h heard state hgiven).bind fun heard value later hvalue => hnext value heard later hvalue

theorem Obeys.map {f : α → β} (h : action.Obeys conduct given first)
    (hf : ∀ heard value, first heard value → last heard (f value)) :
    (f <$> action).Obeys conduct given last := by
  rw [← bind_pure_comp]
  exact h.bind fun value => obeys_pure fun heard hvalue => hf heard value hvalue

end Action

/-! ## Actions that may end in an error -/

namespace Fallible

/-- The action obeys a conduct, and its value, if it has one, fits what was heard
last. -/
def Obeys (conduct : Conduct σ) (given : Hearing → Prop) (result : Hearing → α → Prop)
    (action : ExceptT ε (Action σ) α) : Prop :=
  action.run.Obeys conduct given fun heard => EndsIn (result heard) fun _ => True

variable {action : ExceptT ε (Action σ) α}

theorem Obeys.mono (h : Obeys conduct given first action)
    (hresult : ∀ heard value, first heard value → result heard value) :
    Obeys conduct given result action :=
  Action.Obeys.mono h fun heard ended hended => by
    cases ended with
    | ok value => exact hresult heard value hended
    | error error => trivial

theorem obeys_pure {value : α} (hvalue : ∀ heard, given heard → result heard value) :
    Obeys conduct given result (pure value : ExceptT ε (Action σ) α) :=
  Action.obeys_pure hvalue

theorem obeys_throw {error : ε} :
    Obeys conduct given result (throw error : ExceptT ε (Action σ) α) :=
  Action.obeys_pure fun _ _ => trivial

theorem Obeys.bind {next : α → ExceptT ε (Action σ) β} (h : Obeys conduct given first action)
    (hnext : ∀ value, Obeys conduct (first · value) last (next value)) :
    Obeys conduct given last (action >>= next) := by
  refine Action.Obeys.bind h fun ended => ?_
  cases ended with
  | ok value => exact hnext value
  | error error => exact Action.obeys_pure fun _ _ => trivial

theorem obeys_lift {action : Action σ α} (h : action.Obeys conduct given result) :
    Obeys conduct given result (action : ExceptT ε (Action σ) α) :=
  Action.Obeys.map h fun _ _ hvalue => hvalue

theorem obeys_get :
    Obeys conduct given (fun heard _ => given heard) (get : ExceptT ε (Action σ) σ) :=
  fun heard state hgiven => ⟨conduct.refl heard state, hgiven⟩

theorem obeys_modifyGet {f : σ → α × σ}
    (hf : ∀ heard state, given heard → conduct.allows heard state (f state).2) :
    Obeys conduct given (fun heard _ => given heard)
      (modifyGet f : ExceptT ε (Action σ) α) :=
  fun heard state hgiven => ⟨hf heard state hgiven, hgiven⟩

theorem obeys_modify {change : σ → σ}
    (hchange : ∀ heard state, given heard → conduct.allows heard state (change state)) :
    Obeys conduct given (fun heard _ => given heard)
      (modify change : ExceptT ε (Action σ) PUnit) :=
  fun heard state hgiven => ⟨hchange heard state hgiven, hgiven⟩

/-- An error may be put in other words. -/
theorem Obeys.rethrow (h : Obeys conduct given result action) (f : ε → ε) :
    Obeys conduct given result (tryCatch action fun error => throw (f error)) := by
  refine Action.Obeys.bind h fun ended => ?_
  cases ended with
  | ok value => exact Action.obeys_pure fun _ hvalue => hvalue
  | error error => exact Action.obeys_pure fun _ _ => trivial

end Fallible

end ManifestLint
