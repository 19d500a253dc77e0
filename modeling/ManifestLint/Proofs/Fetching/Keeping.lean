import ManifestLint.Proofs.Collections.Ending
import ManifestLint.Proofs.Fetching.Playing

/-!
# What programs keep

Several programs work on one state.  Each runs undisturbed from one wait to the
next, and finds what the others have left when it goes on.  They can rely on each
other if they have an **agreement**: a property of the state that each of them
leaves to the others, and the replies on which it may count in doing so.

A program *keeps* an agreement if it leaves the state as agreed whenever it waits
and when it is done, provided that it is given the state as agreed.

An action may find other things in the state than it would alone.  Its end is **settled** by an
agreement if it is the same all the same: given the state as agreed, the action ends as a
computation does that knows no state at all.  Some errors may be left out of this: they come or do
not come with the order.

* `Keeps.bind`: actions that keep an agreement may follow each other.
* `Keeps.play`: in a world that keeps an agreement, a program that keeps it ends
  with the state as agreed.
* `Keeps.and`: a program may keep two agreements at once.
* `Settles.bind`: actions whose ends are settled may follow each other.
* `Settles.eq_of_ended`: what such an action ends with, if it ends with a value.
-/

namespace ManifestLint

/-- What programs leave to each other, and the replies that they count on. -/
structure Agreement (σ : Type) where
  state : σ → Prop
  reply : Request → Reply → Prop

/-- A world that gives no other replies, and leaves the state as agreed. -/
structure World.Keeps {σ : Type} (world : World σ) (agreement : Agreement σ) : Prop where
  reply : ∀ waits request, agreement.reply request (world.reply waits request)
  others : ∀ waits state, agreement.state state → agreement.state (world.others waits state)

/-- Two agreements at once. -/
def Agreement.and {σ : Type} (agreement other : Agreement σ) : Agreement σ where
  state state := agreement.state state ∧ other.state state
  reply request reply := agreement.reply request reply ∧ other.reply request reply

theorem World.Keeps.and {σ : Type} {world : World σ} {agreement other : Agreement σ}
    (h : world.Keeps agreement) (hother : world.Keeps other) :
    world.Keeps (agreement.and other) where
  reply waits request := ⟨h.reply waits request, hother.reply waits request⟩
  others waits state hstate := ⟨h.others waits state hstate.1, hother.others waits state hstate.2⟩

variable {σ α β ε : Type} {agreement other : Agreement σ} {world : World σ}
  {first result : α → Prop} {last : β → Prop}

namespace Program

/-- The state is as agreed at every wait and in the end, and the value is of some
kind. -/
def Keeps (agreement : Agreement σ) (result : α → Prop) : Program σ α → Prop
  | done state value => agreement.state state ∧ result value
  | waiting state request resume =>
    agreement.state state ∧ ∀ later reply, agreement.state later →
      agreement.reply request reply → (resume later reply).Keeps agreement result

variable {program : Program σ α}

theorem Keeps.mono (h : program.Keeps agreement first)
    (hresult : ∀ value, first value → result value) : program.Keeps agreement result := by
  induction program with
  | done state value => exact ⟨h.1, hresult value h.2⟩
  | waiting state request resume ih =>
      refine ⟨h.1, fun later reply hlater hreply => ?_⟩
      exact ih later reply (h.2 later reply hlater hreply)

theorem Keeps.bind {next : α → σ → Program σ β} (h : program.Keeps agreement first)
    (hnext : ∀ value state, first value → agreement.state state →
      (next value state).Keeps agreement last) :
    (program.bind next).Keeps agreement last := by
  induction program with
  | done state value => exact hnext value state h.2 h.1
  | waiting state request resume ih =>
      refine ⟨h.1, fun later reply hlater hreply => ?_⟩
      exact ih later reply (h.2 later reply hlater hreply)

theorem Keeps.play (h : program.Keeps agreement result) (hworld : world.Keeps agreement)
    (waits : Nat) :
    agreement.state (program.play world waits).2.state ∧
      result (program.play world waits).1 := by
  induction program generalizing waits with
  | done state value => exact h
  | waiting state request resume ih =>
      have hresume := h.2 _ _ (hworld.others waits state h.1) (hworld.reply waits request)
      exact ih _ _ hresume (waits + 1)

/-- Whoever keeps two agreements keeps both at once. -/
theorem Keeps.and (h : program.Keeps agreement first) (hother : program.Keeps other result) :
    program.Keeps (agreement.and other) fun value => first value ∧ result value := by
  induction program with
  | done state value => exact ⟨⟨h.1, hother.1⟩, h.2, hother.2⟩
  | waiting state request resume ih =>
      refine ⟨⟨h.1, hother.1⟩, fun later reply hlater hreply => ?_⟩
      exact ih later reply (h.2 later reply hlater.1 hreply.1)
        (hother.2 later reply hlater.2 hreply.2)

end Program

namespace Action

/-- An action keeps an agreement if it does so from every state as agreed. -/
def Keeps (agreement : Agreement σ) (result : α → Prop) (action : Action σ α) : Prop :=
  ∀ state, agreement.state state → (action state).Keeps agreement result

variable {action : Action σ α}

theorem Keeps.mono (h : action.Keeps agreement first)
    (hresult : ∀ value, first value → result value) : action.Keeps agreement result :=
  fun state hstate => (h state hstate).mono hresult

theorem keeps_pure {value : α} (hvalue : result value) :
    (pure value : Action σ α).Keeps agreement result :=
  fun _ hstate => ⟨hstate, hvalue⟩

theorem keeps_get : (get : Action σ σ).Keeps agreement agreement.state :=
  fun _ hstate => ⟨hstate, hstate⟩

theorem keeps_modify {change : σ → σ}
    (hchange : ∀ state, agreement.state state → agreement.state (change state)) :
    (modify change : Action σ PUnit).Keeps agreement fun _ => True :=
  fun state hstate => ⟨hchange state hstate, trivial⟩

/-- Whoever waits for a reply gets one that was agreed on. -/
theorem keeps_ask (request : Request) :
    (ask request : Action σ Reply).Keeps agreement (agreement.reply request) :=
  fun _ hstate => ⟨hstate, fun _ _ hlater hreply => ⟨hlater, hreply⟩⟩

theorem Keeps.bind {next : α → Action σ β} (h : action.Keeps agreement first)
    (hnext : ∀ value, first value → (next value).Keeps agreement last) :
    (action >>= next).Keeps agreement last :=
  fun state hstate => (h state hstate).bind fun value later hvalue => hnext value hvalue later

theorem Keeps.map {f : α → β} (h : action.Keeps agreement first)
    (hf : ∀ value, first value → last (f value)) : (f <$> action).Keeps agreement last := by
  rw [← bind_pure_comp]
  exact h.bind fun value hvalue => keeps_pure (hf value hvalue)

end Action

/-! ## Actions that may end in an error -/

namespace Instant

/-- The action keeps an agreement, and ends with a value or an error of some kind. -/
def Keeps (agreement : Agreement σ) (result : α → Prop) (failure : ε → Prop)
    (action : ExceptT ε (Action σ) α) : Prop :=
  action.run.Keeps agreement (EndsIn result failure)

variable {failure : ε → Prop} {action : ExceptT ε (Action σ) α}

theorem Keeps.mono (h : Keeps agreement first failure action)
    (hresult : ∀ value, first value → result value) : Keeps agreement result failure action :=
  Action.Keeps.mono h fun ended hended => by
    cases ended with
    | ok value => exact hresult value hended
    | error error => exact hended

/-- Less may be said about the error. -/
theorem Keeps.weaken {weaker : ε → Prop} (h : Keeps agreement result failure action)
    (hfailure : ∀ error, failure error → weaker error) : Keeps agreement result weaker action :=
  Action.Keeps.mono h fun ended hended => by
    cases ended with
    | ok value => exact hended
    | error error => exact hfailure error hended

/-- Whoever keeps two agreements keeps both at once, and ends as is known of the first. -/
theorem Keeps.and {lastFailure : ε → Prop} (h : Keeps agreement result failure action)
    (hother : Keeps other first lastFailure action) :
    Keeps (agreement.and other) result failure action := fun state hstate =>
  ((h state hstate.1).and (hother state hstate.2)).mono fun _ hended => hended.1

theorem keeps_pure {value : α} (hvalue : result value) :
    Keeps agreement result failure (pure value : ExceptT ε (Action σ) α) :=
  Action.keeps_pure hvalue

theorem keeps_throw {error : ε} (herror : failure error) :
    Keeps agreement result failure (throw error : ExceptT ε (Action σ) α) :=
  Action.keeps_pure herror

theorem Keeps.bind {next : α → ExceptT ε (Action σ) β}
    (h : Keeps agreement first failure action)
    (hnext : ∀ value, first value → Keeps agreement last failure (next value)) :
    Keeps agreement last failure (action >>= next) := by
  refine Action.Keeps.bind h fun ended hended => ?_
  cases ended with
  | ok value => exact hnext value hended
  | error error => exact Action.keeps_pure hended

theorem keeps_lift {action : Action σ α} (h : action.Keeps agreement result) :
    Keeps agreement result failure (action : ExceptT ε (Action σ) α) :=
  Action.Keeps.map h fun _ hvalue => hvalue

theorem keeps_get :
    Keeps agreement agreement.state failure (get : ExceptT ε (Action σ) σ) :=
  fun _ hstate => ⟨hstate, hstate⟩

theorem keeps_set {state : σ} (hstate : agreement.state state) :
    Keeps agreement (fun _ => True) failure (set state : ExceptT ε (Action σ) PUnit) :=
  fun _ _ => ⟨hstate, trivial⟩

theorem keeps_modifyGet {f : σ → α × σ}
    (hf : ∀ state, agreement.state state → agreement.state (f state).2 ∧ result (f state).1) :
    Keeps agreement result failure (modifyGet f : ExceptT ε (Action σ) α) :=
  fun state hstate => hf state hstate

theorem keeps_modify {change : σ → σ}
    (hchange : ∀ state, agreement.state state → agreement.state (change state)) :
    Keeps agreement (fun _ => True) failure (modify change : ExceptT ε (Action σ) PUnit) :=
  fun state hstate => ⟨hchange state hstate, trivial⟩

/-- What may be done for each element may be done for all of them. -/
theorem keeps_forM {order : β → ExceptT ε (Action σ) PUnit} {elements : List β}
    (horder : ∀ element ∈ elements, Keeps agreement (fun _ => True) failure (order element)) :
    Keeps agreement (fun _ => True) failure (elements.forM order) := by
  induction elements with
  | nil => exact keeps_pure trivial
  | cons element rest ih =>
      obtain ⟨hfirst, hrest⟩ := List.forall_mem_cons.mp horder
      exact hfirst.bind fun _ _ => ih hrest

/-- An error may be put in other words. -/
theorem Keeps.rethrow (h : Keeps agreement result (fun _ => True) action) (f : ε → ε) :
    Keeps agreement result (fun _ => True) (tryCatch action fun error => throw (f error)) := by
  refine Action.Keeps.bind h fun ended hended => ?_
  cases ended with
  | ok value => exact Action.keeps_pure hended
  | error error => exact Action.keeps_pure trivial

variable {instant : Instant σ}

/-- An action that keeps an agreement leaves the state as agreed. -/
theorem Keeps.after (h : Keeps agreement result failure action) (hworld : world.Keeps agreement)
    (hstate : agreement.state instant.state) :
    agreement.state (instant.after world action).state :=
  ((h instant.state hstate).play hworld instant.waits).1

theorem Keeps.ended (h : Keeps agreement result failure action) (hworld : world.Keeps agreement)
    (hstate : agreement.state instant.state) :
    EndsIn result failure (action.run.play world instant).1 :=
  ((h instant.state hstate).play hworld instant.waits).2

/-- The value of an action, if it has one, is of the kind that was said. -/
theorem Keeps.of_value (h : Keeps agreement result failure action)
    (hworld : world.Keeps agreement) (hstate : agreement.state instant.state) {value : α}
    (hvalue : instant.value world action = some value) : result value := by
  have hended := h.ended hworld hstate
  rw [Instant.value] at hvalue
  cases hplayed : (action.run.play world instant).1 with
  | ok other =>
      rw [hplayed] at hended hvalue
      exact Option.some.inj hvalue ▸ hended
  | error error =>
      rw [hplayed] at hvalue
      cases hvalue

/-- An action that never ends in an error has a value. -/
theorem Keeps.value (h : Keeps agreement result (fun _ : ε => False) action)
    (hworld : world.Keeps agreement) (hstate : agreement.state instant.state) :
    ∃ value, instant.value world action = some value ∧ result value := by
  have hended := h.ended hworld hstate
  rw [Instant.value]
  cases hplayed : (action.run.play world instant).1 with
  | ok value =>
      rw [hplayed] at hended
      exact ⟨value, rfl, hended⟩
  | error error =>
      rw [hplayed] at hended
      exact False.elim hended

/-! ### One after the other -/

/-- Of actions that run one after the other, each finds the state as agreed. -/
theorem getElem?_inTurn {actions : List (ExceptT ε (Action σ) α)}
    (hkeeps : ∀ action ∈ actions, Keeps agreement (fun _ => True) (fun _ => True) action)
    (hworld : world.Keeps agreement) (hstate : agreement.state instant.state) {place : Nat}
    {ended : Except ε α} (hended : (instant.inTurn world actions)[place]? = some ended) :
    ∃ (action : ExceptT ε (Action σ) α) (later : Instant σ), actions[place]? = some action ∧
      agreement.state later.state ∧ later.ended world action = ended := by
  induction actions generalizing instant place with
  | nil => cases hended
  | cons action rest ih =>
      have haction := hkeeps action (List.mem_cons_self ..)
      cases place with
      | zero => exact ⟨action, instant, rfl, hstate, Option.some.inj hended⟩
      | succ place =>
          exact ih (fun other hother => hkeeps other (List.mem_cons_of_mem _ hother))
            (haction.after hworld hstate) hended

/-- What such actions end with is as each of them is known to end. -/
theorem endsIn_of_mem_inTurn {actions : List (ExceptT ε (Action σ) α)}
    (hkeeps : ∀ action ∈ actions, Keeps agreement result failure action)
    (hworld : world.Keeps agreement) (hstate : agreement.state instant.state)
    {ended : Except ε α} (hmem : ended ∈ instant.inTurn world actions) :
    EndsIn result failure ended := by
  obtain ⟨place, hplace⟩ := List.getElem?_of_mem hmem
  have htrivially : ∀ action ∈ actions, Keeps agreement (fun _ => True) (fun _ => True) action :=
    fun action haction =>
      ((hkeeps action haction).mono fun _ _ => trivial).weaken fun _ _ => trivial
  obtain ⟨action, later, haction, hlater, rfl⟩ :=
    getElem?_inTurn htrivially hworld hstate hplace
  exact (hkeeps action (List.mem_of_getElem? haction)).ended hworld hlater

/-- If all of such actions end with values, each of them ends with one of the values. -/
theorem ended_of_mem_inTurn {actions : List (ExceptT ε (Action σ) α)}
    (hkeeps : ∀ action ∈ actions, Keeps agreement (fun _ => True) (fun _ => True) action)
    (hworld : world.Keeps agreement) (hstate : agreement.state instant.state) {values : List α}
    (hvalues : instant.inTurn world actions = values.map .ok)
    {action : ExceptT ε (Action σ) α} (hmem : action ∈ actions) :
    ∃ (later : Instant σ) (value : α), value ∈ values ∧ agreement.state later.state ∧
      later.ended world action = .ok value := by
  obtain ⟨place, hplace⟩ := List.getElem?_of_mem hmem
  have hlt : place < (instant.inTurn world actions).length := by
    rw [length_inTurn]
    exact (List.getElem?_eq_some_iff.mp hplace).1
  obtain ⟨other, later, hother, hlater, hended⟩ :=
    getElem?_inTurn hkeeps hworld hstate (List.getElem?_eq_getElem hlt)
  obtain rfl := Option.some.inj (hplace.symm.trans hother)
  have hvalue : later.ended world action ∈ values.map .ok :=
    hended ▸ hvalues ▸ List.getElem_mem hlt
  obtain ⟨value, hmem, hsame⟩ := List.mem_map.mp hvalue
  exact ⟨later, value, hmem, hlater, hsame.symm⟩

end Instant

/-! ## Actions whose end is settled -/

namespace Instant

variable {spurious : ε → Prop} {action : ExceptT ε (Action σ) α} {expected : Except ε α}

/-- The action keeps an agreement, and ends as expected or in a spurious error. -/
def Settles (agreement : Agreement σ) (spurious : ε → Prop) (action : ExceptT ε (Action σ) α)
    (expected : Except ε α) : Prop :=
  Keeps agreement (fun value => expected = .ok value)
    (fun error => expected = .error error ∨ spurious error) action

theorem settles_pure (value : α) :
    Settles agreement spurious (pure value : ExceptT ε (Action σ) α) (.ok value) :=
  keeps_pure rfl

theorem settles_throw (error : ε) :
    Settles agreement spurious (throw error : ExceptT ε (Action σ) α) (.error error) :=
  keeps_throw (.inl rfl)

/-- The end of an action that another one follows is that of the other one, if the
first ends with a value. -/
theorem Settles.bind {next : α → ExceptT ε (Action σ) β} {later : α → Except ε β}
    (h : Settles agreement spurious action expected)
    (hnext : ∀ value, expected = .ok value →
      Settles agreement spurious (next value) (later value)) :
    Settles agreement spurious (action >>= next) (expected >>= later) := by
  have hfirst : Keeps agreement (fun value => expected = .ok value)
      (fun error => expected >>= later = .error error ∨ spurious error) action := by
    refine h.weaken fun error herror => herror.imp_left fun hexpected => ?_
    rw [hexpected]
    rfl
  refine hfirst.bind fun value hvalue => ?_
  rw [hvalue]
  exact hnext value hvalue

/-- An action whose value is known ends with it, or in a spurious error. -/
theorem Settles.keeps {value : α} (h : Settles agreement spurious action (.ok value)) :
    Keeps agreement (fun other => other = value) spurious action := by
  refine (Keeps.mono h fun other hother => ?_).weaken fun error herror => ?_
  · exact (Except.ok.inj hother).symm
  · exact herror.resolve_left nofun

/-- After an action whose value is known only the other one counts. -/
theorem Settles.bind_ok {value : α} {next : α → ExceptT ε (Action σ) β} {later : Except ε β}
    (h : Settles agreement spurious action (.ok value))
    (hnext : Settles agreement spurious (next value) later) :
    Settles agreement spurious (action >>= next) later := by
  have hboth : Settles agreement spurious (action >>= next)
      ((.ok value : Except ε α) >>= fun _ => later) :=
    h.bind fun other hother => Except.ok.inj hother ▸ hnext
  exact hboth

/-- Changes that were agreed on settle nothing. -/
theorem settles_modify {change : σ → σ}
    (hchange : ∀ state, agreement.state state → agreement.state (change state)) :
    Settles agreement spurious (modify change : ExceptT ε (Action σ) PUnit) (.ok ⟨⟩) :=
  (keeps_modify hchange).mono fun _ _ => rfl

/-- An action that may look at the state is settled if it is from every state as
agreed. -/
theorem settles_get_bind {next : σ → ExceptT ε (Action σ) α}
    (hnext : ∀ state, agreement.state state → Settles agreement spurious (next state) expected) :
    Settles agreement spurious (get >>= next) expected :=
  keeps_get.bind hnext

/-- An error may be put in other words, if none is spurious. -/
theorem Settles.rethrow (h : Settles agreement (fun _ => False) action expected) (f : ε → ε) :
    Settles agreement (fun _ => False) (tryCatch action fun error => throw (f error))
      (expected.mapError f) := by
  refine Action.Keeps.bind h fun ended hended => ?_
  cases ended with
  | ok value =>
      have hvalue : expected = .ok value := hended
      exact Action.keeps_pure (congrArg (Except.mapError f) hvalue)
  | error error =>
      have herror : expected = .error error := hended.resolve_right id
      exact Action.keeps_pure (.inl (congrArg (Except.mapError f) herror))

variable {instant : Instant σ}

/-- In a world as agreed, a settled action that ends with a value ends with the one
that is expected. -/
theorem Settles.eq_of_ended (h : Settles agreement spurious action expected)
    (hworld : world.Keeps agreement) (hstate : agreement.state instant.state) {value : α}
    (hended : instant.ended world action = .ok value) : expected = .ok value := by
  have hsettled := Keeps.ended h hworld hstate
  exact hsettled.of_ok hended

/-- In a world as agreed, a settled action ends as expected or in a spurious error. -/
theorem Settles.ended_cases (h : Settles agreement spurious action expected)
    (hworld : world.Keeps agreement) (hstate : agreement.state instant.state) :
    instant.ended world action = expected ∨
      ∃ error, spurious error ∧ instant.ended world action = .error error := by
  have hsettled := Keeps.ended h hworld hstate
  cases hended : instant.ended world action with
  | ok value => exact .inl (hsettled.of_ok hended).symm
  | error error =>
      rcases hsettled.of_error hended with hexpected | hspurious
      · exact .inl hexpected.symm
      · exact .inr ⟨error, hspurious, rfl⟩

end Instant

end ManifestLint
