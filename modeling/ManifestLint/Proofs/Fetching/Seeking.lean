import ManifestLint.Proofs.Fetching.Asking

/-!
# What requests are for

A program sends a request for something that its state does not have yet.  What a request is
**for** can be told from outside: the state does not have it while the request is waited
for, and there is a reply with which it would have it when the program hands the state
over again.  A program **seeks** if each of its requests is for one thing, which the state
has from then on if the reply is accepted for it, and nothing else changes what the state
has.  Such a program sends no request for what it was once given.

* `Inquiry.IsFor`: what a request is for.
* `Program.Seeks.bind`: of two programs that seek the one may follow the other.
* `Program.Seeks.run`: the requests of a program that seeks, and what its state has in the
  end.
* `Instant.asked_again`: the same of programs that run in turn.
-/

namespace ManifestLint

variable {σ ι κ α β ε : Type}

/-- What a state may have, and the replies to a request that are accepted for it. -/
structure Quest (σ ι : Type) where
  Has : σ → ι → Prop
  Accepts : ι → Request → Reply → Prop

/-- A request that was waited for, with the state that the program would have handed over next
if a reply had come at once. -/
structure Inquiry (σ : Type) extends Exchange σ where
  onward : Reply → σ

/-- The request is for an item: the state does not have it yet, and with some reply it
would. -/
def Inquiry.IsFor (quest : Quest σ ι) (inquiry : Inquiry σ) (item : ι) : Prop :=
  ¬ quest.Has inquiry.state item ∧ ∃ reply, quest.Has (inquiry.onward reply) item

/-- The reply that came is accepted for an item. -/
def Inquiry.Gains (quest : Quest σ ι) (inquiry : Inquiry σ) (item : ι) : Prop :=
  quest.Accepts item inquiry.request inquiry.reply

/-- A world in which nobody else gives items to the state or takes them from it. -/
def World.LeavesItems (world : World σ) (quest : Quest σ ι) : Prop :=
  ∀ waits state item, quest.Has (world.others waits state) item ↔ quest.Has state item

variable {quest : Quest σ ι} {allowed more had : ι → Prop}

namespace Program

/-- The state that is handed over at the first wait, or in the end. -/
def handedOver : Program σ α → σ
  | done state _ => state
  | waiting state _ _ => state

/-- The requests that a program waits for in a world. -/
def inquiries (world : World σ) (waits : Nat) : Program σ α → List (Inquiry σ)
  | done _ _ => []
  | waiting state request resume =>
    { state, request, reply := world.reply waits request
      onward := fun reply => (resume state reply).handedOver } ::
      (resume (world.others waits state) (world.reply waits request)).inquiries world (waits + 1)

/-- The program seeks allowed items, from a state that had some before: each request is for
one that is missing, and the state has it afterwards if and only if the reply is accepted for
it, as long as others do not change what the state has. -/
def Seeks (quest : Quest σ ι) (allowed : ι → Prop) : Program σ α → (ι → Prop) → Prop
  | done state _, had => ∀ item, quest.Has state item ↔ had item
  | waiting state request resume, had =>
    (∀ item, quest.Has state item ↔ had item) ∧
      ∃ item, allowed item ∧ ¬ had item ∧ (∃ reply, quest.Accepts item request reply) ∧
        ∀ later reply, (∀ other, quest.Has later other ↔ had other) →
          (resume later reply).Seeks quest allowed fun other =>
            had other ∨ other = item ∧ quest.Accepts item request reply

variable {program : Program σ α}

theorem Seeks.handedOver (h : program.Seeks quest allowed had) (item : ι) :
    quest.Has program.handedOver item ↔ had item := by
  cases program with
  | done state value => exact h item
  | waiting state request resume => exact h.1 item

/-- Of two programs that seek the one may follow the other, which finds nothing more than
what was there before and what the first one was allowed to seek. -/
theorem Seeks.bind {next : α → σ → Program σ β} (h : program.Seeks quest allowed had)
    (hmore : ∀ item, allowed item → more item)
    (hnext : ∀ value state, (∀ item, quest.Has state item → had item ∨ allowed item) →
      (next value state).Seeks quest more (quest.Has state)) :
    (program.bind next).Seeks quest more had := by
  induction program generalizing had with
  | done state value =>
      have hsame : quest.Has state = had := funext fun item => propext (h item)
      have hlast := hnext value state fun item hitem => .inl ((h item).mp hitem)
      rwa [hsame] at hlast
  | waiting state request resume ih =>
      obtain ⟨hstate, item, hallowed, hmissing, haccepted, hresume⟩ := h
      refine ⟨hstate, item, hmore item hallowed, hmissing, haccepted, fun later reply hlater => ?_⟩
      refine ih later reply (hresume later reply hlater) fun value last hlast => ?_
      refine hnext value last fun other hother => ?_
      rcases hlast other hother with (hbefore | ⟨rfl, -⟩) | hnew
      · exact .inl hbefore
      · exact .inr hallowed
      · exact .inr hnew

/-- What a request is for, where the program seeks. -/
theorem Seeks.isFor_iff {state : σ} {request : Request} {resume : σ → Reply → Program σ α}
    (reply : Reply) (h : (waiting state request resume).Seeks quest allowed had) :
    ∃ item, allowed item ∧ ¬ had item ∧ (∃ reply, quest.Accepts item request reply) ∧
      (∀ other, Inquiry.IsFor quest
        { state, request, reply, onward := fun reply => (resume state reply).handedOver } other ↔
          other = item) ∧
      ∀ later reply, (∀ other, quest.Has later other ↔ had other) →
        (resume later reply).Seeks quest allowed fun other =>
          had other ∨ other = item ∧ quest.Accepts item request reply := by
  obtain ⟨hstate, item, hallowed, hmissing, haccepted, hresume⟩ := h
  refine ⟨item, hallowed, hmissing, haccepted, fun other => ?_, hresume⟩
  have honward (reply : Reply) := (hresume state reply hstate).handedOver other
  constructor
  · rintro ⟨hother, reply, hhas⟩
    rcases (honward reply).mp hhas with hbefore | ⟨hsame, -⟩
    · exact absurd ((hstate other).mpr hbefore) hother
    · exact hsame
  · rintro rfl
    obtain ⟨reply, hreply⟩ := haccepted
    exact ⟨fun hhas => hmissing ((hstate other).mp hhas), reply,
      (honward reply).mpr (.inr ⟨rfl, hreply⟩)⟩

/-- **The requests of a program that seeks.**  Each is for one allowed item that was missing
before, of two for the same item the first one gained nothing, and in the end the state has
what it had before and what was gained. -/
theorem Seeks.run {world : World σ} (hworld : world.LeavesItems quest)
    (h : program.Seeks quest allowed had) (waits : Nat) :
    (∀ inquiry ∈ program.inquiries world waits, ∃ item, allowed item ∧ ¬ had item ∧
      (∃ reply, quest.Accepts item inquiry.request reply) ∧
      ∀ other, inquiry.IsFor quest other ↔ other = item) ∧
    ((program.inquiries world waits).Pairwise fun earlier later => ∀ item,
      earlier.IsFor quest item → later.IsFor quest item → ¬ earlier.Gains quest item) ∧
    ∀ item, quest.Has (program.play world waits).2.state item ↔ had item ∨
      ∃ inquiry ∈ program.inquiries world waits, inquiry.IsFor quest item ∧
        inquiry.Gains quest item := by
  induction program generalizing had waits with
  | done state value =>
      refine ⟨nofun, .nil, fun item => (h item).trans ⟨.inl, ?_⟩⟩
      rintro (hbefore | ⟨inquiry, hmem, -⟩)
      · exact hbefore
      · cases hmem
  | waiting state request resume ih =>
      have hstate := h.1
      obtain ⟨item, hallowed, hmissing, haccepted, hfor, hresume⟩ :=
        h.isFor_iff (world.reply waits request)
      have hlater (other : ι) : quest.Has (world.others waits state) other ↔ had other :=
        (hworld waits state other).trans (hstate other)
      obtain ⟨hrest, hpairs, hend⟩ := ih _ (world.reply waits request)
        (hresume _ (world.reply waits request) hlater) (waits + 1)
      refine ⟨List.forall_mem_cons.mpr ⟨⟨item, hallowed, hmissing, haccepted, hfor⟩, ?_⟩,
        List.pairwise_cons.mpr ⟨?_, hpairs⟩, fun other => (hend other).trans ?_⟩
      · intro inquiry hmem
        obtain ⟨other, hother, hnew, hrest⟩ := hrest inquiry hmem
        exact ⟨other, hother, fun hbefore => hnew (.inl hbefore), hrest⟩
      · intro later hmem other hfirst hsecond hgained
        obtain rfl := (hfor other).mp hfirst
        obtain ⟨missing, -, hnew, -, hiff⟩ := hrest later hmem
        obtain rfl := (hiff other).mp hsecond
        exact hnew (.inr ⟨rfl, hgained⟩)
      · simp only [inquiries, List.mem_cons, or_and_right, exists_or, exists_eq_left, hfor,
          or_assoc]
        refine or_congr_right (or_congr_left (and_congr_right fun hsame => ?_))
        rw [hsame, Inquiry.Gains]

end Program

namespace Action

/-- An action seeks if it does so from every state. -/
def Seeks (quest : Quest σ ι) (allowed : ι → Prop) (action : Action σ α) : Prop :=
  ∀ state, (action state).Seeks quest allowed (quest.Has state)

variable {action : Action σ α}

theorem seeks_pure (value : α) : (pure value : Action σ α).Seeks quest allowed :=
  fun _ _ => Iff.rfl

theorem Seeks.bind {next : α → Action σ β} (h : action.Seeks quest allowed)
    (hnext : ∀ value, (next value).Seeks quest allowed) : (action >>= next).Seeks quest allowed :=
  fun state => (h state).bind (fun _ => id) fun value later _ => hnext value later

end Action

/-! ## Actions that may end in an error -/

namespace Fallible

/-- The action seeks, however it ends. -/
def Seeks (quest : Quest σ ι) (allowed : ι → Prop) (action : ExceptT ε (Action σ) α) : Prop :=
  action.run.Seeks quest allowed

variable {action : ExceptT ε (Action σ) α}

theorem seeks_pure (value : α) : Seeks quest allowed (pure value : ExceptT ε (Action σ) α) :=
  Action.seeks_pure _

theorem seeks_throw (error : ε) : Seeks quest allowed (throw error : ExceptT ε (Action σ) α) :=
  Action.seeks_pure _

theorem seeks_get : Seeks quest allowed (get : ExceptT ε (Action σ) σ) :=
  fun _ _ => Iff.rfl

/-- What follows may depend on the state that it starts in. -/
theorem seeks_get_bind {next : σ → ExceptT ε (Action σ) α}
    (h : ∀ state, ((next state).run state).Seeks quest allowed (quest.Has state)) :
    Seeks quest allowed (get >>= next) :=
  fun state => h state

/-- A change that leaves the items alone seeks nothing. -/
theorem seeks_modifyGet {f : σ → α × σ}
    (hsame : ∀ state item, quest.Has (f state).2 item ↔ quest.Has state item) :
    Seeks quest allowed (modifyGet f : ExceptT ε (Action σ) α) :=
  fun state item => hsame state item

theorem Seeks.bind {next : α → ExceptT ε (Action σ) β} (h : Seeks quest allowed action)
    (hnext : ∀ value, Seeks quest allowed (next value)) :
    Seeks quest allowed (action >>= next) := by
  refine Action.Seeks.bind h fun ended => ?_
  cases ended with
  | ok value => exact hnext value
  | error error => exact Action.seeks_pure _

/-- What follows may depend on what the state does not have, as far as that is nothing that was
looked for before. -/
theorem Seeks.run_bind {first : ι → Prop} {next : α → ExceptT ε (Action σ) β} {state : σ}
    (h : Seeks quest first action) (hmore : ∀ item, first item → allowed item)
    (hnext : ∀ value later, (∀ item, quest.Has later item → quest.Has state item ∨ first item) →
      ((next value).run later).Seeks quest allowed (quest.Has later)) :
    ((action >>= next).run state).Seeks quest allowed (quest.Has state) := by
  refine (h state).bind hmore fun ended later hlater => ?_
  cases ended with
  | ok value => exact hnext value later hlater
  | error error => exact Action.seeks_pure _ later

theorem seeks_lift {action : Action σ α} (h : action.Seeks quest allowed) :
    Seeks quest allowed (action : ExceptT ε (Action σ) α) := by
  have hbind : Action.Seeks quest allowed
      (action >>= fun value => (pure (.ok value) : Action σ (Except ε α))) :=
    h.bind fun value => Action.seeks_pure _
  rwa [bind_pure_comp] at hbind

end Fallible

/-! ## One after the other -/

namespace Instant

variable (world : World σ) (run : κ → ExceptT ε (Action σ) α)

/-- The requests that some calls wait for, which run in turn, each with its call. -/
def inquiries (instant : Instant σ) : List κ → List (κ × Inquiry σ)
  | [] => []
  | call :: rest =>
    ((run call).run instant.state |>.inquiries world instant.waits).map (call, ·) ++
      (instant.after world (run call)).inquiries rest

variable {world run}

/-- **Asked again.**  Let calls run in turn, each of which seeks.  Each request is for one item
that its call is allowed to seek; of two for the same item the first one gained nothing. -/
theorem asked_again {allowed : κ → ι → Prop} (hworld : world.LeavesItems quest) {calls : List κ}
    (hseeks : ∀ call ∈ calls, Fallible.Seeks quest (allowed call) (run call))
    (instant : Instant σ) :
    (∀ made ∈ instant.inquiries world run calls, ∃ item, allowed made.1 item ∧
      ¬ quest.Has instant.state item ∧ (∃ reply, quest.Accepts item made.2.request reply) ∧
      ∀ other, made.2.IsFor quest other ↔ other = item) ∧
    (instant.inquiries world run calls).Pairwise fun earlier later => ∀ item,
      earlier.2.IsFor quest item → later.2.IsFor quest item → ¬ earlier.2.Gains quest item := by
  induction calls generalizing instant with
  | nil => exact ⟨nofun, .nil⟩
  | cons call rest ih =>
      obtain ⟨hcall, hrest⟩ := List.forall_mem_cons.mp hseeks
      obtain ⟨hmade, hpairs, hend⟩ := (hcall instant.state).run hworld instant.waits
      obtain ⟨hlater, hlaterPairs⟩ := ih hrest (instant.after world (run call))
      refine ⟨fun made hmem => ?_, List.pairwise_append.mpr ⟨?_, hlaterPairs, ?_⟩⟩
      · rcases List.mem_append.mp hmem with hfirst | hsecond
        · obtain ⟨inquiry, hinquiry, rfl⟩ := List.mem_map.mp hfirst
          exact hmade inquiry hinquiry
        · obtain ⟨item, hallowed, hnew, hsought⟩ := hlater made hsecond
          exact ⟨item, hallowed, fun hbefore => hnew ((hend item).mpr (.inl hbefore)), hsought⟩
      · exact List.pairwise_map.mpr hpairs
      · intro earlier hearlier later hmem item hfirst hsecond hgained
        obtain ⟨inquiry, hinquiry, rfl⟩ := List.mem_map.mp hearlier
        obtain ⟨other, -, hnew, -, hiff⟩ := hlater later hmem
        obtain rfl := (hiff item).mp hsecond
        exact hnew ((hend item).mpr (.inr ⟨inquiry, hinquiry, hfirst, hgained⟩))

end Instant

end ManifestLint
