import Mathlib.Algebra.Order.Group.Basic
import Mathlib.Algebra.Order.Ring.Int
import Mathlib.Data.Finset.Card
import ManifestLint.Registry.Notifier

/-!
# The cooldown of notices

A notifier keeps one time for each message, and forgets messages whenever one comes in.  What it
does can be told from what happened before alone: a message is delivered exactly if it was not
delivered less than a cooldown ago, since the last time everything was forgotten.

Histories go from the last event back.  The invariant is that whatever is remembered was delivered,
and that whatever was delivered less than a cooldown ago is remembered.  Times are of any ordered
group, so arithmetic is exact.

* `recent`: the messages that were delivered less than a cooldown ago.
* `expected`: the history that these lead to.
* `Recalls`: the invariant; `Recalls.notify`, `Recalls.reset`: what calls do to it.
* `delivers_iff_not_recent`: what is delivered, and what is remembered.
-/

namespace ManifestLint.Notifier

variable {τ : Type}

/-! ## Histories -/

/-- What a notifier is asked to do at some time. -/
inductive Call (τ : Type) where
  | notify (time : τ) (message : String)
  | reset (time : τ)

/-- What happens: a message is delivered or held back, or all messages are forgotten. -/
inductive Event (τ : Type) where
  | delivered (time : τ) (message : String)
  | held (time : τ) (message : String)
  | reset (time : τ)

/-- The time of a call. -/
def Call.time : Call τ → τ
  | notify time _ => time
  | reset time => time

/-- Whether a call is about a message: other messages are not, but forgetting is about all. -/
def Call.concerns (message : String) : Call τ → Bool
  | notify _ other => other = message
  | reset _ => true

/-- The call that led to an event. -/
def Event.call : Event τ → Call τ
  | delivered time message => .notify time message
  | held time message => .notify time message
  | reset time => .reset time

/-- Whether an event is about a message. -/
def Event.concerns (message : String) (event : Event τ) : Bool := event.call.concerns message

/-- The messages that were delivered, the last one first. -/
def told : List (Event τ) → List String
  | [] => []
  | .delivered _ message :: history => message :: told history
  | .held _ _ :: history => told history
  | .reset _ :: history => told history

/-- The deliveries since everything was last forgotten, the last one first. -/
def deliveries : List (Event τ) → List (String × τ)
  | [] => []
  | .delivered time message :: history => (message, time) :: deliveries history
  | .held _ _ :: history => deliveries history
  | .reset _ :: _ => []

/-- A notifier that has delivered nothing yet. -/
def opened (clock cooldown : τ) : Notifier τ := { clock, cooldown := some cooldown }

section

variable [Sub τ] [LE τ] [DecidableLE τ] [LT τ] [DecidableLT τ]

/-- The messages that were delivered less than a cooldown ago. -/
def recent (cooldown now : τ) (history : List (Event τ)) : List String :=
  ((deliveries history).filter fun delivery => now - cooldown < delivery.2 ∧ delivery.2 ≤ now).map
    Prod.fst

/-- The event that a call should lead to. -/
def outcome (cooldown : τ) (history : List (Event τ)) : Call τ → Event τ
  | .notify time message =>
    if message ∈ recent cooldown time history then .held time message else .delivered time message
  | .reset time => .reset time

/-- The history that calls, the last one first, should lead to. -/
def expected (cooldown : τ) : List (Call τ) → List (Event τ)
  | [] => []
  | call :: earlier =>
    outcome cooldown (expected cooldown earlier) call :: expected cooldown earlier

/-- The notifier after a call, and what happened. -/
def act (notifier : Notifier τ) : Call τ → Option (Notifier τ × Event τ)
  | .notify time message => do
    let (next, delivers) ← { notifier with clock := time }.notify message
    return (next, if delivers then .delivered time message else .held time message)
  | .reset time => some ({ notifier with clock := time }.reset, .reset time)

/-- The notifier after calls, the last one first, and what happened. -/
def after (notifier : Notifier τ) : List (Call τ) → Option (Notifier τ × List (Event τ))
  | [] => some (notifier, [])
  | call :: earlier => do
    let (current, history) ← notifier.after earlier
    let (next, event) ← current.act call
    return (next, event :: history)

end

/-! ## Histories about one message -/

section

variable (message : String) (history : List (Event τ))

theorem deliveries_filter :
    deliveries (history.filter (Event.concerns message)) =
      (deliveries history).filter (·.1 = message) := by
  induction history with
  | nil => rfl
  | cons event history ih =>
      cases event with
      | delivered time other =>
          by_cases hsame : other = message
          · simp [Event.concerns, Event.call, Call.concerns, deliveries, hsame, ih]
          · simp [Event.concerns, Event.call, Call.concerns, deliveries, hsame, ih]
      | held time other =>
          by_cases hsame : other = message
          · simp [Event.concerns, Event.call, Call.concerns, deliveries, hsame, ih]
          · simp [Event.concerns, Event.call, Call.concerns, deliveries, hsame, ih]
      | reset time => rfl

variable [Sub τ] [LE τ] [DecidableLE τ] [LT τ] [DecidableLT τ] {cooldown : τ}

theorem mem_recent_iff {now : τ} {history : List (Event τ)} {message : String} :
    message ∈ recent cooldown now history ↔
      ∃ time, (message, time) ∈ deliveries history ∧ now - cooldown < time ∧ time ≤ now := by
  simp [recent]

theorem mem_recent_filter_iff (now : τ) :
    message ∈ recent cooldown now (history.filter (Event.concerns message)) ↔
      message ∈ recent cooldown now history := by
  simp [mem_recent_iff, deliveries_filter]

theorem call_outcome (call : Call τ) : (outcome cooldown history call).call = call := by
  cases call with
  | notify time other =>
      rw [outcome]
      split <;> rfl
  | reset time => rfl

theorem map_call_expected (calls : List (Call τ)) :
    (expected cooldown calls).map Event.call = calls := by
  induction calls with
  | nil => rfl
  | cons call earlier ih => rw [expected, List.map_cons, call_outcome, ih]

/-- Other messages make no difference to what is to be expected of one. -/
theorem expected_filter (calls : List (Call τ)) :
    expected cooldown (calls.filter (Call.concerns message)) =
      (expected cooldown calls).filter (Event.concerns message) := by
  induction calls with
  | nil => rfl
  | cons call earlier ih =>
      have hconcerns : Event.concerns message (outcome cooldown (expected cooldown earlier) call) =
          call.concerns message := by
        rw [Event.concerns, call_outcome]
      rw [expected, List.filter_cons, List.filter_cons, hconcerns]
      cases hcall : call.concerns message with
      | false => exact ih
      | true =>
          have hsame :
              outcome cooldown ((expected cooldown earlier).filter (Event.concerns message)) call =
                outcome cooldown (expected cooldown earlier) call := by
            cases call with
            | notify time other =>
                obtain rfl : other = message := of_decide_eq_true hcall
                simp only [outcome, mem_recent_filter_iff]
            | reset time => rfl
          simp only [if_true, expected, ih, hsame]

end

/-! ## What is remembered -/

variable [AddCommGroup τ] [LinearOrder τ]

/-- What a notifier has in common with the history behind it. -/
structure Recalls (cooldown : τ) (history : List (Event τ)) (notifier : Notifier τ) : Prop where
  cooldown_eq : notifier.cooldown = some cooldown
  delivered_eq : notifier.delivered = (told history).reverse
  nodup : notifier.sent.keys.Nodup
  past : ∀ delivery ∈ deliveries history, delivery.2 ≤ notifier.clock
  mem_deliveries : ∀ pair ∈ notifier.sent, pair ∈ deliveries history
  /-- What was delivered less than a cooldown ago is remembered, if not from a later time. -/
  mem_sent : ∀ message time, (message, time) ∈ deliveries history →
    notifier.clock - time < cooldown → ∃ last, (message, last) ∈ notifier.sent ∧ time ≤ last

/-- Only messages are remembered that were delivered less than a cooldown ago. -/
def Fresh (cooldown : τ) (notifier : Notifier τ) : Prop :=
  ∀ pair ∈ notifier.sent, notifier.clock - pair.2 < cooldown

variable {cooldown time : τ} {history : List (Event τ)} {notifier : Notifier τ} {message : String}

theorem recalls_opened (clock : τ) : Recalls cooldown [] (opened clock cooldown) where
  cooldown_eq := rfl
  delivered_eq := rfl
  nodup := List.nodup_nil
  past := nofun
  mem_deliveries := nofun
  mem_sent := nofun

theorem mem_prune_iff {pair : String × τ} :
    pair ∈ (notifier.prune cooldown).sent ↔
      pair ∈ notifier.sent ∧ notifier.clock - pair.2 < cooldown := by
  simp [prune]

theorem fresh_prune : Fresh cooldown (notifier.prune cooldown) :=
  fun _ hpair => (mem_prune_iff.mp hpair).2

/-- A remembered message cools as long as only fresh ones are remembered. -/
theorem cools_iff (hfresh : Fresh cooldown notifier) :
    notifier.cools cooldown message = true ↔ message ∈ notifier.sent.keys := by
  rw [cools, Entries.mem_keys_iff, Entries.has]
  cases hlast : notifier.sent.get? message with
  | none => simp
  | some last =>
      have hmem := Entries.mem_of_get? _ _ hlast
      simpa using hfresh _ hmem

namespace Recalls

section

variable [IsOrderedAddMonoid τ]

/-- Time may pass, and messages may be forgotten whose cooldown is over. -/
theorem prune (h : Recalls cooldown history notifier)
    (hlater : ∀ delivery ∈ deliveries history, notifier.clock ≤ time) :
    Recalls cooldown history ({ notifier with clock := time }.prune cooldown) where
  cooldown_eq := h.cooldown_eq
  delivered_eq := h.delivered_eq
  nodup := (List.filter_sublist.map Prod.fst).nodup h.nodup
  past := fun delivery hdelivery =>
    (h.past delivery hdelivery).trans (hlater delivery hdelivery)
  mem_deliveries := fun pair hpair => h.mem_deliveries pair (mem_prune_iff.mp hpair).1
  mem_sent := by
    intro message sent hsent hrecent
    have hbefore : notifier.clock - sent < cooldown :=
      (sub_le_sub_right (hlater _ hsent) sent).trans_lt hrecent
    obtain ⟨last, hlast, hle⟩ := h.mem_sent message sent hsent hbefore
    exact ⟨last, mem_prune_iff.mpr ⟨hlast, (sub_le_sub_left hle time).trans_lt hrecent⟩, hle⟩

/-- The messages that are remembered are the recent ones. -/
theorem mem_keys_iff (h : Recalls cooldown history notifier) (hfresh : Fresh cooldown notifier) :
    message ∈ notifier.sent.keys ↔ message ∈ recent cooldown notifier.clock history := by
  rw [mem_recent_iff]
  constructor
  · intro hmem
    obtain ⟨⟨_, sent⟩, hpair, rfl⟩ := List.mem_map.mp hmem
    have hdelivery := h.mem_deliveries _ hpair
    exact ⟨sent, hdelivery, sub_lt_comm.mp (hfresh _ hpair), h.past _ hdelivery⟩
  · rintro ⟨sent, hdelivery, hrecent, -⟩
    obtain ⟨last, hlast, -⟩ := h.mem_sent message sent hdelivery (sub_lt_comm.mp hrecent)
    exact List.mem_map_of_mem hlast

end

/-- How many messages are remembered. -/
theorem pending_eq [IsOrderedAddMonoid τ] (h : Recalls cooldown history notifier)
    (hfresh : Fresh cooldown notifier) :
    notifier.pending = (recent cooldown notifier.clock history).toFinset.card := by
  have hkeys : (recent cooldown notifier.clock history).toFinset = notifier.sent.keys.toFinset := by
    ext message
    rw [List.mem_toFinset, List.mem_toFinset, h.mem_keys_iff hfresh]
  rw [hkeys, List.toFinset_card_of_nodup h.nodup, pending, Entries.keys, List.length_map]

theorem held (h : Recalls cooldown history notifier) :
    Recalls cooldown (.held time message :: history) notifier :=
  ⟨h.cooldown_eq, h.delivered_eq, h.nodup, h.past, h.mem_deliveries, h.mem_sent⟩

theorem delivered (h : Recalls cooldown history notifier) (hnew : message ∉ notifier.sent.keys) :
    Recalls cooldown (.delivered notifier.clock message :: history) (notifier.deliver message) where
  cooldown_eq := h.cooldown_eq
  delivered_eq := by
    rw [deliver, h.delivered_eq, told, List.reverse_cons]
  nodup := Entries.nodup_keys_put _ _ _ h.nodup
  past := List.forall_mem_cons.mpr ⟨le_rfl, h.past⟩
  mem_deliveries := by
    intro pair hpair
    rw [deliver, Entries.put_of_notMem hnew] at hpair
    rcases List.mem_append.mp hpair with hold | hlast
    · exact List.mem_cons_of_mem _ (h.mem_deliveries pair hold)
    · rw [List.mem_singleton.mp hlast]
      exact List.mem_cons_self
  mem_sent := by
    intro other sent hsent hrecent
    rw [deliver, Entries.put_of_notMem hnew]
    rcases List.mem_cons.mp hsent with hlast | hold
    · obtain ⟨rfl, rfl⟩ := Prod.mk.inj hlast
      exact ⟨notifier.clock, by simp, le_rfl⟩
    · obtain ⟨last, hlast, hle⟩ := h.mem_sent other sent hold hrecent
      exact ⟨last, List.mem_append_left _ hlast, hle⟩

theorem reset (h : Recalls cooldown history notifier) :
    Recalls cooldown (.reset time :: history) { notifier with clock := time }.reset where
  cooldown_eq := h.cooldown_eq
  delivered_eq := h.delivered_eq
  nodup := List.nodup_nil
  past := nofun
  mem_deliveries := nofun
  mem_sent := nofun

end Recalls

theorem fresh_deliver (hcooldown : 0 < cooldown) (h : Fresh cooldown notifier)
    (hnew : message ∉ notifier.sent.keys) : Fresh cooldown (notifier.deliver message) := by
  intro pair hpair
  rw [deliver, Entries.put_of_notMem hnew] at hpair
  rcases List.mem_append.mp hpair with hold | hlast
  · exact h pair hold
  · rw [List.mem_singleton.mp hlast]
    simpa [deliver] using hcooldown

/-! ## What calls lead to -/

variable [IsOrderedAddMonoid τ]

/-- A notice: the expected event happens, and only fresh messages are remembered. -/
theorem Recalls.notify (hcooldown : 0 < cooldown) (h : Recalls cooldown history notifier)
    (hlater : ∀ delivery ∈ deliveries history, notifier.clock ≤ time) (message : String) :
    ∃ next, notifier.act (.notify time message) =
        some (next, outcome cooldown history (.notify time message)) ∧
      Recalls cooldown (outcome cooldown history (.notify time message) :: history) next ∧
      Fresh cooldown next ∧ next.clock = time := by
  have hpruned := h.prune hlater
  have hkeys : message ∈ ({ notifier with clock := time }.prune cooldown).sent.keys ↔
      message ∈ recent cooldown time history := hpruned.mem_keys_iff fresh_prune
  have hcools : ({ notifier with clock := time }.prune cooldown).cools cooldown message = true ↔
      message ∈ recent cooldown time history := (cools_iff fresh_prune).trans hkeys
  have hact : notifier.act (.notify time message) =
      (if ({ notifier with clock := time }.prune cooldown).cools cooldown message then
        some ({ notifier with clock := time }.prune cooldown, Event.held time message)
      else some (({ notifier with clock := time }.prune cooldown).deliver message,
        Event.delivered time message)) := by
    simp only [act, Notifier.notify, h.cooldown_eq]
    split <;> rfl
  rw [hact, outcome]
  by_cases hrecent : message ∈ recent cooldown time history
  · rw [if_pos (hcools.mpr hrecent), if_pos hrecent]
    exact ⟨_, rfl, hpruned.held, fresh_prune, rfl⟩
  · rw [if_neg (mt hcools.mp hrecent), if_neg hrecent]
    have hnew := mt hkeys.mp hrecent
    exact ⟨_, rfl, hpruned.delivered hnew, fresh_deliver hcooldown fresh_prune hnew, rfl⟩

/-- A call leads to the expected event. -/
theorem Recalls.act (hcooldown : 0 < cooldown) (h : Recalls cooldown history notifier)
    (call : Call τ) (hlater : ∀ delivery ∈ deliveries history, notifier.clock ≤ call.time) :
    ∃ next, notifier.act call = some (next, outcome cooldown history call) ∧
      Recalls cooldown (outcome cooldown history call :: history) next ∧
      next.clock = call.time := by
  cases call with
  | notify time message =>
      obtain ⟨next, hact, hrecalls, -, hclock⟩ := h.notify hcooldown hlater message
      exact ⟨next, hact, hrecalls, hclock⟩
  | reset time => exact ⟨_, rfl, h.reset, rfl⟩

/-- Calls lead to the expected history. -/
theorem recalls_after (hcooldown : 0 < cooldown) (clock : τ) {calls : List (Call τ)}
    (hordered : calls.Pairwise fun later earlier => earlier.time ≤ later.time) :
    ∃ notifier, (opened clock cooldown).after calls = some (notifier, expected cooldown calls) ∧
      Recalls cooldown (expected cooldown calls) notifier ∧
      ∀ call ∈ calls.head?, notifier.clock = call.time := by
  induction calls with
  | nil => exact ⟨_, rfl, recalls_opened clock, nofun⟩
  | cons call earlier ih =>
      obtain ⟨hlater, hearlier⟩ := List.pairwise_cons.mp hordered
      obtain ⟨current, hcurrent, hrecalls, hclock⟩ := ih hearlier
      have hpassed : ∀ delivery ∈ deliveries (expected cooldown earlier),
          current.clock ≤ call.time := by
        intro delivery hdelivery
        cases earlier with
        | nil => cases hdelivery
        | cons last rest =>
            rw [hclock last rfl]
            exact hlater last List.mem_cons_self
      obtain ⟨next, hact, hnext, htime⟩ := hrecalls.act hcooldown call hpassed
      refine ⟨next, ?_, hnext, fun first hfirst => ?_⟩
      · rw [after, hcurrent]
        simp [hact, expected]
      · rw [htime, Option.some.inj hfirst]

/-- **Notices with a cooldown.**  Whatever is asked of a notifier in the order of time, it delivers
a message exactly if it was not delivered less than a cooldown ago since everything was last
forgotten, and then remembers as many messages as were delivered less than a cooldown ago since
then.  All deliveries are handed on, in their order, and what happens to a message is the same if
no other messages come in. -/
theorem delivers_iff_not_recent (hcooldown : 0 < cooldown) (clock : τ) {calls : List (Call τ)}
    (hordered : calls.Pairwise fun later earlier => earlier.time ≤ later.time) :
    ∃ notifier history, (opened clock cooldown).after calls = some (notifier, history) ∧
      history.map Event.call = calls ∧
      notifier.delivered = (told history).reverse ∧
      (∀ message, ∃ alone, (opened clock cooldown).after (calls.filter (Call.concerns message)) =
        some (alone, history.filter (Event.concerns message))) ∧
      ∀ time message, (∀ call ∈ calls, call.time ≤ time) →
        ∃ next event, notifier.act (.notify time message) = some (next, event) ∧
          (event = .delivered time message ∧ message ∉ recent cooldown time history ∨
            event = .held time message ∧ message ∈ recent cooldown time history) ∧
          next.pending = (recent cooldown time (event :: history)).toFinset.card := by
  obtain ⟨notifier, hafter, hrecalls, hclock⟩ := recalls_after hcooldown clock hordered
  refine ⟨notifier, _, hafter, map_call_expected calls, hrecalls.delivered_eq, ?_, ?_⟩
  · intro message
    obtain ⟨alone, halone, -⟩ :=
      recalls_after hcooldown clock (hordered.sublist List.filter_sublist)
    exact ⟨alone, halone.trans (by rw [expected_filter])⟩
  · intro time message hlater
    have hpassed : ∀ delivery ∈ deliveries (expected cooldown calls), notifier.clock ≤ time := by
      intro delivery hdelivery
      cases calls with
      | nil => cases hdelivery
      | cons last rest =>
          rw [hclock last rfl]
          exact hlater last List.mem_cons_self
    obtain ⟨next, hact, hnext, hfresh, rfl⟩ := hrecalls.notify hcooldown hpassed message
    refine ⟨next, _, hact, ?_, hnext.pending_eq hfresh⟩
    rw [outcome]
    split
    · next hrecent => exact .inr ⟨rfl, hrecent⟩
    · next hnew => exact .inl ⟨rfl, hnew⟩

/-- One cooldown after its delivery a message is delivered again, though another one was held back
in between. -/
theorem delivered_again_after_cooldown :
    ∃ notifier : Notifier ℤ,
      (opened 0 30).after [.notify 129 "offline", .notify 100 "offline"] =
        some (notifier, [.held 129 "offline", .delivered 100 "offline"]) ∧
      notifier.delivered = ["offline"] ∧
      ∃ next, notifier.act (.notify 130 "offline") = some (next, .delivered 130 "offline") ∧
        next.pending = 1 := by
  have hordered : [Call.notify (129 : ℤ) "offline", .notify 100 "offline"].Pairwise
      fun later earlier => earlier.time ≤ later.time := by
    decide
  obtain ⟨notifier, history, hafter, -, hdelivered, -, hnext⟩ :=
    delivers_iff_not_recent (by decide : (0 : ℤ) < 30) 0 hordered
  have hhistory : history = [.held 129 "offline", .delivered 100 "offline"] :=
    (Prod.mk.inj (Option.some.inj (hafter.symm.trans rfl))).2
  subst hhistory
  obtain ⟨next, event, hact, hevent, hpending⟩ := hnext 130 "offline" (by decide)
  have hnew : "offline" ∉ recent (30 : ℤ) 130 [.held 129 "offline", .delivered 100 "offline"] := by
    decide
  rcases hevent with ⟨rfl, -⟩ | ⟨-, hrecent⟩
  · exact ⟨notifier, hafter, hdelivered, next, hact, hpending.trans (by decide)⟩
  · exact absurd hrecent hnew

end ManifestLint.Notifier
