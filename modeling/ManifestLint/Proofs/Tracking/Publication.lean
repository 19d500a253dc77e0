import ManifestLint.Proofs.Tracking.Coherence

/-!
# Which refreshes publish

A refresh that was started while the checks were on ends some turns later.  In
between anything may have happened to its document: other refreshes, a removal,
a removal and a new beginning, the checks switched off and on again.

The generation that a refresh has drawn is wanted until the first turn that
*outdates* it, and never again after that (`wanted_turns_iff`).  So a refresh
publishes exactly if no turn since its start outdated it, and then it publishes
the findings of the text that is tracked at that moment
(`publishes_iff_not_outdated`).
-/

namespace ManifestLint.Desk

variable {desk : Desk}

/-- A turn begins a refresh whose checks are under way afterwards. -/
def Begins (desk : Desk) (next : Turn) (refresh : UnderWay) : Prop :=
  refresh ∉ desk.underWay ∧ refresh ∈ (desk.turn next).underWay

/-- What a refresh publishes when it ends with findings, if it publishes. -/
def published (desk : Desk) (refresh : UnderWay) (findings : List Finding) :
    Option (List Finding) :=
  (desk.tracker.settle refresh.uri refresh.generation findings).2

/-! ## One turn -/

/-- A start leaves the refreshes of other documents wanted, and no old one of
its own. -/
theorem Coherent.wanted_bring_iff (h : desk.Coherent) {refresh : UnderWay}
    (hmem : refresh ∈ desk.underWay) (uri text : String) :
    (desk.bring uri text).Wanted refresh ↔ desk.Wanted refresh ∧ uri ≠ refresh.uri := by
  rw [Wanted, bring_generation]
  split
  · next hsame =>
      have hbegun := h.begun refresh hmem
      have hnew : some (desk.tracker.counter + 1) ≠ some refresh.generation :=
        fun heq => by have := Option.some.inj heq; omega
      simp [hnew, hsame]
  · next hother => simp [Wanted, hother]

theorem Coherent.wanted_delete_iff (h : desk.Coherent) (refresh : UnderWay) (uri : String) :
    (desk.call (.delete uri)).Wanted refresh ↔ desk.Wanted refresh ∧ uri ≠ refresh.uri := by
  show (desk.tracker.delete uri).generations.get? refresh.uri = _ ↔ _
  by_cases hsame : uri = refresh.uri
  · simp [h.delete_generation, hsame]
  · rw [Tracker.delete_generation _ _ _ hsame]
    simp [Wanted, hsame]

/-- **One turn.**  A refresh under way stays wanted unless the turn outdates
it, and an unwanted one stays unwanted. -/
theorem Coherent.wanted_turn_iff (h : desk.Coherent) {refresh : UnderWay}
    (hmem : refresh ∈ desk.underWay) (next : Turn) :
    (desk.turn next).Wanted refresh ↔
      desk.Wanted refresh ∧ ¬ Outdates refresh.uri desk next := by
  have hdoes := desk.does_turn next
  generalize desk.turn next = after at hdoes
  cases hdoes with
  | @init uri text huntracked =>
      rw [(h.noted uri text).wanted_bring_iff hmem]
      simp only [Outdates, Starts, reduceCtorEq, Turn.call.injEq, or_false]
      grind [Wanted, note]
  | @refresh uri text htracked =>
      rw [(h.noted uri text).wanted_bring_iff hmem]
      simp only [Outdates, Starts, reduceCtorEq, Turn.call.injEq, or_false]
      grind [Wanted, note]
  | @begin uri text hspawned htracked =>
      rw [(h.unspawned uri text).wanted_bring_iff hmem]
      simp only [Outdates, Starts, reduceCtorEq, or_false]
      grind [Wanted, unspawn]
  | lapse hspawned huntracked =>
      simp only [Outdates, Starts, reduceCtorEq, or_false]
      grind [Wanted, unspawn]
  | delete => simp [h.wanted_delete_iff, Outdates, Starts]
  | disable =>
      have hoff := h.not_wanted_disable hmem
      simp only [Outdates, or_true, not_true_eq_false, and_false, iff_false]
      exact hoff
  | @settle other findings =>
      obtain ⟨-, -, hgenerations, -⟩ :=
        desk.tracker.settle_frame other.uri findings other.generation
      simp only [Outdates, Starts, reduceCtorEq, or_false, not_false_eq_true, and_true]
      simp only [Wanted, settled, hgenerations]
  | idle hidle => simp [hidle]
  | _ =>
      simp only [Outdates, Starts, reduceCtorEq, Turn.call.injEq, Call.setEnabled.injEq,
        or_false, not_false_eq_true, and_true]
      rfl

/-- What is under way after a turn was under way before, or it has drawn a new
number, is wanted, and the checks are on. -/
theorem mem_underWay_turn {refresh : UnderWay} (next : Turn)
    (hmem : refresh ∈ (desk.turn next).underWay) :
    refresh ∈ desk.underWay ∨
      (desk.tracker.counter < refresh.generation ∧ (desk.turn next).Wanted refresh ∧
        desk.tracker.enabled = true) := by
  have hbring : ∀ (base : Desk) uri text, base.tracker = desk.tracker →
      base.underWay = desk.underWay → refresh ∈ (base.bring uri text).underWay →
      refresh ∈ desk.underWay ∨
        (desk.tracker.counter < refresh.generation ∧
          (base.bring uri text).Wanted refresh ∧ desk.tracker.enabled = true) := by
    intro base uri text htracker hunderWay hmem
    rcases mem_underWay_bring base uri text hmem with hold | ⟨hon, rfl⟩
    · exact .inl (hunderWay ▸ hold)
    · refine .inr ⟨?_, (bring_generation ..).trans (if_pos rfl), htracker ▸ hon⟩
      rw [htracker]
      exact Nat.lt_succ_self _
  have hdoes := desk.does_turn next
  generalize desk.turn next = after at hdoes hmem
  cases hdoes with
  | init => exact hbring _ _ _ rfl rfl hmem
  | refresh => exact hbring _ _ _ rfl rfl hmem
  | begin => exact hbring _ _ _ rfl rfl hmem
  | settle => exact .inl (List.mem_of_mem_erase hmem)
  | fail => exact .inl (List.mem_of_mem_erase hmem)
  | _ => exact .inl hmem

/-- The counter never goes back. -/
theorem counter_le_turn (desk : Desk) (next : Turn) :
    desk.tracker.counter ≤ (desk.turn next).tracker.counter := by
  have hdoes := desk.does_turn next
  generalize desk.turn next = after at hdoes
  cases hdoes with
  | @init uri text => exact (bring_counter (desk.note uri text) uri text) ▸ Nat.le_succ _
  | @refresh uri text => exact (bring_counter (desk.note uri text) uri text) ▸ Nat.le_succ _
  | @begin uri text => exact (bring_counter (desk.unspawn uri text) uri text) ▸ Nat.le_succ _
  | @delete uri => exact Nat.le_of_eq (desk.tracker.delete_counter uri).symm
  | disable => exact desk.tracker.counter_le_disable
  | @settle other findings =>
      obtain ⟨-, -, -, hcounter⟩ :=
        desk.tracker.settle_frame other.uri findings other.generation
      exact Nat.le_of_eq hcounter.symm
  | _ => exact Nat.le_refl _

/-! ## Whole runs -/

/-- A refresh that is under way after a run, and had begun before it, was under
way before it. -/
theorem mem_underWay_turns {refresh : UnderWay} (run : List Turn)
    (hbegun : refresh.generation ≤ desk.tracker.counter)
    (hmem : refresh ∈ (desk.turns run).underWay) : refresh ∈ desk.underWay := by
  induction run generalizing desk with
  | nil => exact hmem
  | cons next rest ih =>
      have hnext := ih (Nat.le_trans hbegun (counter_le_turn desk next)) hmem
      rcases mem_underWay_turn next hnext with hold | ⟨hnew, -, -⟩
      · exact hold
      · omega

/-- **A whole run.**  A refresh that is still under way is wanted if and only if
it was wanted before and no turn of the run has outdated it. -/
theorem Coherent.wanted_turns_iff (h : desk.Coherent) {refresh : UnderWay}
    (hbegun : refresh.generation ≤ desk.tracker.counter) (run : List Turn)
    (hstill : refresh ∈ (desk.turns run).underWay) :
    (desk.turns run).Wanted refresh ↔
      desk.Wanted refresh ∧ desk.Never (Outdates refresh.uri) run := by
  induction run generalizing desk with
  | nil => simp [Never]
  | cons next rest ih =>
      have hmem : refresh ∈ desk.underWay := mem_underWay_turns (next :: rest) hbegun hstill
      have hlater := Nat.le_trans hbegun (counter_le_turn desk next)
      rw [turns_cons, ih (h.turn next) hlater hstill, h.wanted_turn_iff hmem, Never, and_assoc]

/-- **A refresh publishes if and only if no turn since its start outdated it**:
no other refresh of its document has started, the document was not dropped, and
the checks were not switched off, whatever was undone since.  When it publishes,
the checks are on, the document is tracked, and its text is the one that was
checked; when it does not, the tracker is left as it was. -/
theorem publishes_iff_not_outdated (enabled : Bool) (before : List Turn) (next : Turn)
    (between : List Turn) (refresh : UnderWay) (findings : List Finding)
    (hbegins : ((opened enabled).turns before).Begins next refresh)
    (hstill : refresh ∈ ((opened enabled).turns (before ++ next :: between)).underWay) :
    let first := ((opened enabled).turns before).turn next
    let last := (opened enabled).turns (before ++ next :: between)
    (last.published refresh findings = some findings ↔
        first.Never (Outdates refresh.uri) between) ∧
      (last.published refresh findings = some findings →
        last.tracker.enabled = true ∧ last.tracker.isTracked refresh.uri = true ∧
          last.tracker.documents.get? refresh.uri = some refresh.text ∧
          (last.turn (.settle refresh findings)).tracker =
            last.tracker.publish refresh.uri findings) ∧
      (last.published refresh findings ≠ some findings →
        last.published refresh findings = none ∧
          (last.turn (.settle refresh findings)).tracker = last.tracker) := by
  intro first last
  have hlast : last = first.turns between := turns_append _ before (next :: between)
  have hfirst : first.Coherent := (coherent_turns enabled before).turn next
  have hcoherent : last.Coherent := coherent_turns enabled _
  have hmem : refresh ∈ last.underWay := hstill
  obtain ⟨hnew, hunderWay⟩ := hbegins
  have hwanted : first.Wanted refresh := by
    rcases mem_underWay_turn next hunderWay with hold | ⟨-, hwanted, -⟩
    · exact absurd hold hnew
    · exact hwanted
  have hrun : last.Wanted refresh ↔ first.Never (Outdates refresh.uri) between := by
    have hstill : refresh ∈ (first.turns between).underWay := hlast ▸ hmem
    have hbegun := hfirst.begun refresh hunderWay
    rw [hlast, hfirst.wanted_turns_iff hbegun between hstill]
    exact and_iff_right hwanted
  have hturn : (last.turn (.settle refresh findings)).tracker =
      (last.tracker.settle refresh.uri refresh.generation findings).1 := by
    simp [turn, hmem]
  rw [hturn, ← hrun, published, settle_wanted_or_not hcoherent findings hmem]
  by_cases hstillWanted : last.Wanted refresh
  · obtain ⟨hon, htext⟩ := hcoherent.current refresh hmem hstillWanted
    have htracked := hcoherent.tracked _ _ hstillWanted
    simp [hstillWanted, hon, htext, htracked]
  · simp [hstillWanted]

/-- Of two refreshes with the same text, the one that was begun before its
document was dropped and taken up again does not publish, and the other does. -/
theorem publishes_after_taken_up_again :
    let text := "realm = 'shared'"
    let run := [Turn.call (.init "m" text), .call (.delete "m"), .call (.init "m" text)]
    ((opened true).turns run).published ⟨"m", text, 1⟩ [] ≠ some [] ∧
      ((opened true).turns run).published ⟨"m", text, 2⟩ [] = some [] := by
  intro text run
  constructor
  · intro hpublishes
    have hnever := (publishes_iff_not_outdated true [] (.call (.init "m" text))
      [.call (.delete "m"), .call (.init "m" text)] ⟨"m", text, 1⟩ []
      ⟨by decide, by decide⟩ (by decide)).1.mp hpublishes
    exact hnever.1 (.inr (.inl rfl))
  · exact (publishes_iff_not_outdated true [.call (.init "m" text), .call (.delete "m")]
      (.call (.init "m" text)) [] ⟨"m", text, 2⟩ []
      ⟨by decide, by decide⟩ (by decide)).1.mpr trivial

end ManifestLint.Desk
