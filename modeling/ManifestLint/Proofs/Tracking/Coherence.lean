import ManifestLint.Proofs.Tracking.Desk

/-!
# Coherent desks

The generation of a document says which of its refreshes may still publish.
That this one refresh looks at the text that is tracked, and that the checks
are on, is nowhere tested: it has to follow from the way generations are drawn,
overwritten and removed.  `Coherent` is the invariant from which it follows,
and `coherent_turns` says that every run keeps it.

The two round trips that could fool a mere number are covered by `current`:
when a document is dropped and taken up again, and when the checks are switched
off and on, the generation found at the end was drawn later than any refresh
that was under way before.
-/

namespace ManifestLint.Desk

variable {desk : Desk}

/-- A refresh is wanted if its generation is the last one of its document. -/
def Wanted (desk : Desk) (refresh : UnderWay) : Prop :=
  desk.tracker.generations.get? refresh.uri = some refresh.generation

/-- What holds between any two turns. -/
structure Coherent (desk : Desk) : Prop where
  /-- All generations were drawn from the counter. -/
  drawn : ∀ uri generation, desk.tracker.generations.get? uri = some generation →
    generation ≤ desk.tracker.counter
  /-- Only tracked documents have a generation. -/
  tracked : ∀ uri generation, desk.tracker.generations.get? uri = some generation →
    desk.tracker.isTracked uri = true
  /-- All refreshes under way have drawn their generations. -/
  begun : ∀ refresh ∈ desk.underWay, refresh.generation ≤ desk.tracker.counter
  /-- No two refreshes under way have drawn the same one. -/
  distinct : (desk.underWay.map (·.generation)).Nodup
  /-- A wanted refresh looks at the tracked text, and the checks are on. -/
  current : ∀ refresh ∈ desk.underWay, desk.Wanted refresh →
    desk.tracker.enabled = true ∧
      desk.tracker.documents.get? refresh.uri = some refresh.text

theorem coherent_opened (enabled : Bool) : (opened enabled).Coherent where
  drawn _ _ hget := by cases hget
  tracked _ _ hget := by cases hget
  begun _ hmem := by cases hmem
  distinct := List.nodup_nil
  current _ hmem := by cases hmem

/-- Refreshes may end, and findings, notes and listeners may change at will. -/
theorem Coherent.thin (h : desk.Coherent) {after : Desk}
    (henabled : after.tracker.enabled = desk.tracker.enabled)
    (hdocuments : after.tracker.documents = desk.tracker.documents)
    (hgenerations : after.tracker.generations = desk.tracker.generations)
    (hcounter : after.tracker.counter = desk.tracker.counter)
    (hunderWay : after.underWay.Sublist desk.underWay) : after.Coherent := by
  refine ⟨?_, ?_, ?_, (hunderWay.map _).nodup h.distinct, ?_⟩
  · rw [hgenerations, hcounter]
    exact h.drawn
  · intro uri generation hget
    rw [hgenerations] at hget
    rw [Tracker.isTracked, hdocuments]
    exact h.tracked uri generation hget
  · intro refresh hmem
    rw [hcounter]
    exact h.begun refresh (hunderWay.subset hmem)
  · intro refresh hmem hwanted
    rw [Wanted, hgenerations] at hwanted
    rw [henabled, hdocuments]
    exact h.current refresh (hunderWay.subset hmem) hwanted

theorem Coherent.noted (h : desk.Coherent) (uri text : String) :
    (desk.note uri text).Coherent :=
  h.thin rfl rfl rfl rfl (List.Sublist.refl _)

theorem Coherent.unspawned (h : desk.Coherent) (uri text : String) :
    (desk.unspawn uri text).Coherent :=
  h.thin rfl rfl rfl rfl (List.Sublist.refl _)

/-- A start draws a new generation, so that older refreshes of the document are
not wanted any more. -/
theorem Coherent.bring (h : desk.Coherent) (uri text : String) :
    (desk.bring uri text).Coherent := by
  have hdocument := bring_document desk uri text
  have hgeneration := bring_generation desk uri text
  have hcounter := bring_counter desk uri text
  refine ⟨?_, ?_, ?_, ?_, ?_⟩
  · intro other generation hget
    rw [hgeneration] at hget
    split at hget
    · have := Option.some.inj hget
      omega
    · have := h.drawn other generation hget
      omega
  · intro other generation hget
    rw [hgeneration] at hget
    rw [Tracker.isTracked_iff, hdocument]
    split at hget
    · next hsame => exact ⟨text, if_pos hsame⟩
    · next hother =>
        rw [if_neg hother]
        exact (Tracker.isTracked_iff ..).mp (h.tracked other generation hget)
  · intro refresh hmem
    rcases mem_underWay_bring desk uri text hmem with hold | ⟨-, rfl⟩
    · have := h.begun refresh hold
      omega
    · exact Nat.le_of_eq hcounter.symm
  · obtain ⟨-, heq⟩ | ⟨-, heq⟩ := bring_cases desk uri text <;> rw [heq]
    · simp only [List.map_append, List.map_cons, List.map_nil]
      refine List.nodup_append.mpr ⟨h.distinct, by simp, ?_⟩
      intro generation hmem new hnew
      obtain ⟨refresh, hrefresh, rfl⟩ := List.mem_map.mp hmem
      have := h.begun refresh hrefresh
      have : new = desk.tracker.counter + 1 := List.mem_singleton.mp hnew
      omega
    · exact h.distinct
  · intro refresh hmem hwanted
    rw [Wanted, hgeneration] at hwanted
    rw [hdocument, bring_enabled]
    rcases mem_underWay_bring desk uri text hmem with hold | ⟨hon, rfl⟩
    · split at hwanted
      · -- an older refresh has drawn a lower number than the document has now
        have := h.begun refresh hold
        have := Option.some.inj hwanted
        omega
      · next hother =>
          rw [if_neg hother]
          exact h.current refresh hold hwanted
    · exact ⟨hon, if_pos rfl⟩

/-- A document that is dropped, or was not tracked, has no generation. -/
theorem Coherent.delete_generation (h : desk.Coherent) (uri : String) :
    (desk.tracker.delete uri).generations.get? uri = none := by
  cases htracked : desk.tracker.isTracked uri with
  | true => exact Tracker.delete_generation_self _ _ htracked
  | false =>
      rw [Tracker.delete_untracked _ _ htracked]
      refine Option.eq_none_iff_forall_ne_some.mpr fun generation hget => ?_
      exact Bool.false_ne_true (htracked.symm.trans (h.tracked _ _ hget))

theorem Coherent.delete (h : desk.Coherent) (uri : String) :
    (desk.call (.delete uri)).Coherent := by
  have hold : ∀ other generation,
      (desk.tracker.delete uri).generations.get? other = some generation →
      uri ≠ other ∧ desk.tracker.generations.get? other = some generation := by
    intro other generation hget
    by_cases hsame : uri = other
    · subst hsame
      rw [h.delete_generation] at hget
      cases hget
    · rw [Tracker.delete_generation _ _ _ hsame] at hget
      exact ⟨hsame, hget⟩
  refine ⟨?_, ?_, ?_, h.distinct, ?_⟩
  · intro other generation hget
    exact (Tracker.delete_counter ..).symm ▸ h.drawn _ _ (hold _ _ hget).2
  · intro other generation hget
    obtain ⟨hother, hget⟩ := hold other generation hget
    obtain ⟨text, htext⟩ := (Tracker.isTracked_iff ..).mp (h.tracked _ _ hget)
    refine (Tracker.isTracked_iff ..).mpr ⟨text, ?_⟩
    exact (Tracker.delete_document ..).trans ((if_neg hother).trans htext)
  · intro refresh hmem
    exact (Tracker.delete_counter ..).symm ▸ h.begun refresh hmem
  · intro refresh hmem hwanted
    obtain ⟨hother, hget⟩ := hold _ _ hwanted
    obtain ⟨hon, htext⟩ := h.current refresh hmem hget
    refine ⟨(Tracker.delete_enabled ..).trans hon, ?_⟩
    exact (Tracker.delete_document ..).trans ((if_neg hother).trans htext)

/-- Once the checks are off no refresh under way is wanted. -/
theorem Coherent.not_wanted_disable (h : desk.Coherent) {refresh : UnderWay}
    (hmem : refresh ∈ desk.underWay) :
    desk.tracker.disable.generations.get? refresh.uri ≠ some refresh.generation := by
  intro hget
  have hbegun := h.begun refresh hmem
  cases htracked : desk.tracker.isTracked refresh.uri with
  | true =>
      obtain ⟨generation, hnew, hlow, -⟩ :=
        desk.tracker.disable_generation refresh.uri htracked
      have := Option.some.inj (hnew.symm.trans hget)
      omega
  | false =>
      rw [Tracker.disable_generation_untracked _ _ htracked] at hget
      exact Bool.false_ne_true (htracked.symm.trans (h.tracked _ _ hget))

theorem Coherent.disable (h : desk.Coherent) :
    (desk.call (.setEnabled false)).Coherent := by
  refine ⟨?_, ?_, ?_, h.distinct, ?_⟩
  · intro uri generation hget
    cases htracked : desk.tracker.isTracked uri with
    | true =>
        obtain ⟨new, hnew, -, hhigh⟩ := desk.tracker.disable_generation uri htracked
        exact Option.some.inj (hnew.symm.trans hget) ▸ hhigh
    | false =>
        have hget : desk.tracker.disable.generations.get? uri = some generation := hget
        rw [Tracker.disable_generation_untracked _ _ htracked] at hget
        exact Nat.le_trans (h.drawn _ _ hget) (Tracker.counter_le_disable _)
  · intro uri generation hget
    show desk.tracker.disable.isTracked uri = true
    rw [Tracker.isTracked, Tracker.disable_documents]
    cases htracked : desk.tracker.isTracked uri with
    | true => exact htracked
    | false =>
        have hget : desk.tracker.disable.generations.get? uri = some generation := hget
        rw [Tracker.disable_generation_untracked _ _ htracked] at hget
        exact absurd (h.tracked _ _ hget) (by simp [htracked])
  · intro refresh hmem
    exact Nat.le_trans (h.begun refresh hmem) (Tracker.counter_le_disable _)
  · intro refresh hmem hwanted
    exact absurd hwanted (h.not_wanted_disable hmem)

theorem Coherent.enable (h : desk.Coherent) :
    (desk.call (.setEnabled true)).Coherent :=
  ⟨h.drawn, h.tracked, h.begun, h.distinct,
    fun refresh hmem hwanted => ⟨rfl, (h.current refresh hmem hwanted).2⟩⟩

/-- Every turn keeps a desk coherent. -/
theorem Coherent.turn (h : desk.Coherent) (next : Turn) : (desk.turn next).Coherent := by
  have hdoes := desk.does_turn next
  generalize desk.turn next = after at hdoes
  cases hdoes with
  | init => exact (h.noted _ _).bring _ _
  | refresh => exact (h.noted _ _).bring _ _
  | begin => exact (h.unspawned _ _).bring _ _
  | lapse => exact h.unspawned _ _
  | delete => exact h.delete _
  | enable => exact h.enable
  | disable => exact h.disable
  | spawn => exact h.thin rfl rfl rfl rfl (List.Sublist.refl _)
  | addListener => exact h.thin rfl rfl rfl rfl (List.Sublist.refl _)
  | removeListener => exact h.thin rfl rfl rfl rfl (List.Sublist.refl _)
  | @settle refresh findings =>
      obtain ⟨henabled, hdocuments, hgenerations, hcounter⟩ :=
        desk.tracker.settle_frame refresh.uri findings refresh.generation
      exact h.thin henabled hdocuments hgenerations hcounter List.erase_sublist
  | fail => exact h.thin rfl rfl rfl rfl List.erase_sublist
  | idle => exact h

/-- Every run keeps a desk coherent. -/
theorem Coherent.turns (h : desk.Coherent) (run : List Turn) :
    (desk.turns run).Coherent :=
  turns_induction (p := Coherent) (fun _ next hdesk => hdesk.turn next) run desk h

theorem coherent_turns (enabled : Bool) (run : List Turn) :
    ((opened enabled).turns run).Coherent :=
  (coherent_opened enabled).turns run

/-! ## Settling at a coherent desk -/

/-- For a refresh under way the last test says no more than that it is wanted. -/
theorem Coherent.isCurrent_iff_wanted (h : desk.Coherent) {refresh : UnderWay}
    (hmem : refresh ∈ desk.underWay) :
    desk.tracker.isCurrent refresh.uri refresh.generation = true ↔ desk.Wanted refresh := by
  rw [Tracker.isCurrent_iff]
  constructor
  · exact fun hcurrent => hcurrent.2.2
  · intro hwanted
    exact ⟨(h.current refresh hmem hwanted).1, h.tracked _ _ hwanted, hwanted⟩

/-- Settling a refresh either publishes its findings or leaves the tracker alone. -/
theorem settle_wanted_or_not (h : desk.Coherent) {refresh : UnderWay}
    (findings : List Finding) (hmem : refresh ∈ desk.underWay) :
    desk.tracker.settle refresh.uri refresh.generation findings =
      open Classical in
      if desk.Wanted refresh then (desk.tracker.publish refresh.uri findings, some findings)
      else (desk.tracker, none) := by
  split
  · next hwanted =>
      exact Tracker.settle_current _ _ _ _ ((h.isCurrent_iff_wanted hmem).mpr hwanted)
  · next hunwanted =>
      refine Tracker.settle_outdated _ _ _ _ (Bool.eq_false_iff.mpr fun hcurrent => ?_)
      exact hunwanted ((h.isCurrent_iff_wanted hmem).mp hcurrent)

end ManifestLint.Desk
