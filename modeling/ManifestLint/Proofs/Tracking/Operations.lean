import ManifestLint.Tracking.Tracker

/-!
# What the operations of a tracker change

A tracker has four things to keep apart: the texts it tracks, the generations
of the last refreshes, the findings published last, and whether the checks are
on.  Each operation touches few of them.  The lemmas here say which, so that
the theorems about runs never open an operation again.

Generations are drawn from one counter.  A number that was drawn once is
therefore never drawn again, and this is what makes a generation a mark of one
single refresh.
-/

namespace ManifestLint.Tracker

variable (tracker : Tracker) (uri text : String) (findings : List Finding)

theorem isTracked_iff :
    tracker.isTracked uri = true ↔ ∃ text, tracker.documents.get? uri = some text := by
  simp only [isTracked, Entries.has, Option.isSome_iff_exists]

theorem isTracked_eq_false_iff :
    tracker.isTracked uri = false ↔ tracker.documents.get? uri = none := by
  simp [isTracked, Entries.has]

/-! ## Publications -/

/-- A publication replaces the findings of its own document and no others. -/
theorem findingsOf_publish (other : String) :
    (tracker.publish uri findings).findingsOf other =
      if uri = other then findings else tracker.findingsOf other := by
  cases findings with
  | nil =>
      by_cases hsame : uri = other <;>
        simp [findingsOf, publish, Entries.get?_erase, hsame]
  | cons first rest =>
      by_cases hsame : uri = other <;>
        simp [findingsOf, publish, Entries.get?_put, hsame]

/-! ## Refreshes -/

/-- The tracker after a refresh of a document with a text was counted. -/
def counted : Tracker := (tracker.track uri text).nextGeneration uri

theorem counted_generation (other : String) :
    (tracker.counted uri text).generations.get? other =
      if uri = other then some (tracker.counter + 1)
      else tracker.generations.get? other :=
  Entries.get?_put ..

/-- It makes no difference whether the document was just taken up. -/
theorem counted_track :
    (tracker.track uri text).counted uri text = tracker.counted uri text := by
  simp only [counted, track, Entries.put_put]

theorem refresh_untracked (huntracked : tracker.isTracked uri = false) :
    tracker.refresh uri text = (tracker, .untracked) := by
  simp [refresh, huntracked]

theorem refresh_on (htracked : tracker.isTracked uri = true)
    (hon : tracker.enabled = true) :
    tracker.refresh uri text =
      (tracker.counted uri text, .started (tracker.counter + 1)) := by
  have hcounted : ((tracker.track uri text).nextGeneration uri).enabled = true := hon
  simp only [refresh, htracked, hcounted, if_true]
  rfl

theorem refresh_off (htracked : tracker.isTracked uri = true)
    (hoff : tracker.enabled = false) :
    tracker.refresh uri text =
      ((tracker.counted uri text).publish uri [], .cleared) := by
  have hcounted : ((tracker.track uri text).nextGeneration uri).enabled = false := hoff
  simp only [refresh, htracked, hcounted, if_true]
  rfl

/-- The ways in which a refresh starts. -/
theorem refresh_cases :
    tracker.refresh uri text = (tracker, .untracked) ∨
      tracker.refresh uri text = ((tracker.counted uri text).publish uri [], .cleared) ∨
      tracker.refresh uri text =
        (tracker.counted uri text, .started (tracker.counted uri text).counter) := by
  cases htracked : tracker.isTracked uri with
  | false => exact .inl (refresh_untracked _ _ _ htracked)
  | true =>
      cases hon : tracker.enabled with
      | false => exact .inr (.inl (refresh_off _ _ _ htracked hon))
      | true => exact .inr (.inr (refresh_on _ _ _ htracked hon))

/-! ## Removals -/

theorem delete_untracked (huntracked : tracker.isTracked uri = false) :
    tracker.delete uri = tracker := by
  simp [delete, huntracked]

/-- The tracker without a document that it tracked, before anyone is told. -/
def dropped : Tracker :=
  { tracker with
    documents := tracker.documents.erase uri
    generations := tracker.generations.erase uri }

theorem delete_tracked (htracked : tracker.isTracked uri = true) :
    tracker.delete uri = (tracker.dropped uri).publish uri [] := by
  simp [delete, htracked, dropped]

/-- Nothing but the dropped document is touched. -/
theorem delete_document (other : String) :
    (tracker.delete uri).documents.get? other =
      if uri = other then none else tracker.documents.get? other := by
  cases htracked : tracker.isTracked uri with
  | false =>
      rw [delete_untracked _ _ htracked]
      split
      · next hsame => exact hsame ▸ (tracker.isTracked_eq_false_iff uri).mp htracked
      · rfl
  | true =>
      rw [delete_tracked _ _ htracked]
      exact Entries.get?_erase ..

theorem nodup_keys_delete (hunique : (Entries.keys tracker.documents).Nodup) :
    (Entries.keys (tracker.delete uri).documents).Nodup := by
  unfold delete
  split
  · exact Entries.nodup_keys_erase _ _ hunique
  · exact hunique

@[simp] theorem delete_enabled : (tracker.delete uri).enabled = tracker.enabled := by
  unfold delete
  split <;> rfl

@[simp] theorem delete_counter : (tracker.delete uri).counter = tracker.counter := by
  unfold delete
  split <;> rfl

/-- A document that is dropped loses its generation, the others keep theirs. -/
theorem delete_generation (other : String) (hother : uri ≠ other) :
    (tracker.delete uri).generations.get? other = tracker.generations.get? other := by
  cases htracked : tracker.isTracked uri with
  | false => rw [delete_untracked _ _ htracked]
  | true =>
      rw [delete_tracked _ _ htracked]
      exact (Entries.get?_erase ..).trans (if_neg hother)

theorem delete_generation_self (htracked : tracker.isTracked uri = true) :
    (tracker.delete uri).generations.get? uri = none := by
  rw [delete_tracked _ _ htracked]
  exact (Entries.get?_erase ..).trans (if_pos rfl)

theorem delete_findingsOf (other : String) (hother : uri ≠ other) :
    (tracker.delete uri).findingsOf other = tracker.findingsOf other := by
  cases htracked : tracker.isTracked uri with
  | false => rw [delete_untracked _ _ htracked]
  | true =>
      rw [delete_tracked _ _ htracked, findingsOf_publish, if_neg hother]
      rfl

/-! ## Switching the checks off -/

/-- Outdates the refreshes of some documents and publishes them without findings. -/
def outdate (tracker : Tracker) (uris : List String) : Tracker :=
  uris.foldl (fun tracker uri => (tracker.nextGeneration uri).publish uri []) tracker

theorem disable_eq :
    tracker.disable = { tracker with enabled := false }.outdate tracker.documents.keys := rfl

@[simp] theorem outdate_documents (uris : List String) :
    (tracker.outdate uris).documents = tracker.documents := by
  induction uris generalizing tracker with
  | nil => rfl
  | cons first rest ih => exact ih _

@[simp] theorem outdate_enabled (uris : List String) :
    (tracker.outdate uris).enabled = tracker.enabled := by
  induction uris generalizing tracker with
  | nil => rfl
  | cons first rest ih => exact ih _

theorem counter_le_outdate (uris : List String) :
    tracker.counter ≤ (tracker.outdate uris).counter := by
  induction uris generalizing tracker with
  | nil => exact Nat.le_refl _
  | cons first rest ih =>
      let next := (tracker.nextGeneration first).publish first []
      exact Nat.le_trans (Nat.le_succ tracker.counter) (ih next)

/-- Documents that are not named keep their generation. -/
theorem outdate_generation_other (uris : List String) (huri : uri ∉ uris) :
    (tracker.outdate uris).generations.get? uri = tracker.generations.get? uri := by
  induction uris generalizing tracker with
  | nil => rfl
  | cons first rest ih =>
      have hfirst : ¬ first = uri := fun hsame => huri (hsame ▸ List.mem_cons_self)
      have hrest : uri ∉ rest := fun hmem => huri (List.mem_cons_of_mem _ hmem)
      exact (ih _ hrest).trans ((Entries.get?_put ..).trans (if_neg hfirst))

/-- Documents that are named get a generation above all that were drawn before. -/
theorem outdate_generation (uris : List String) (huri : uri ∈ uris) :
    ∃ generation, (tracker.outdate uris).generations.get? uri = some generation ∧
      tracker.counter < generation ∧ generation ≤ (tracker.outdate uris).counter := by
  induction uris generalizing tracker with
  | nil => cases huri
  | cons first rest ih =>
      let next := (tracker.nextGeneration first).publish first []
      have hnext : next.counter = tracker.counter + 1 := rfl
      by_cases hrest : uri ∈ rest
      · obtain ⟨generation, hget, hlow, hhigh⟩ := ih next hrest
        exact ⟨generation, hget, by omega, hhigh⟩
      · obtain rfl : uri = first := (List.mem_cons.mp huri).resolve_right hrest
        refine ⟨tracker.counter + 1, ?_, by omega, ?_⟩
        · have hget := outdate_generation_other next uri rest hrest
          exact hget.trans ((Entries.get?_put ..).trans (if_pos rfl))
        · exact hnext ▸ counter_le_outdate next rest

@[simp] theorem disable_documents : tracker.disable.documents = tracker.documents := by
  rw [disable_eq, outdate_documents]

@[simp] theorem disable_enabled : tracker.disable.enabled = false := by
  rw [disable_eq, outdate_enabled]

theorem counter_le_disable : tracker.counter ≤ tracker.disable.counter :=
  counter_le_outdate { tracker with enabled := false } _

theorem disable_generation (htracked : tracker.isTracked uri = true) :
    ∃ generation, tracker.disable.generations.get? uri = some generation ∧
      tracker.counter < generation ∧ generation ≤ tracker.disable.counter :=
  outdate_generation { tracker with enabled := false } uri _
    ((Entries.mem_keys_iff ..).mpr htracked)

theorem disable_generation_untracked (huntracked : tracker.isTracked uri = false) :
    tracker.disable.generations.get? uri = tracker.generations.get? uri := by
  refine outdate_generation_other { tracker with enabled := false } uri _ fun hmem => ?_
  have htracked := (Entries.mem_keys_iff ..).mp hmem
  exact Bool.false_ne_true (huntracked.symm.trans htracked)

/-! ## Settling -/

theorem settle_current (generation : Nat)
    (hcurrent : tracker.isCurrent uri generation = true) :
    tracker.settle uri generation findings =
      (tracker.publish uri findings, some findings) := by
  simp [settle, hcurrent]

theorem settle_outdated (generation : Nat)
    (houtdated : tracker.isCurrent uri generation = false) :
    tracker.settle uri generation findings = (tracker, none) := by
  simp [settle, houtdated]

/-- Settling changes findings only. -/
theorem settle_frame (generation : Nat) :
    let after := (tracker.settle uri generation findings).1
    after.enabled = tracker.enabled ∧ after.documents = tracker.documents ∧
      after.generations = tracker.generations ∧ after.counter = tracker.counter := by
  unfold settle
  split <;> exact ⟨rfl, rfl, rfl, rfl⟩

theorem isCurrent_iff (generation : Nat) :
    tracker.isCurrent uri generation = true ↔
      tracker.enabled = true ∧ tracker.isTracked uri = true ∧
        tracker.generations.get? uri = some generation := by
  simp [isCurrent, and_assoc]

/-- A refresh that has just been counted is wanted if the checks are on. -/
theorem isCurrent_counted (hon : tracker.enabled = true) :
    (tracker.counted uri text).isCurrent uri (tracker.counter + 1) = true := by
  rw [isCurrent_iff, counted_generation, if_pos rfl]
  refine ⟨hon, (isTracked_iff ..).mpr ⟨text, ?_⟩, rfl⟩
  rw [counted, track, nextGeneration, Entries.get?_put, if_pos rfl]

end ManifestLint.Tracker
