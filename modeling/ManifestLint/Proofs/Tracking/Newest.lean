import ManifestLint.Proofs.Tracking.Publication

/-!
# Which text is tracked in the end

A refresh of all documents is spawned with the texts that the documents have
when it is asked for, and it begins later.  If a caller brings a newer text in
between, the spawned refresh puts the older one back.

`PutsBack` is the one kind of turn by which a tracked text ceases to be the
newest: `UpToDate.turn_iff` says so for a turn, `UpToDate.throughout_iff` for a
whole run.  No turn is of this kind as long as no caller brings another text
while a spawned refresh of the document waits (`upToDate_of_never_overtakes`).
-/

namespace ManifestLint.Desk

variable {desk : Desk}

/-- Every tracked text is the one that a caller brought last. -/
def UpToDate (desk : Desk) : Prop :=
  ∀ uri, desk.tracker.documents.get? uri = desk.newest.get? uri

/-- A spawned refresh begins with another text than the one a caller brought
last. -/
def PutsBack (desk : Desk) : Turn → Prop
  | .begin uri text =>
    (uri, text) ∈ desk.spawned ∧ desk.tracker.isTracked uri = true ∧
      desk.newest.get? uri ≠ some text
  | _ => False

theorem upToDate_opened (enabled : Bool) : (opened enabled).UpToDate := fun _ => rfl

/-! ## The tracked text -/

/-- A call that brings a text leaves the desk up to date. -/
theorem UpToDate.bring_note (h : desk.UpToDate) (uri text : String) :
    ((desk.note uri text).bring uri text).UpToDate := by
  intro other
  have hnewest : (desk.note uri text).newest.get? other =
      if uri = other then some text else desk.newest.get? other := Entries.get?_put ..
  rw [bring_document, bring_newest, hnewest]
  split
  · rfl
  · exact h other

/-- A spawned refresh that begins leaves the desk up to date only if it brings
the newest text. -/
theorem UpToDate.bring_unspawn_iff (h : desk.UpToDate) (uri text : String) :
    ((desk.unspawn uri text).bring uri text).UpToDate ↔ desk.newest.get? uri = some text := by
  have hdocument := bring_document (desk.unspawn uri text) uri text
  constructor
  · intro hafter
    have huri := hafter uri
    rw [hdocument, if_pos rfl, bring_newest] at huri
    exact huri.symm
  · intro hnewest other
    rw [hdocument, bring_newest]
    split
    · next hsame => exact hsame ▸ hnewest.symm
    · exact h other

/-- **One turn.**  A desk stays up to date unless a spawned refresh puts an
older text back. -/
theorem UpToDate.turn_iff (h : desk.UpToDate) (next : Turn) :
    (desk.turn next).UpToDate ↔ ¬ desk.PutsBack next := by
  have hdoes := desk.does_turn next
  generalize desk.turn next = after at hdoes
  cases hdoes with
  | @init uri text => exact iff_of_true (h.bring_note uri text) id
  | @refresh uri text => exact iff_of_true (h.bring_note uri text) id
  | @begin uri text hspawned htracked =>
      rw [h.bring_unspawn_iff]
      simp [PutsBack, hspawned, htracked]
  | lapse hspawned huntracked =>
      refine iff_of_true h ?_
      simp [PutsBack, huntracked]
  | @delete uri =>
      refine iff_of_true (fun other => ?_) id
      have hnewest : (desk.call (.delete uri)).newest.get? other =
          if uri = other then none else desk.newest.get? other := Entries.get?_erase ..
      rw [hnewest, ← h other]
      exact Tracker.delete_document ..
  | disable =>
      refine iff_of_true (fun other => ?_) id
      exact (congrArg (·.get? other) desk.tracker.disable_documents).trans (h other)
  | @settle refresh findings =>
      obtain ⟨-, hdocuments, -, -⟩ :=
        desk.tracker.settle_frame refresh.uri findings refresh.generation
      refine iff_of_true (fun other => ?_) id
      exact (congrArg (·.get? other) hdocuments).trans (h other)
  | idle hidle =>
      refine iff_of_true h ?_
      cases next with
      | begin uri text =>
          rintro ⟨hspawned, htracked, -⟩
          exact hidle uri (.inl ⟨rfl, hspawned, htracked⟩)
      | _ => exact id
  | _ => exact iff_of_true h id

/-- **A whole run.**  Every tracked text is the newest one throughout if and
only if no spawned refresh puts an older text back. -/
theorem UpToDate.throughout_iff (h : desk.UpToDate) (run : List Turn) :
    desk.Throughout UpToDate run ↔ desk.Never PutsBack run := by
  induction run generalizing desk with
  | nil => simpa [Throughout, Never] using h
  | cons next rest ih =>
      simp only [Throughout, Never, h, true_and]
      by_cases hback : desk.PutsBack next
      · refine iff_of_false (fun hrest => ?_) (fun hnever => hnever.1 hback)
        exact (h.turn_iff next).mp hrest.head hback
      · rw [ih ((h.turn_iff next).mpr hback)]
        simp [hback]

/-! ## When nothing is put back -/

/-- A call brings a text while a spawned refresh of the document waits with
another one. -/
def Overtakes (desk : Desk) : Turn → Prop
  | .call (.init uri text) =>
    desk.tracker.isTracked uri = false ∧ ∃ other ≠ text, (uri, other) ∈ desk.spawned
  | .call (.refresh uri text) =>
    desk.tracker.isTracked uri = true ∧ ∃ other ≠ text, (uri, other) ∈ desk.spawned
  | _ => False

/-- The desk is up to date, and so are the refreshes that wait. -/
structure InStep (desk : Desk) : Prop where
  upToDate : desk.UpToDate
  /-- No document is tracked twice. -/
  unique : (Entries.keys desk.tracker.documents).Nodup
  /-- A spawned refresh of a tracked document has the newest text. -/
  waiting : ∀ pair ∈ desk.spawned, desk.tracker.isTracked pair.1 = true →
    desk.newest.get? pair.1 = some pair.2

theorem inStep_opened (enabled : Bool) : (opened enabled).InStep where
  upToDate := upToDate_opened enabled
  unique := List.nodup_nil
  waiting _ hmem := by cases hmem

theorem InStep.not_putsBack (h : desk.InStep) (next : Turn) : ¬ desk.PutsBack next := by
  cases next with
  | begin uri text =>
      rintro ⟨hspawned, htracked, hnewest⟩
      exact hnewest (h.waiting _ hspawned htracked)
  | _ => exact id

/-- Refreshes that are spawned at a desk that is in step wait with the newest texts. -/
theorem InStep.waiting_spawnAll (h : desk.InStep) :
    ∀ pair ∈ desk.spawnAll.spawned, desk.tracker.isTracked pair.1 = true →
      desk.newest.get? pair.1 = some pair.2 := by
  intro pair hmem htracked
  rcases List.mem_append.mp hmem with hold | hnew
  · exact h.waiting pair hold htracked
  · rw [← h.upToDate pair.1]
    exact Entries.get?_of_mem _ h.unique hnew

/-- A call that overtakes no waiting refresh keeps the desk in step. -/
theorem InStep.bring_note (h : desk.InStep) (uri text : String)
    (hwaiting : ∀ other ≠ text, (uri, other) ∉ desk.spawned) :
    ((desk.note uri text).bring uri text).InStep := by
  refine ⟨h.upToDate.bring_note uri text, ?_, ?_⟩
  · rw [bring_documents]
    exact Entries.nodup_keys_put _ _ _ h.unique
  · intro pair hmem htracked
    rw [bring_spawned] at hmem
    rw [bring_newest]
    refine (Entries.get?_put ..).trans ?_
    split
    · next hsame =>
        refine congrArg some (Decidable.byContradiction fun hother => ?_)
        refine hwaiting pair.2 (fun heq => hother heq.symm) ?_
        exact hsame ▸ hmem
    · next hother =>
        rw [isTracked_bring_other _ _ _ _ hother] at htracked
        exact h.waiting pair hmem htracked

/-- **One turn.**  A turn that overtakes no waiting refresh keeps the desk in step. -/
theorem InStep.turn (h : desk.InStep) (next : Turn) (hnot : ¬ desk.Overtakes next) :
    (desk.turn next).InStep := by
  have hupToDate := (h.upToDate.turn_iff next).mpr (h.not_putsBack next)
  have hdoes := desk.does_turn next
  generalize desk.turn next = after at hdoes hupToDate
  cases hdoes with
  | @init uri text huntracked =>
      refine h.bring_note uri text fun other hother hmem => hnot ?_
      exact ⟨huntracked, other, hother, hmem⟩
  | @refresh uri text htracked =>
      refine h.bring_note uri text fun other hother hmem => hnot ?_
      exact ⟨htracked, other, hother, hmem⟩
  | @begin uri text hspawned htracked =>
      have hnewest := h.waiting _ hspawned htracked
      refine ⟨hupToDate, ?_, fun pair hmem htrackedAfter => ?_⟩
      · rw [bring_documents]
        exact Entries.nodup_keys_put _ _ _ h.unique
      · rw [bring_spawned] at hmem
        rw [bring_newest]
        have hmem : pair ∈ desk.spawned := List.mem_of_mem_erase hmem
        by_cases hsame : uri = pair.1
        · exact h.waiting pair hmem (hsame ▸ htracked)
        · rw [isTracked_bring_other _ _ _ _ hsame] at htrackedAfter
          exact h.waiting pair hmem htrackedAfter
  | lapse =>
      refine ⟨hupToDate, h.unique, fun pair hmem htracked => ?_⟩
      exact h.waiting pair (List.mem_of_mem_erase hmem) htracked
  | @delete uri =>
      refine ⟨hupToDate, ?_, fun pair hmem htracked => ?_⟩
      · exact desk.tracker.nodup_keys_delete uri h.unique
      · obtain ⟨text, htext⟩ := (Tracker.isTracked_iff ..).mp htracked
        replace htext := (desk.tracker.delete_document uri pair.1).symm.trans htext
        refine (Entries.get?_erase ..).trans ?_
        split at htext
        · cases htext
        · next hother =>
            rw [if_neg hother]
            exact h.waiting pair hmem ((Tracker.isTracked_iff ..).mpr ⟨text, htext⟩)
  | disable =>
      refine ⟨hupToDate, ?_, fun pair hmem htracked => ?_⟩
      · exact desk.tracker.disable_documents ▸ h.unique
      · refine h.waiting pair hmem (htracked ▸ ?_)
        exact congrArg (·.has pair.1) desk.tracker.disable_documents.symm
  | @settle refresh findings =>
      obtain ⟨-, hdocuments, -, -⟩ :=
        desk.tracker.settle_frame refresh.uri findings refresh.generation
      refine ⟨hupToDate, ?_, fun pair hmem htracked => ?_⟩
      · exact hdocuments ▸ h.unique
      · refine h.waiting pair hmem (htracked ▸ ?_)
        exact congrArg (·.has pair.1) hdocuments.symm
  | enable => exact ⟨hupToDate, h.unique, h.waiting_spawnAll⟩
  | spawn => exact ⟨hupToDate, h.unique, h.waiting_spawnAll⟩
  | addListener => exact ⟨hupToDate, h.unique, h.waiting⟩
  | removeListener => exact ⟨hupToDate, h.unique, h.waiting⟩
  | fail => exact ⟨hupToDate, h.unique, h.waiting⟩
  | idle => exact h

/-- **A whole run.**  Nothing is put back unless a call overtakes a waiting
refresh. -/
theorem InStep.never_putsBack (h : desk.InStep) (run : List Turn)
    (hnever : desk.Never Overtakes run) : desk.Never PutsBack run := by
  induction run generalizing desk with
  | nil => exact trivial
  | cons next rest ih => exact ⟨h.not_putsBack next, ih (h.turn next hnever.1) hnever.2⟩

/-- As long as no call overtakes a waiting refresh, every tracked text is the
newest one. -/
theorem upToDate_of_never_overtakes (enabled : Bool) (run : List Turn)
    (hnever : (opened enabled).Never Overtakes run) :
    (opened enabled).Throughout UpToDate run := by
  have hback := (inStep_opened enabled).never_putsBack run hnever
  exact ((upToDate_opened enabled).throughout_iff run).mpr hback

end ManifestLint.Desk
