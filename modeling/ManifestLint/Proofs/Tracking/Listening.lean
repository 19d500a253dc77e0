import Mathlib.Algebra.BigOperators.Group.Finset.Basic
import ManifestLint.Proofs.Tracking.Desk

/-!
# What listeners have heard

Findings are stored in one place and told to listeners in another, and nothing
compares the two afterwards.  That they agree is a matter of discipline: every
change of what is stored is a publication, every publication is delivered, and
what is published is either nothing, or findings of a tracked document while
the checks are on.

* `Orderly` is what this discipline leaves in a tracker between two turns.
* `Hears` says that what a listener was told last is what is stored.  Every
  turn keeps it as long as the listener is there (`Hears.turn`).
* `stored_and_heard` puts both together over every run, with the counts, which
  are taken from the stored findings and not from the tracked documents.

Listeners only listen: they do not call back, and they do not raise.
-/

namespace ManifestLint

/-! ## Adding up counts -/

namespace Summary

instance : Zero Summary := ⟨{}⟩

theorem add_def (a b : Summary) :
    a + b = ⟨a.errors + b.errors, a.warnings + b.warnings, a.upgrades + b.upgrades,
      a.total + b.total⟩ := rfl

theorem zero_def : (0 : Summary) = ⟨0, 0, 0, 0⟩ := rfl

instance : AddCommMonoid Summary where
  add_assoc a b c := by simp only [add_def, Nat.add_assoc]
  zero_add a := by simp only [add_def, zero_def, Nat.zero_add]
  add_zero a := by simp only [add_def, zero_def, Nat.add_zero]
  add_comm a b := by
    simp only [add_def, Nat.add_comm a.errors, Nat.add_comm a.warnings,
      Nat.add_comm a.upgrades, Nat.add_comm a.total]
  nsmul := nsmulRec

end Summary

namespace Tracker

variable (tracker : Tracker) (uri : String) (findings : List Finding)

/-! ## What is stored -/

/-- Whether findings of a document are stored. -/
def stores (tracker : Tracker) (uri : String) : Bool := tracker.findings.has uri

/-- Only a publication that is not empty stores anything. -/
theorem stores_publish (other : String) :
    (tracker.publish uri findings).stores other =
      if uri = other then !findings.isEmpty else tracker.stores other := by
  cases findings with
  | nil =>
      by_cases hsame : uri = other <;>
        simp [stores, publish, Entries.has, Entries.get?_erase, hsame]
  | cons first rest =>
      by_cases hsame : uri = other <;>
        simp [stores, publish, Entries.has, Entries.get?_put, hsame]

theorem findingsOf_of_not_stores (hstores : tracker.stores uri = false) :
    tracker.findingsOf uri = [] := by
  have hget : tracker.findings.get? uri = none := by simpa [stores, Entries.has] using hstores
  simp [findingsOf, hget]

/-- What every operation leaves behind. -/
structure Orderly (tracker : Tracker) : Prop where
  /-- No document is tracked twice. -/
  documents : (Entries.keys tracker.documents).Nodup
  /-- No document has its findings stored twice. -/
  findings : (Entries.keys tracker.findings).Nodup
  /-- Findings are stored for tracked documents only. -/
  tracked : ∀ uri, tracker.stores uri = true → tracker.isTracked uri = true
  /-- Nothing is stored while the checks are off. -/
  off : tracker.enabled = false → ∀ uri, tracker.stores uri = false

variable {tracker}

/-- Generations, listeners and deliveries do not matter here. -/
theorem Orderly.of_eq (h : tracker.Orderly) {after : Tracker}
    (hdocuments : after.documents = tracker.documents)
    (hfindings : after.findings = tracker.findings)
    (henabled : after.enabled = false → tracker.enabled = false) : after.Orderly := by
  refine ⟨hdocuments ▸ h.documents, hfindings ▸ h.findings, ?_, ?_⟩
  · intro uri hstores
    rw [stores, hfindings] at hstores
    rw [isTracked, hdocuments]
    exact h.tracked uri hstores
  · intro hoff uri
    rw [stores, hfindings]
    exact h.off (henabled hoff) uri

theorem Orderly.nodup_keys_publish (h : tracker.Orderly) (uri : String)
    (findings : List Finding) :
    (Entries.keys (tracker.publish uri findings).findings).Nodup := by
  unfold publish
  split
  · exact Entries.nodup_keys_erase _ _ h.findings
  · exact Entries.nodup_keys_put _ _ _ h.findings

/-- Findings may be published of a tracked document while the checks are on. -/
theorem Orderly.publish (h : tracker.Orderly) {uri : String} (findings : List Finding)
    (htracked : tracker.isTracked uri = true) (hon : tracker.enabled = true) :
    (tracker.publish uri findings).Orderly := by
  refine ⟨h.documents, h.nodup_keys_publish uri findings, ?_, ?_⟩
  · intro other hstores
    rw [stores_publish] at hstores
    split at hstores
    · next hsame => exact hsame ▸ htracked
    · exact h.tracked other hstores
  · intro hoff
    exact absurd (hon.symm.trans hoff) (by decide)

/-- That a document has no findings may be published at any time. -/
theorem Orderly.clear (h : tracker.Orderly) (uri : String) :
    (tracker.publish uri []).Orderly := by
  have hless : ∀ other, (tracker.publish uri []).stores other = true →
      tracker.stores other = true := by
    intro other hstores
    rw [stores_publish] at hstores
    split at hstores
    · cases hstores
    · exact hstores
  refine ⟨h.documents, h.nodup_keys_publish uri [], fun other => h.tracked other ∘ hless other, ?_⟩
  intro hoff other
  cases hstores : (tracker.publish uri []).stores other with
  | false => rfl
  | true => exact (hless other hstores).symm.trans (h.off hoff other)

theorem Orderly.counted (h : tracker.Orderly) (uri text : String) :
    (tracker.counted uri text).Orderly := by
  refine ⟨Entries.nodup_keys_put _ _ _ h.documents, h.findings, ?_, h.off⟩
  intro other hstores
  obtain ⟨old, hold⟩ := (isTracked_iff ..).mp (h.tracked other hstores)
  rw [isTracked_iff]
  simp only [Tracker.counted, nextGeneration, track, Entries.get?_put]
  by_cases hsame : uri = other
  · exact ⟨text, if_pos hsame⟩
  · exact ⟨old, (if_neg hsame).trans hold⟩

/-- The findings go with the document. -/
theorem Orderly.delete (h : tracker.Orderly) (uri : String) : (tracker.delete uri).Orderly := by
  cases htracked : tracker.isTracked uri with
  | false =>
      rw [delete_untracked _ _ htracked]
      exact h
  | true =>
      have hstores (other : String) : (tracker.delete uri).stores other =
          if uri = other then false else tracker.stores other := by
        rw [delete_tracked _ _ htracked, stores_publish]
        rfl
      refine ⟨tracker.nodup_keys_delete uri h.documents, ?_, ?_, ?_⟩
      · rw [delete_tracked _ _ htracked]
        exact Entries.nodup_keys_erase _ _ h.findings
      · intro other hother
        rw [hstores] at hother
        split at hother
        · cases hother
        · next hdifferent =>
            obtain ⟨text, htext⟩ := (isTracked_iff ..).mp (h.tracked other hother)
            refine (isTracked_iff ..).mpr ⟨text, ?_⟩
            rw [delete_document, if_neg hdifferent, htext]
      · intro hoff other
        rw [delete_enabled] at hoff
        rw [hstores]
        split
        · rfl
        · exact h.off hoff other

/-- Of the documents that are outdated nothing stays stored. -/
theorem stores_outdate (uris : List String) (other : String) :
    (tracker.outdate uris).stores other = true ↔ tracker.stores other = true ∧ other ∉ uris := by
  induction uris generalizing tracker with
  | nil => simp [outdate]
  | cons first rest ih =>
      let next := (tracker.nextGeneration first).publish first []
      have hfirst : next.stores other = if first = other then false else tracker.stores other := by
        rw [stores_publish]
        rfl
      have hrest : (next.outdate rest).stores other = true ↔
          next.stores other = true ∧ other ∉ rest := ih
      refine hrest.trans ?_
      rw [hfirst]
      by_cases hsame : first = other
      · simp [hsame]
      · simp [hsame, Ne.symm hsame]

theorem nodup_keys_outdate (uris : List String) (hnodup : (Entries.keys tracker.findings).Nodup) :
    (Entries.keys (tracker.outdate uris).findings).Nodup := by
  induction uris generalizing tracker with
  | nil => exact hnodup
  | cons first rest ih => exact ih (Entries.nodup_keys_erase _ _ hnodup)

/-- Every document is outdated when the checks are switched off, and only tracked
ones had findings. -/
theorem Orderly.not_stores_disable (h : tracker.Orderly) (uri : String) :
    tracker.disable.stores uri = false := by
  refine Bool.eq_false_iff.mpr fun hstores => ?_
  rw [disable_eq, stores_outdate] at hstores
  exact hstores.2 ((Entries.mem_keys_iff ..).mpr (h.tracked uri hstores.1))

theorem Orderly.disable (h : tracker.Orderly) : tracker.disable.Orderly := by
  refine ⟨tracker.disable_documents ▸ h.documents, ?_, ?_, fun _ => h.not_stores_disable⟩
  · rw [disable_eq]
    exact nodup_keys_outdate _ h.findings
  · intro uri hstores
    exact absurd ((h.not_stores_disable uri).symm.trans hstores) (by decide)

theorem Orderly.settle (h : tracker.Orderly) (uri : String) (generation : Nat)
    (findings : List Finding) : (tracker.settle uri generation findings).1.Orderly := by
  cases hcurrent : tracker.isCurrent uri generation with
  | false =>
      rw [settle_outdated _ _ _ _ hcurrent]
      exact h
  | true =>
      obtain ⟨hon, htracked, -⟩ := (isCurrent_iff ..).mp hcurrent
      rw [settle_current _ _ _ _ hcurrent]
      exact h.publish findings htracked hon

/-! ## The counts of all documents -/

theorem summary_eq_sum (tracker : Tracker) :
    tracker.summary = (tracker.findings.map fun entry => Summary.of entry.2).sum := by
  rw [summary, List.sum_eq_foldl, List.foldl_map]
  rfl

/-- The counts are those of the tracked documents: a document without findings
adds nothing to them. -/
theorem Orderly.summary_eq (h : tracker.Orderly) :
    tracker.summary = (tracker.documents.keys.map tracker.summaryOf).sum := by
  have hstored : tracker.findings.map (fun entry => Summary.of entry.2) =
      tracker.findings.keys.map tracker.summaryOf := by
    rw [Entries.keys, List.map_map]
    refine List.map_congr_left fun entry hmem => ?_
    simp [summaryOf, findingsOf, Entries.get?_of_mem _ h.findings hmem]
  have hsubset : tracker.findings.keys.toFinset ⊆ tracker.documents.keys.toFinset := by
    intro uri hmem
    rw [List.mem_toFinset, Entries.mem_keys_iff] at hmem ⊢
    exact h.tracked uri hmem
  rw [summary_eq_sum, hstored, ← List.sum_toFinset _ h.findings,
    ← List.sum_toFinset _ h.documents]
  refine Finset.sum_subset hsubset fun uri _ hfresh => ?_
  have hstores : tracker.stores uri = false := by
    rw [List.mem_toFinset, Entries.mem_keys_iff] at hfresh
    exact Bool.eq_false_iff.mpr hfresh
  rw [summaryOf, findingsOf_of_not_stores _ _ hstores]
  rfl

/-! ## What a listener was told -/

/-- All that was delivered to a listener for a document, in order. -/
def told (tracker : Tracker) (listener uri : String) : List (List Finding) :=
  (tracker.deliveries.filter fun delivery =>
    delivery.uri = uri && delivery.listener = listener).map (·.findings)

/-- What was delivered last to a listener for a document, if anything was. -/
def lastTold? (tracker : Tracker) (listener uri : String) : Option (List Finding) :=
  (tracker.told listener uri).getLast?

/-- A listener is told once for every time it was added. -/
theorem told_publish (tracker : Tracker) (uri : String) (findings : List Finding)
    (listener other : String) :
    (tracker.publish uri findings).told listener other =
      if uri = other then
        tracker.told listener other ++
          List.replicate (tracker.listeners.count listener) findings
      else tracker.told listener other := by
  simp only [told, publish, List.filter_append, List.filter_map, List.map_append, List.map_map]
  by_cases hsame : uri = other
  · have hcount : tracker.listeners.filter (fun name => decide (name = listener)) =
        List.replicate (tracker.listeners.count listener) listener :=
      List.filter_eq _
    simp [hsame, Function.comp_def, hcount]
  · simp [hsame, Function.comp_def]

theorem lastTold?_publish (tracker : Tracker) (uri : String) (findings : List Finding)
    {listener : String} (hlistener : listener ∈ tracker.listeners) (other : String) :
    (tracker.publish uri findings).lastTold? listener other =
      if uri = other then some findings else tracker.lastTold? listener other := by
  have hcount : tracker.listeners.count listener ≠ 0 := by
    simpa [List.count_eq_zero] using hlistener
  rw [lastTold?, told_publish]
  split
  · rw [List.getLast?_append, List.getLast?_replicate, if_neg hcount]
    rfl
  · rfl

/-- What a listener was told last is what is stored. -/
def Hears (tracker : Tracker) (listener : String) : Prop :=
  ∀ uri, (tracker.lastTold? listener uri).getD [] = tracker.findingsOf uri

variable {tracker : Tracker} {listener : String}

theorem Hears.of_eq (h : tracker.Hears listener) {after : Tracker}
    (hfindings : after.findings = tracker.findings)
    (hdeliveries : after.deliveries = tracker.deliveries) : after.Hears listener := by
  intro uri
  rw [lastTold?, told, findingsOf, hfindings, hdeliveries]
  exact h uri

/-- A listener that is there hears of every publication. -/
theorem Hears.publish (h : tracker.Hears listener) (hlistener : listener ∈ tracker.listeners)
    (uri : String) (findings : List Finding) :
    (tracker.publish uri findings).Hears listener := by
  intro other
  rw [lastTold?_publish _ _ _ hlistener, findingsOf_publish]
  split
  · rfl
  · exact h other

theorem Hears.delete (h : tracker.Hears listener) (hlistener : listener ∈ tracker.listeners)
    (uri : String) : (tracker.delete uri).Hears listener := by
  cases htracked : tracker.isTracked uri with
  | false =>
      rw [delete_untracked _ _ htracked]
      exact h
  | true =>
      rw [delete_tracked _ _ htracked]
      have hdropped : (tracker.dropped uri).Hears listener := h
      exact hdropped.publish hlistener uri []

theorem Hears.outdate (h : tracker.Hears listener) (hlistener : listener ∈ tracker.listeners)
    (uris : List String) : (tracker.outdate uris).Hears listener := by
  induction uris generalizing tracker with
  | nil => exact h
  | cons first rest ih =>
      have hfirst : (tracker.nextGeneration first).Hears listener := h
      exact ih (hfirst.publish hlistener first []) hlistener

theorem Hears.disable (h : tracker.Hears listener) (hlistener : listener ∈ tracker.listeners) :
    tracker.disable.Hears listener := by
  have hoff : ({ tracker with enabled := false } : Tracker).Hears listener := h
  exact hoff.outdate hlistener tracker.documents.keys

theorem Hears.settle (h : tracker.Hears listener) (hlistener : listener ∈ tracker.listeners)
    (uri : String) (generation : Nat) (findings : List Finding) :
    (tracker.settle uri generation findings).1.Hears listener := by
  unfold Tracker.settle
  split
  · exact h.publish hlistener uri findings
  · exact h

@[simp] theorem outdate_listeners (tracker : Tracker) (uris : List String) :
    (tracker.outdate uris).listeners = tracker.listeners := by
  induction uris generalizing tracker with
  | nil => rfl
  | cons first rest ih => exact ih _

@[simp] theorem disable_listeners (tracker : Tracker) :
    tracker.disable.listeners = tracker.listeners := by
  rw [disable_eq, outdate_listeners]

@[simp] theorem delete_listeners (tracker : Tracker) (uri : String) :
    (tracker.delete uri).listeners = tracker.listeners := by
  unfold delete
  split <;> rfl

@[simp] theorem settle_listeners (tracker : Tracker) (uri : String) (generation : Nat)
    (findings : List Finding) :
    (tracker.settle uri generation findings).1.listeners = tracker.listeners := by
  unfold settle
  split <;> rfl

end Tracker

namespace Desk

variable {desk : Desk} {listener : String}

/-! ## One turn -/

theorem orderly_bring (desk : Desk) (h : desk.tracker.Orderly) (uri text : String) :
    (desk.bring uri text).tracker.Orderly := by
  obtain ⟨-, heq⟩ | ⟨-, heq⟩ := bring_cases desk uri text <;> rw [heq]
  · exact h.counted uri text
  · exact (h.counted uri text).clear uri

theorem hears_bring (desk : Desk) (h : desk.tracker.Hears listener)
    (hlistener : listener ∈ desk.tracker.listeners) (uri text : String) :
    (desk.bring uri text).tracker.Hears listener := by
  have hcounted : (desk.tracker.counted uri text).Hears listener := h.of_eq rfl rfl
  obtain ⟨-, heq⟩ | ⟨-, heq⟩ := bring_cases desk uri text <;> rw [heq]
  · exact hcounted
  · exact hcounted.publish hlistener uri []

/-- **One turn.**  Whatever happens, the tracker stays orderly. -/
theorem orderly_turn (h : desk.tracker.Orderly) (next : Turn) :
    (desk.turn next).tracker.Orderly := by
  have hdoes := desk.does_turn next
  generalize desk.turn next = after at hdoes
  cases hdoes with
  | init huntracked => exact orderly_bring (desk.note _ _) h _ _
  | refresh htracked => exact orderly_bring (desk.note _ _) h _ _
  | begin hspawned htracked => exact orderly_bring (desk.unspawn _ _) h _ _
  | delete => exact h.delete _
  | disable => exact h.disable
  | enable => exact h.of_eq rfl rfl fun hoff => Bool.noConfusion hoff
  | settle hmem => exact h.settle _ _ _
  | lapse | spawn | addListener | removeListener | fail | idle => exact h.of_eq rfl rfl id

/-- **One turn.**  A listener that is there goes on hearing what is stored. -/
theorem hears_turn (h : desk.tracker.Hears listener)
    (hlistener : listener ∈ desk.tracker.listeners) (next : Turn) :
    (desk.turn next).tracker.Hears listener := by
  have hdoes := desk.does_turn next
  generalize desk.turn next = after at hdoes
  cases hdoes with
  | init huntracked => exact hears_bring (desk.note _ _) h hlistener _ _
  | refresh htracked => exact hears_bring (desk.note _ _) h hlistener _ _
  | begin hspawned htracked => exact hears_bring (desk.unspawn _ _) h hlistener _ _
  | delete => exact h.delete hlistener _
  | disable => exact h.disable hlistener
  | settle hmem => exact h.settle hlistener _ _ _
  | enable | lapse | spawn | addListener | removeListener | fail | idle => exact h.of_eq rfl rfl

@[simp] theorem bring_listeners (desk : Desk) (uri text : String) :
    (desk.bring uri text).tracker.listeners = desk.tracker.listeners := by
  obtain ⟨-, h⟩ | ⟨-, h⟩ := bring_cases desk uri text <;> rw [h] <;> rfl

/-- A listener leaves only when it is taken out. -/
theorem mem_listeners_turn (hlistener : listener ∈ desk.tracker.listeners) (next : Turn)
    (hstays : next ≠ .call (.removeListener listener)) :
    listener ∈ (desk.turn next).tracker.listeners := by
  have hdoes := desk.does_turn next
  generalize desk.turn next = after at hdoes
  cases hdoes with
  | init huntracked => exact bring_listeners (desk.note _ _) _ _ ▸ hlistener
  | refresh htracked => exact bring_listeners (desk.note _ _) _ _ ▸ hlistener
  | begin hspawned htracked => exact bring_listeners (desk.unspawn _ _) _ _ ▸ hlistener
  | delete => exact desk.tracker.delete_listeners _ ▸ hlistener
  | disable => exact desk.tracker.disable_listeners ▸ hlistener
  | settle hmem => exact desk.tracker.settle_listeners _ _ _ ▸ hlistener
  | addListener => exact List.mem_append_left _ hlistener
  | @removeListener other =>
      have hother : listener ≠ other := fun hsame => hstays (hsame ▸ rfl)
      exact (List.mem_erase_of_ne hother).mpr hlistener
  | enable | lapse | spawn | fail | idle => exact hlistener

/-! ## Whole runs -/

/-- The desk at the beginning, with listeners. -/
def attended (enabled : Bool) (listeners : List String) : Desk :=
  { tracker := { enabled, listeners } }

/-- Listeners that are there at the beginning are added before anything else. -/
theorem attended_eq_turns (enabled : Bool) (listeners : List String) :
    attended enabled listeners =
      (opened enabled).turns (listeners.map fun listener => .call (.addListener listener)) := by
  have hadded : ∀ (there more : List String),
      (attended enabled there).turns (more.map fun listener => .call (.addListener listener)) =
        attended enabled (there ++ more) := by
    intro there more
    induction more generalizing there with
    | nil => rw [List.append_nil]; rfl
    | cons next rest ih =>
        have hrest := ih (there ++ [next])
        rw [List.append_assoc] at hrest
        exact hrest
  exact (hadded [] listeners).symm

theorem orderly_attended (enabled : Bool) (listeners : List String) :
    (attended enabled listeners).tracker.Orderly where
  documents := List.nodup_nil
  findings := List.nodup_nil
  tracked _ hstores := by cases hstores
  off _ _ := rfl

/-- A listener that is never taken out is there all the time. -/
theorem there_throughout (hlistener : listener ∈ desk.tracker.listeners) (run : List Turn)
    (hstays : ∀ next ∈ run, next ≠ .call (.removeListener listener)) :
    desk.Throughout (listener ∈ ·.tracker.listeners) run := by
  induction run generalizing desk with
  | nil => exact hlistener
  | cons next rest ih =>
      obtain ⟨hnext, hrest⟩ := List.forall_mem_cons.mp hstays
      exact ⟨hlistener, ih (mem_listeners_turn hlistener next hnext) hrest⟩

theorem hears_turns (h : desk.tracker.Hears listener) (run : List Turn)
    (hthere : desk.Throughout (listener ∈ ·.tracker.listeners) run) :
    (desk.turns run).tracker.Hears listener := by
  induction run generalizing desk with
  | nil => exact h
  | cons next rest ih => exact ih (hears_turn h hthere.1 next) hthere.2

/-- **After every run** findings are stored for tracked documents only, nothing is
stored while the checks are off, a listener that was there all the time was told
last what is stored, and the counts are those of the tracked documents. -/
theorem stored_and_heard (enabled : Bool) (listeners : List String) (run : List Turn) :
    let start := attended enabled listeners
    let tracker := (start.turns run).tracker
    (∀ uri, tracker.findings.has uri = true → tracker.isTracked uri = true) ∧
      (tracker.enabled = false → ∀ uri, tracker.findingsOf uri = []) ∧
      (∀ listener, start.Throughout (listener ∈ ·.tracker.listeners) run → ∀ uri,
        tracker.lastTold? listener uri = some (tracker.findingsOf uri) ∨
          tracker.lastTold? listener uri = none ∧ tracker.findingsOf uri = []) ∧
      tracker.summary = (tracker.documents.keys.map tracker.summaryOf).sum := by
  intro start tracker
  have horderly : tracker.Orderly :=
    turns_induction (p := (·.tracker.Orderly)) (fun _ next h => orderly_turn h next) run start
      (orderly_attended enabled listeners)
  refine ⟨horderly.tracked, ?_, ?_, horderly.summary_eq⟩
  · intro hoff uri
    exact Tracker.findingsOf_of_not_stores _ _ (horderly.off hoff uri)
  · intro listener hthere uri
    have hears := hears_turns (fun _ => rfl) run hthere uri
    change (tracker.lastTold? listener uri).getD [] = tracker.findingsOf uri at hears
    cases htold : tracker.lastTold? listener uri with
    | none => exact .inr ⟨rfl, by rw [← hears, htold]; rfl⟩
    | some findings => exact .inl (by rw [← hears, htold]; rfl)

/-- Of two listeners one is taken out while the checks are under way.  The other
is told the findings, and told again when the checks are switched off; nothing
that comes in after that is stored. -/
theorem heard_by_editor :
    let found : List Finding :=
      [{ code := .invalidRealm, span := ⟨⟨0, 0⟩, ⟨0, 5⟩⟩, message := "invalid realm" }]
    let start := attended true ["editor", "log"]
    let checked : List Turn := [.call (.init "m" "old"), .call (.removeListener "log"),
      .settle ⟨"m", "old", 1⟩ found]
    let late : List Turn := checked ++ [.call (.refresh "m" "new"), .call (.setEnabled false),
      .settle ⟨"m", "new", 2⟩ found]
    (start.turns checked).tracker.findingsOf "m" = found ∧
      (start.turns checked).tracker.lastTold? "editor" "m" = some found ∧
      (start.turns checked).tracker.lastTold? "log" "m" = none ∧
      (start.turns late).tracker.findingsOf "m" = [] ∧
      (start.turns late).tracker.lastTold? "editor" "m" = some [] := by
  intro found start checked late
  have hthere (run : List Turn) (hstays : ∀ next ∈ run, next ≠ .call (.removeListener "editor")) :
      start.Throughout ("editor" ∈ ·.tracker.listeners) run :=
    there_throughout (by decide) run hstays
  obtain ⟨-, -, hchecked, -⟩ := stored_and_heard true ["editor", "log"] checked
  obtain ⟨-, hoff, hlate, -⟩ := stored_and_heard true ["editor", "log"] late
  have hfound : (start.turns checked).tracker.findingsOf "m" = found := by decide
  have hnone : (start.turns late).tracker.findingsOf "m" = [] := hoff (by decide) "m"
  refine ⟨hfound, ?_, by decide, hnone, ?_⟩
  · rcases hchecked "editor" (hthere checked (by decide)) "m" with htold | ⟨-, hempty⟩
    · exact htold.trans (congrArg some hfound)
    · exact absurd (hfound.symm.trans hempty) (by decide)
  · rcases hlate "editor" (hthere late (by decide)) "m" with htold | ⟨htold, -⟩
    · exact htold.trans (congrArg some hnone)
    · exact absurd htold (by decide)

end Desk

end ManifestLint
