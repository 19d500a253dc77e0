import Mathlib.Data.List.Nodup
import ManifestLint.Proofs.Tracking.Newest

/-!
# Which findings are published in the end

The findings of a document are those of the text that is tracked, as long as its
last refresh ends with findings.  If it ends in a fault, it has made the older
refreshes void and publishes nothing itself: what was published before stays.

`Answered` says of every document that a refresh of it is still to come or under
way, or that its last refresh has ended; then it either ended in a fault, or its
findings are published.  A refresh ends once (`endOf_unique`), so that at a quiet
desk the two can be told apart: `newest_tracked_and_published_iff`.
-/

namespace ManifestLint.Desk

variable {desk : Desk}

/-- Nothing is spawned or under way. -/
def Quiet (desk : Desk) : Prop := desk.spawned = [] ∧ desk.underWay = []

instance : Decidable desk.Quiet := by unfold Quiet; infer_instance

/-- A refresh of a document is still to come, or under way and wanted. -/
def Outstanding (desk : Desk) (uri : String) : Prop :=
  (∃ text, (uri, text) ∈ desk.spawned) ∨
    ∃ refresh ∈ desk.underWay, refresh.uri = uri ∧ desk.Wanted refresh

/-- The last refresh of a document looked at a text, and it has ended: in a
fault, or with the findings that are published. -/
def Ended (happened : Turn → Prop) (desk : Desk) (uri text : String) : Prop :=
  ∃ generation, desk.tracker.generations.get? uri = some generation ∧
    (happened (.fail ⟨uri, text, generation⟩) ∨
      happened (.settle ⟨uri, text, generation⟩ (desk.tracker.findingsOf uri)))

/-- While the checks are on, the tracked text of every document is answered for. -/
def Answered (happened : Turn → Prop) (desk : Desk) : Prop :=
  desk.tracker.enabled = true → ∀ uri text,
    desk.tracker.documents.get? uri = some text →
      desk.Outstanding uri ∨ desk.Ended happened uri text

variable {happened : Turn → Prop} {uri text : String}

theorem answered_opened (enabled : Bool) : (opened enabled).Answered happened := by
  intro _ uri text hdocument
  cases hdocument

/-- What does not touch a document, nor takes its last refreshes away, leaves it
answered for. -/
theorem outstanding_or_ended_frame {after : Desk}
    (h : desk.Outstanding uri ∨ desk.Ended happened uri text)
    (hgeneration : after.tracker.generations.get? uri = desk.tracker.generations.get? uri)
    (hfindings : after.tracker.findingsOf uri = desk.tracker.findingsOf uri)
    (hspawned : ∀ text, (uri, text) ∈ desk.spawned → (uri, text) ∈ after.spawned)
    (hunderWay : ∀ refresh ∈ desk.underWay, refresh.uri = uri → desk.Wanted refresh →
      refresh ∈ after.underWay) :
    after.Outstanding uri ∨ after.Ended happened uri text := by
  rcases h with (⟨other, hmem⟩ | ⟨refresh, hmem, huri, hwanted⟩) | ⟨generation, hget, hended⟩
  · exact .inl (.inl ⟨other, hspawned other hmem⟩)
  · refine .inl (.inr ⟨refresh, hunderWay refresh hmem huri hwanted, huri, ?_⟩)
    rw [Wanted, huri] at hwanted ⊢
    exact hgeneration.trans hwanted
  · refine .inr ⟨generation, hgeneration.trans hget, ?_⟩
    rw [hfindings]
    exact hended

/-- A start has its own refresh under way, and leaves the other documents alone. -/
theorem Answered.bring (h : desk.Answered happened) (uri text : String) {base : Desk}
    (htracker : base.tracker = desk.tracker) (hunderWay : base.underWay = desk.underWay)
    (hspawned : ∀ other ≠ uri, ∀ text,
      (other, text) ∈ desk.spawned → (other, text) ∈ base.spawned) :
    (base.bring uri text).Answered happened := by
  intro hon other otherText hdocument
  rw [bring_enabled] at hon
  have hbring := bring_on base uri text hon
  by_cases hsame : other = uri
  · refine .inl (.inr ⟨⟨uri, text, base.tracker.counter + 1⟩, ?_, hsame.symm, ?_⟩)
    · rw [hbring]
      exact List.mem_append_right _ (List.mem_singleton_self _)
    · exact (bring_generation ..).trans (if_pos rfl)
  · have hother : ¬ uri = other := fun heq => hsame heq.symm
    rw [bring_document, if_neg hother, htracker] at hdocument
    have hbefore := h (htracker ▸ hon) other otherText hdocument
    refine outstanding_or_ended_frame hbefore ?_ ?_ ?_ ?_
    · rw [bring_generation, if_neg hother, htracker]
    · rw [hbring, ← htracker]
      rfl
    · intro waiting hmem
      rw [bring_spawned]
      exact hspawned other hsame waiting hmem
    · intro refresh hmem _ _
      rw [hbring, hunderWay]
      exact List.mem_append_left _ hmem

/-- A refresh that ends answers for its own document if it is wanted, and for
none if it is not. -/
theorem Answered.take (h : desk.Answered happened) {refresh : UnderWay} {after : Desk}
    (hspawned : after.spawned = desk.spawned)
    (hunderWay : after.underWay = desk.underWay.erase refresh)
    (henabled : after.tracker.enabled = desk.tracker.enabled)
    (hdocuments : after.tracker.documents = desk.tracker.documents)
    (hgenerations : after.tracker.generations = desk.tracker.generations)
    (hfindings : ∀ uri, uri ≠ refresh.uri ∨ ¬ desk.Wanted refresh →
      after.tracker.findingsOf uri = desk.tracker.findingsOf uri)
    (hended : desk.Wanted refresh → ∀ text,
      desk.tracker.documents.get? refresh.uri = some text →
        after.Ended happened refresh.uri text) :
    after.Answered happened := by
  intro hon uri text hdocument
  rw [henabled] at hon
  rw [hdocuments] at hdocument
  by_cases hown : uri = refresh.uri ∧ desk.Wanted refresh
  · obtain ⟨rfl, hwanted⟩ := hown
    exact .inr (hended hwanted text hdocument)
  · refine outstanding_or_ended_frame (h hon uri text hdocument) ?_ ?_ ?_ ?_
    · rw [hgenerations]
    · exact hfindings uri (Decidable.not_and_iff_not_or_not.mp hown)
    · intro other hmem
      exact hspawned ▸ hmem
    · intro other hmem huri hwanted
      rw [hunderWay]
      refine (List.mem_erase_of_ne fun heq => hown ?_).mpr hmem
      subst heq
      exact ⟨huri.symm, hwanted⟩

/-- Every turn leaves the documents answered for. -/
theorem Answered.turn (h : desk.Answered happened) (hcoherent : desk.Coherent) (next : Turn)
    (hnext : desk.Possible next → happened next) : (desk.turn next).Answered happened := by
  have hdoes := desk.does_turn next
  generalize desk.turn next = after at hdoes
  cases hdoes with
  | @init uri text => exact h.bring uri text rfl rfl fun _ _ _ hmem => hmem
  | @refresh uri text => exact h.bring uri text rfl rfl fun _ _ _ hmem => hmem
  | @begin uri text hspawned htracked =>
      refine h.bring uri text rfl rfl fun other hother otherText hmem => ?_
      exact (List.mem_erase_of_ne fun heq => hother (congrArg Prod.fst heq)).mpr hmem
  | @lapse uri text hspawned huntracked =>
      intro hon other otherText hdocument
      have hother : other ≠ uri := by
        rintro rfl
        rw [Tracker.isTracked_eq_false_iff] at huntracked
        exact absurd (huntracked.symm.trans hdocument) (by simp)
      refine outstanding_or_ended_frame (h hon other otherText hdocument) rfl rfl ?_ ?_
      · intro waiting hmem
        exact (List.mem_erase_of_ne fun heq => hother (congrArg Prod.fst heq)).mpr hmem
      · exact fun _ hmem _ _ => hmem
  | @delete uri =>
      intro hon other otherText hdocument
      replace hon := (desk.tracker.delete_enabled uri).symm.trans hon
      replace hdocument := (desk.tracker.delete_document uri other).symm.trans hdocument
      split at hdocument
      · cases hdocument
      · next hother =>
          exact outstanding_or_ended_frame (h hon other otherText hdocument)
            (desk.tracker.delete_generation uri other hother)
            (desk.tracker.delete_findingsOf uri other hother)
            (fun _ hmem => hmem) (fun _ hmem _ _ => hmem)
  | enable =>
      intro _ uri text hdocument
      refine .inl (.inl ⟨text, List.mem_append_right _ ?_⟩)
      exact Entries.mem_of_get? _ _ hdocument
  | disable =>
      intro hon
      exact absurd (hon.symm.trans desk.tracker.disable_enabled) (by simp)
  | spawn =>
      intro hon uri text hdocument
      exact outstanding_or_ended_frame (h hon uri text hdocument) rfl rfl
        (fun _ hmem => List.mem_append_left _ hmem) (fun _ hmem _ _ => hmem)
  | addListener =>
      intro hon uri text hdocument
      exact outstanding_or_ended_frame (h hon uri text hdocument) rfl rfl
        (fun _ hmem => hmem) (fun _ hmem _ _ => hmem)
  | removeListener =>
      intro hon uri text hdocument
      exact outstanding_or_ended_frame (h hon uri text hdocument) rfl rfl
        (fun _ hmem => hmem) (fun _ hmem _ _ => hmem)
  | @settle refresh findings hmem =>
      obtain ⟨henabled, hdocuments, hgenerations, -⟩ :=
        desk.tracker.settle_frame refresh.uri findings refresh.generation
      have hsettle := settle_wanted_or_not hcoherent findings hmem
      refine h.take rfl rfl henabled hdocuments hgenerations ?_ ?_
      · intro uri hcases
        show (desk.tracker.settle refresh.uri refresh.generation findings).1.findingsOf uri = _
        rw [hsettle]
        split
        · next hwanted =>
            have hother := hcases.resolve_right fun hunwanted => hunwanted hwanted
            exact (Tracker.findingsOf_publish ..).trans (if_neg fun heq => hother heq.symm)
        · rfl
      · intro hwanted text hdocument
        have htext := (hcoherent.current refresh hmem hwanted).2
        obtain rfl : refresh.text = text := Option.some.inj (htext.symm.trans hdocument)
        refine ⟨refresh.generation, ?_, .inr ?_⟩
        · simp only [settled, hgenerations]
          exact hwanted
        · have hpublished : (desk.settled refresh findings).tracker.findingsOf refresh.uri =
              findings := by
            simp only [settled, hsettle, hwanted, if_true]
            exact (Tracker.findingsOf_publish ..).trans (if_pos rfl)
          rw [hpublished]
          exact hnext hmem
  | @fail refresh hmem =>
      refine h.take rfl rfl rfl rfl rfl (fun _ _ => rfl) fun hwanted text hdocument => ?_
      have htext := (hcoherent.current refresh hmem hwanted).2
      obtain rfl : refresh.text = text := Option.some.inj (htext.symm.trans hdocument)
      exact ⟨refresh.generation, hwanted, .inl (hnext hmem)⟩
  | idle => exact h

/-- Every run leaves the documents answered for. -/
theorem Answered.turns (h : desk.Answered happened) (hcoherent : desk.Coherent)
    (run : List Turn) (hrun : ∀ next, desk.Happens next run → happened next) :
    (desk.turns run).Answered happened := by
  induction run generalizing desk with
  | nil => exact h
  | cons next rest ih =>
      have hnext := h.turn hcoherent next fun hpossible => hrun next (.inl ⟨rfl, hpossible⟩)
      exact ih hnext (hcoherent.turn next) fun later hlater => hrun later (.inr hlater)

/-- A turn by which a refresh ends, in a fault or with findings. -/
def EndOf (refresh : UnderWay) (next : Turn) : Prop :=
  next = .fail refresh ∨ ∃ findings, next = .settle refresh findings

theorem EndOf.mem_underWay {refresh : UnderWay} {next : Turn} (hend : EndOf refresh next)
    (hpossible : desk.Possible next) : refresh ∈ desk.underWay := by
  obtain rfl | ⟨_, rfl⟩ := hend <;> exact hpossible

/-- A refresh that ends is not under way any more, nor is another one with its
generation. -/
theorem Coherent.not_mem_endOf (h : desk.Coherent) {refresh other : UnderWay} {next : Turn}
    (hend : EndOf refresh next) (hpossible : desk.Possible next)
    (hsame : refresh.generation = other.generation) :
    other ∉ (desk.turn next).underWay := by
  have hmem := hend.mem_underWay hpossible
  have herase : (desk.turn next).underWay = desk.underWay.erase refresh := by
    obtain rfl | ⟨_, rfl⟩ := hend <;> simp [Desk.turn, hmem]
  rw [herase]
  intro hother
  obtain rfl := List.inj_on_of_nodup_map h.distinct hmem (List.mem_of_mem_erase hother) hsame
  exact h.distinct.of_map.not_mem_erase hother

/-- A refresh that has ended does not end again. -/
theorem not_happens_endOf {refresh : UnderWay} {next : Turn} (run : List Turn)
    (hend : EndOf refresh next) (hbegun : refresh.generation ≤ desk.tracker.counter)
    (hended : refresh ∉ desk.underWay) : ¬ desk.Happens next run := by
  induction run generalizing desk with
  | nil => exact id
  | cons first rest ih =>
      rintro (⟨-, hpossible⟩ | hlater)
      · exact hended (hend.mem_underWay hpossible)
      · refine ih (Nat.le_trans hbegun (counter_le_turn desk first)) (fun hmem => ?_) hlater
        rcases mem_underWay_turn first hmem with hold | ⟨hnew, -, -⟩
        · exact hended hold
        · omega

theorem Coherent.not_happens_after_end (h : desk.Coherent) {refresh other : UnderWay}
    {next later : Turn} (rest : List Turn) (hnext : EndOf refresh next)
    (hlater : EndOf other later) (hsame : refresh.generation = other.generation)
    (hpossible : desk.Possible next) : ¬ (desk.turn next).Happens later rest := by
  have hbegun := h.begun refresh (hnext.mem_underWay hpossible)
  have hcounter := counter_le_turn desk next
  exact not_happens_endOf rest hlater (by omega) (h.not_mem_endOf hnext hpossible hsame)

/-- Under one generation one refresh ends, and in one way. -/
theorem Coherent.endOf_unique (h : desk.Coherent) {refresh other : UnderWay} {one two : Turn}
    (run : List Turn) (hone : EndOf refresh one) (htwo : EndOf other two)
    (hsame : refresh.generation = other.generation)
    (hhappens : desk.Happens one run) (halso : desk.Happens two run) : one = two := by
  induction run generalizing desk with
  | nil => exact hhappens.elim
  | cons first rest ih =>
      rcases hhappens with ⟨rfl, hpossible⟩ | hhappens
      · rcases halso with ⟨rfl, -⟩ | halso
        · rfl
        · exact absurd halso (h.not_happens_after_end rest hone htwo hsame hpossible)
      · rcases halso with ⟨rfl, hpossible⟩ | halso
        · exact absurd hhappens (h.not_happens_after_end rest htwo hone hsame.symm hpossible)
        · exact ih (h.turn first) hhappens halso

/-- At a quiet desk no refresh is outstanding. -/
theorem Quiet.not_outstanding (h : desk.Quiet) (uri : String) : ¬ desk.Outstanding uri := by
  obtain ⟨hspawned, hunderWay⟩ := h
  simp [Outstanding, hspawned, hunderWay]

/-- The published findings of a document are those with which its last refresh
ended, and that refresh looked at the text. -/
def PublishedFrom (desk : Desk) (run : List Turn) (uri text : String) : Prop :=
  let last := desk.turns run
  ∃ generation, last.tracker.generations.get? uri = some generation ∧
    desk.Happens (.settle ⟨uri, text, generation⟩ (last.tracker.findingsOf uri)) run

/-- The last refresh of a document looked at the text, and ended in a fault. -/
def FailedOn (desk : Desk) (run : List Turn) (uri text : String) : Prop :=
  ∃ generation, (desk.turns run).tracker.generations.get? uri = some generation ∧
    desk.Happens (.fail ⟨uri, text, generation⟩) run

/-- **What is tracked and published in the end.**  Throughout a run every tracked
text is the one that a caller brought last if and only if no spawned refresh puts
an older text back.  When the run has come to rest with the checks on, the
findings of a text are published if and only if it is the tracked one and its
last refresh did not end in a fault. -/
theorem newest_tracked_and_published_iff (enabled : Bool) (run : List Turn) :
    let last := (opened enabled).turns run
    ((opened enabled).Throughout UpToDate run ↔ (opened enabled).Never PutsBack run) ∧
      (last.Quiet → last.tracker.enabled = true → ∀ uri text,
        last.tracker.isTracked uri = true →
          ((opened enabled).PublishedFrom run uri text ↔
            last.tracker.documents.get? uri = some text ∧
              ¬ (opened enabled).FailedOn run uri text)) := by
  intro last
  refine ⟨(upToDate_opened enabled).throughout_iff run, ?_⟩
  intro hquiet hon uri text htracked
  have hopened := coherent_opened enabled
  have hanswered : last.Answered ((opened enabled).Happens · run) :=
    (answered_opened enabled).turns hopened run fun _ => id
  obtain ⟨tracked, hdocument⟩ := (Tracker.isTracked_iff ..).mp htracked
  obtain ⟨generation, hget, hended⟩ :=
    (hanswered hon uri tracked hdocument).resolve_left (hquiet.not_outstanding uri)
  constructor
  · rintro ⟨settled, hsettled, hsettle⟩
    obtain rfl := Option.some.inj (hget.symm.trans hsettled)
    -- the refresh that published is the one that looked at the tracked text
    have hunique : ∀ {next : Turn}, EndOf ⟨uri, tracked, generation⟩ next →
        (opened enabled).Happens next run →
        .settle ⟨uri, text, generation⟩ (last.tracker.findingsOf uri) = next :=
      fun hend => hopened.endOf_unique run (.inr ⟨_, rfl⟩) hend rfl hsettle
    have htext : tracked = text := by
      rcases hended with hfail | hsettle
      · cases hunique (.inl rfl) hfail
      · cases hunique (.inr ⟨_, rfl⟩) hsettle
        rfl
    subst htext
    refine ⟨hdocument, ?_⟩
    rintro ⟨failed, hfailed, hfail⟩
    obtain rfl := Option.some.inj (hget.symm.trans hfailed)
    cases hunique (.inl rfl) hfail
  · rintro ⟨htext, hnot⟩
    obtain rfl := Option.some.inj (hdocument.symm.trans htext)
    refine ⟨generation, hget, hended.resolve_left fun hfail => ?_⟩
    exact hnot ⟨generation, hget, hfail⟩

/-- The findings of a text that was brought while a refresh of all documents was
under way are published when all has come to rest. -/
theorem newest_published_after_refreshAll :
    let run : List Turn := [.call (.init "m" "old"), .call .refreshAll, .begin "m" "old",
      .call (.refresh "m" "new"), .fail ⟨"m", "old", 1⟩, .settle ⟨"m", "new", 3⟩ [],
      .settle ⟨"m", "old", 2⟩ []]
    (opened true).Throughout UpToDate run ∧ (opened true).PublishedFrom run "m" "new" := by
  intro run
  have hnot : ¬ (opened true).FailedOn run "m" "new" := by
    rintro ⟨generation, -, hfail⟩
    simp [run, Happens] at hfail
  obtain ⟨htracked, hpublished⟩ := newest_tracked_and_published_iff true run
  refine ⟨htracked.mpr ?_, (hpublished (by decide) rfl "m" "new" rfl).mpr ⟨rfl, hnot⟩⟩
  exact ⟨id, id, fun hback => hback.2.2 rfl, id, id, id, id, trivial⟩

/-- Two runs that come to rest with findings of an older text.  In the first a
spawned refresh has put that text back; in the second the refresh of the newer
text has ended in a fault, and the older findings stay. -/
theorem older_findings_published :
    let older : List Finding :=
      [{ code := .invalidRealm, span := ⟨⟨0, 0⟩, ⟨0, 5⟩⟩, message := "invalid realm" }]
    let overtaken := (opened true).turns [.call (.init "m" "old"),
      .settle ⟨"m", "old", 1⟩ older, .call .refreshAll, .call (.refresh "m" "new"),
      .begin "m" "old", .settle ⟨"m", "new", 2⟩ [], .settle ⟨"m", "old", 3⟩ older]
    let failed := (opened true).turns [.call (.init "m" "old"),
      .settle ⟨"m", "old", 1⟩ older, .call (.refresh "m" "new"), .fail ⟨"m", "new", 2⟩]
    (overtaken.Quiet ∧ overtaken.tracker.enabled = true ∧
        overtaken.newest.get? "m" = some "new" ∧
        overtaken.tracker.documents.get? "m" = some "old" ∧
        overtaken.tracker.findingsOf "m" = older) ∧
      failed.Quiet ∧ failed.tracker.enabled = true ∧
        failed.newest.get? "m" = some "new" ∧
        failed.tracker.documents.get? "m" = some "new" ∧
        failed.tracker.findingsOf "m" = older := by
  decide

end ManifestLint.Desk
