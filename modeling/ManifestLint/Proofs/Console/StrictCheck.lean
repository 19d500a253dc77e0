import ManifestLint.Console.Run
import ManifestLint.Proofs.Checking.Resolving
import ManifestLint.Proofs.Session.Faults

/-!
# Strict checks

A strict check of a manifest ends with the exit code 0 only if no check of the manifest
has found a problem.  With indexes that are well answered this means that all of its
dependencies resolve.

* `Console.Yields`: what is known where a command goes on behind an action.
* `Command.yields_runCheck`: what is known at the end of a strict check.
* `strict_check_passes_only_resolved`: the check of a dependency, and the whole program.
-/

namespace ManifestLint

namespace Console

variable {α β : Type} {first result : α → Prop} {last : β → Prop} {action : Console α}

/-- If the command goes on behind an action, its value is of some kind; if it ends there,
it does so with another exit code than zero. -/
structure Yields (result : α → Prop) (action : Console α) : Prop where
  ended : ∀ transcript, EndsIn result
    (fun stop => ∀ after, Ending.exitCode ⟨some stop, after⟩ ≠ 0) (action.run.run transcript).1

theorem run_bind (action : Console α) (next : α → Console β) (transcript : Transcript) :
    ((action >>= next).run.run transcript : Except Stop β × Transcript) =
      match (action.run.run transcript : Except Stop α × Transcript) with
      | (.ok value, later) => (next value).run.run later
      | (.error stop, later) => (.error stop, later) := by
  rw [ExceptT.run_bind, StateT.run_bind]
  rcases (action.run.run transcript : Except Stop α × Transcript) with ⟨ended, later⟩
  cases ended <;> rfl

theorem Yields.bind {next : α → Console β} (h : Yields first action)
    (hnext : ∀ value, first value → Yields last (next value)) : Yields last (action >>= next) := by
  refine ⟨fun transcript => ?_⟩
  have hended := h.ended transcript
  rw [run_bind]
  rcases hrun : (action.run.run transcript : Except Stop α × Transcript) with ⟨ended, later⟩
  rw [hrun] at hended
  cases ended with
  | ok value => exact (hnext value hended).ended later
  | error stop => exact hended

theorem Yields.mono (h : Yields first action) (hresult : ∀ value, first value → result value) :
    Yields result action :=
  ⟨fun transcript => (h.ended transcript).mono hresult⟩

theorem yields_pure {value : α} (hvalue : result value) : Yields result (pure value) :=
  ⟨fun _ => hvalue⟩

theorem yields_modify (change : Transcript → Transcript) :
    Yields (fun _ => True) (modify change : Console Unit) :=
  ⟨fun _ => trivial⟩

theorem yields_exit {code : Nat} (hcode : code ≠ 0) : Yields result (exit code : Console α) :=
  ⟨fun _ _ => hcode⟩

theorem yields_breakDown (reason : Breakdown) : Yields result (breakDown reason : Console α) :=
  ⟨fun _ _ => Nat.one_ne_zero⟩

/-- An action that is left out unless some condition holds comes before the rest. -/
theorem yields_if {condition : Prop} [Decidable condition] (reached : Prop)
    {action : Console PUnit} {rest : PUnit → Console β}
    (haction : condition → Yields (fun _ => reached) action)
    (hrest : ¬ condition ∨ reached → Yields last (rest ⟨⟩)) :
    Yields last (if condition then action >>= rest else rest ⟨⟩) := by
  split
  · next hcondition =>
      exact (haction hcondition).bind fun _ hreached => hrest (.inr hreached)
  · next hcondition => exact hrest (.inl hcondition)

theorem yields_text (markup : String) : Yields (fun _ => True) (text markup) := by
  unfold text
  cases Markup.render markup with
  | ok text => exact yields_pure trivial
  | error error => exact yields_breakDown _

theorem yields_mapM (xs : List α) {f : α → Console β}
    (hf : ∀ x, Yields (fun _ => True) (f x)) : Yields (fun _ => True) (xs.mapM f) := by
  induction xs with
  | nil => exact yields_pure trivial
  | cons x rest ih =>
      rw [List.mapM_cons]
      exact (hf x).bind fun _ _ => ih.bind fun _ _ => yields_pure trivial

theorem yields_print (markup : String) : Yields (fun _ => True) (print markup) :=
  (yields_text markup).bind fun _ _ => yields_modify _

theorem yields_printTable (title : String) (columns : List String) (rows : List (List String)) :
    Yields (fun _ => True) (printTable title columns rows) :=
  (yields_text title).bind fun _ _ => (yields_mapM columns yields_text).bind fun _ _ =>
    (yields_mapM rows fun row => yields_mapM row yields_text).bind fun _ _ => yields_modify _

theorem yields_printPanel (title markup : String) :
    Yields (fun _ => True) (printPanel title markup) :=
  (yields_text title).bind fun _ _ => (yields_text markup).bind fun _ _ => yields_modify _

end Console

/-! ## Findings -/

/-- Without errors and warnings there is no problem. -/
theorem Summary.no_problem {findings : List Finding} (herrors : (Summary.of findings).errors = 0)
    (hwarnings : (Summary.of findings).warnings = 0) :
    ∀ finding ∈ findings, ¬ finding.IsProblem := by
  have hnotError := List.countP_eq_zero.mp herrors
  have hnotWarning := List.countP_eq_zero.mp hwarnings
  rintro finding hmem (herror | hwarning)
  · exact hnotError finding hmem (decide_eq_true herror)
  · exact hnotWarning finding hmem (decide_eq_true hwarning)

/-- What a check has found is among the findings. -/
theorem Rule.mem_sorted {manifest : Manifest} {values : List (Option Finding)}
    {value : Option Finding} (hvalue : value ∈ values) {finding : Finding}
    (hfinding : finding ∈ value) : finding ∈ Rule.sorted manifest values := by
  rw [Rule.sorted, List.mem_mergeSort]
  exact List.mem_append_right _ (List.mem_filterMap.mpr ⟨value, hvalue, hfinding⟩)

/-- The index of a manifest is supported, and all dependencies resolve. -/
def Manifest.Resolves (replies : Request → Reply) (manifest : Manifest) : Prop :=
  ∃ handle, Handle.find? manifest.indexUrl = some handle ∧
    ∀ item ∈ manifest.dependencies.items, item.2.Resolves replies handle

namespace Workshop

variable {shop : Workshop} {replies : Request → Reply} {text : String} {manifest : Manifest}

/-- If no check has found a problem, all dependencies resolve. -/
theorem resolves_of_checked (hregistry : shop.registry.Coherent shop.host.answer replies)
    (hparse : Manifest.parse text = .ok manifest)
    (hanswered : ∀ handle, Handle.find? manifest.indexUrl = some handle →
      ∀ index ∈ Plain.chain replies handle, Plain.WellAnswered replies index)
    {values : List (Option Finding)} (hvalues : gathered (shop.checked manifest) = .ok values)
    (hclean : ∀ value ∈ values, ∀ finding ∈ value, ¬ finding.IsProblem) :
    manifest.Resolves replies := by
  have hformed := Manifest.parse_formed hparse
  have hworld := World.keeps_coherence_steady shop.host.answer replies
  let found := shop.registry.find? manifest.indexUrl
  have hstate : (Registry.coherence shop.host.answer replies).state
      (⟨found.2, 0⟩ : Instant Registry).state := hregistry.find? manifest.indexUrl
  have hkeeps : ∀ check ∈ Rule.checks manifest found.1,
      Instant.Keeps (Registry.coherence shop.host.answer replies) (fun _ => True)
        (fun _ => True) check := by
    intro check hcheck
    have hbrowses : Lookup.Browses (fun _ => True) check :=
      Rule.browses_of_mem (fun _ _ => trivial) hcheck
    exact hbrowses.keeps_coherence
  have hended : (⟨found.2, 0⟩ : Instant Registry).inTurn (.steady shop.host.answer)
      (Rule.checks manifest found.1) = values.map .ok := gathered_eq_ok hvalues
  have hfound : found.1 = Handle.find? manifest.indexUrl := Registry.find?_fst ..
  cases hhandle : Handle.find? manifest.indexUrl with
  | none =>
      have hindex : Rule.index manifest ∈ Rule.checks manifest found.1 := by
        rw [hfound, hhandle]
        simp [Rule.checks]
      obtain ⟨later, value, hvalue, hlater, hlast⟩ :=
        Instant.ended_of_mem_inTurn hkeeps hworld hstate hended hindex
      obtain ⟨finding, hfinding, hproblem⟩ :=
        ((Rule.keeps_index hformed hhandle).ended hworld hlater).of_ok hlast
      exact absurd hproblem (hclean value hvalue finding hfinding)
  | some handle =>
      refine ⟨handle, hhandle, fun item hitem => ?_⟩
      have hcheck : Rule.dependency handle item.1 item.2 ∈ Rule.checks manifest found.1 := by
        rw [hfound, hhandle]
        exact List.mem_append_right _ (List.mem_map_of_mem hitem)
      obtain ⟨later, value, hvalue, hlater, hlast⟩ :=
        Instant.ended_of_mem_inTurn hkeeps hworld hstate hended hcheck
      have hspecifier := hformed.specifier hitem
      have hjudges : Rule.Judges replies handle item.2.specifier value :=
        ((Rule.keeps_dependency (hanswered handle hhandle) hspecifier item.1).ended hworld
          hlater).of_ok hlast
      rw [← Specifier.isMet_parse_iff (hanswered handle hhandle) hspecifier]
      rcases hjudges with hmet | ⟨-, finding, hfinding, hproblem⟩
      · exact hmet.1
      · exact absurd hproblem (hclean value hvalue finding hfinding)

end Workshop

/-! ## The command -/

/-- What is found by taking up a document for the first time while the gate is open. -/
theorem Session.step_init (session : Session) (hgate : session.gateOpen = true)
    (hon : session.tracker.enabled = true) {uri text : String}
    (hnew : session.tracker.isTracked uri = false) {manifest : Manifest}
    (hparse : Manifest.parse text = .ok manifest) :
    ∃ after outcome, session.step (.init uri text) = (after, some outcome) ∧
      ∀ answer, outcome = .ok answer →
        ∃ values, gathered (session.checked manifest) = .ok values ∧
          after.tracker.findingsOf uri = Rule.sorted manifest values := by
  let shop : Workshop := { session.toWorkshop with tracker := session.tracker.track uri text }
  have hstep : session.step (.init uri text) =
      ({ session with toWorkshop := (shop.startRefresh uri text).1 },
        (shop.startRefresh uri text).1.outcome? (shop.startRefresh uri text).2) := by
    unfold step begin
    simp only [hnew, Bool.false_eq_true, if_false]
    rfl
  have htracked : shop.tracker.isTracked uri = true := by
    rw [Tracker.isTracked, Entries.has]
    simp [shop, Tracker.track, Entries.get?_put]
  have hparse? : Manifest.parse? text = some manifest := by
    rw [Manifest.parse?, hparse]
    rfl
  cases hgathered : gathered (session.checked manifest) with
  | error fault =>
      have hfault := shop.startRefresh_fault hgate htracked hon hparse? hgathered
      rw [hstep, hfault]
      refine ⟨_, _, rfl, ?_⟩
      intro answer hanswer
      cases hanswer
  | ok values =>
      have houtcome : (shop.startRefresh uri text).1.outcome? (shop.startRefresh uri text).2 =
          some (.ok (.findings (Rule.sorted manifest values))) :=
        (shop.startRefresh_ok hgate htracked hon hparse? hgathered).1
      have htracker : (shop.startRefresh uri text).1.tracker =
          (shop.tracker.counted uri text).publish uri (Rule.sorted manifest values) :=
        (shop.startRefresh_ok hgate htracked hon hparse? hgathered).2
      rw [hstep, houtcome]
      refine ⟨_, _, rfl, fun _ _ => ⟨values, rfl, ?_⟩⟩
      change (shop.startRefresh uri text).1.tracker.findingsOf uri = _
      rw [htracker, Tracker.findingsOf_publish, if_pos rfl]

namespace Console

/-- The fault of a lookup ends the command. -/
theorem yields_orFault {α : Type} (ended : Except Fault α) :
    Yields (fun value => ended = .ok value) (orFault ended) := by
  cases ended with
  | ok value => exact yields_pure rfl
  | error fault => exact yields_breakDown _

theorem yields_noteUse (settings : Settings) (registry : Registry) :
    Yields (fun _ => True) (noteUse settings registry) := yields_modify _

end Console

open Console in
/-- A strict check goes on to its end only if all dependencies resolve. -/
theorem Command.yields_runCheck {settings : Settings} {around : Surroundings} {path : String}
    {manifest : Manifest} (hparse : Manifest.parse (fileText around.folder path) = .ok manifest)
    (henabled : settings.diagnosticsEnabled = some true) {replies : Request → Reply}
    (hregistry : (openedRegistry settings).Coherent around.host.answer replies)
    (hanswered : ∀ handle, Handle.find? manifest.indexUrl = some handle →
      ∀ index ∈ Plain.chain replies handle, Plain.WellAnswered replies index) :
    Yields (fun _ => manifest.Resolves replies) (runCheck settings around path true) := by
  unfold runCheck
  refine (yields_print _).bind fun _ _ => ?_
  dsimp only
  rw [hparse]
  dsimp only
  rw [if_neg (by simp [henabled])]
  let session : Session := { registry := openedRegistry settings, host := around.host }
  obtain ⟨after, outcome, hstep, hsorted⟩ := session.step_init rfl rfl rfl hparse
  rw [hstep]
  refine (yields_noteUse settings after.registry).bind fun _ _ => ?_
  refine (yields_orFault outcome).bind fun answer hanswer => ?_
  obtain ⟨values, hvalues, hfindings⟩ := hsorted answer hanswer
  refine yields_if True (fun _ => yields_printTable _ _ _) fun _ => ?_
  refine (yields_printPanel _ _).bind fun _ _ => ?_
  refine yields_if False (fun _ => yields_exit Nat.one_ne_zero) fun herrors => ?_
  split
  · refine (yields_print _).bind fun _ _ => ?_
    have hexit : Yields (fun _ => False) (exit 1 : Console Unit) := yields_exit Nat.one_ne_zero
    exact hexit.bind fun _ hnever => hnever.elim
  · next hnotStrict =>
      have hsummary : after.tracker.summaryOf path = .of (Rule.sorted manifest values) :=
        congrArg Summary.of hfindings
      rw [hsummary] at herrors hnotStrict
      have hnoErrors : (Summary.of (Rule.sorted manifest values)).errors = 0 := by
        simpa using herrors
      have hnoWarnings : (Summary.of (Rule.sorted manifest values)).warnings = 0 := by
        simpa using hnotStrict
      have hclean := Summary.no_problem hnoErrors hnoWarnings
      have hresolves : manifest.Resolves replies :=
        session.resolves_of_checked hregistry hparse hanswered hvalues
          fun value hvalue finding hfinding => hclean finding (Rule.mem_sorted hvalue hfinding)
      split
      · exact (yields_print _).mono fun _ _ => hresolves
      · exact yields_pure hresolves

/-! ## The program -/

/-- A command line asks for a strict check of the file at a path, and the settings that it
is done with are these, more or less logging apart. -/
def Surroundings.ChecksStrictly (around : Surroundings) (arguments : List String)
    (settings : Settings) (path : String) : Prop :=
  ∃ invocation, Invocation.parse arguments = .ok (.run invocation) ∧
    Settings.load around.folder invocation.config around.environment = .ok settings ∧
    Command.parse around.folder invocation.command invocation.rest = .ok (.check path true)

open Console in
/-- The settings of an invocation are the ones that were loaded, with more or less
logging. -/
theorem Invocation.yields_settings {invocation : Invocation} {around : Surroundings}
    {settings : Settings}
    (hload : Settings.load around.folder invocation.config around.environment = .ok settings) :
    Yields (fun used => ∃ level, used = { settings with logLevel := level })
      (invocation.settings around) := by
  unfold Invocation.settings
  rw [hload]
  refine yields_pure ?_
  split
  · exact ⟨_, rfl⟩
  · split
    · exact ⟨_, rfl⟩
    · exact ⟨settings.logLevel, rfl⟩

open Console in
/-- A strict check that ends with the exit code 0 has found that all dependencies
resolve. -/
theorem Surroundings.resolves_of_exitCode {around : Surroundings} {arguments : List String}
    {settings : Settings} {path : String} (h : around.ChecksStrictly arguments settings path)
    (henabled : settings.diagnosticsEnabled = some true) {manifest : Manifest}
    (hparse : Manifest.parse (fileText around.folder path) = .ok manifest)
    (hanswered : let replies := (openedRegistry settings).fetcher.replies around.host.answer
      ∀ handle, Handle.find? manifest.indexUrl = some handle →
        ∀ index ∈ Plain.chain replies handle, Plain.WellAnswered replies index)
    (hexit : (runProgram around arguments).exitCode = 0) :
    manifest.Resolves ((openedRegistry settings).fetcher.replies around.host.answer) := by
  obtain ⟨invocation, harguments, hload, hcommand⟩ := h
  let replies := (openedRegistry settings).fetcher.replies around.host.answer
  have hyields : Yields (fun _ => manifest.Resolves replies) (invocation.run around) := by
    refine (invocation.yields_settings hload).bind ?_
    rintro used ⟨level, rfl⟩
    refine (yields_modify _).bind fun _ _ => ?_
    rw [hcommand]
    exact Command.yields_runCheck hparse henabled (Registry.coherent_new ..) hanswered
  have hended := hyields.ended {}
  rw [runProgram, harguments] at hexit
  dsimp only [Order.perform] at hexit
  rcases hrun : ((invocation.run around).run.run {} : Except Stop Unit × Transcript) with
    ⟨ended, transcript⟩
  rw [hrun] at hended hexit
  cases ended with
  | ok value => exact hended
  | error stop => exact absurd hexit (hended transcript)

/-- **Strict checks.**  Suppose that the indexes in the chain of a manifest are well
answered.  Where versions and requirement are regular, the check of a dependency ends with
a value, and finds nothing or a notice if and only if the dependency resolves.  This holds
whatever others do meanwhile, and also if the configuration cannot be read as long as
notices have a cooldown.  A strict check of the manifest ends with the exit code 0 only if
all of its dependencies resolve. -/
theorem strict_check_passes_only_resolved {text : String} {manifest : Manifest}
    (hparse : Manifest.parse text = .ok manifest) {replies : Request → Reply}
    (hanswered : ∀ handle, Handle.find? manifest.indexUrl = some handle →
      ∀ index ∈ Plain.chain replies handle, Plain.WellAnswered replies index) :
    (∀ (handle : Handle) (answer : Request → Reply) (world : World Registry)
        (instant : Instant Registry),
      Handle.find? manifest.indexUrl = some handle →
      (∀ index ∈ Plain.chain replies handle, Plain.RegularVersions replies index) →
      world.Keeps (Registry.coherence answer replies) → instant.state.Coherent answer replies →
      ((∃ config, Plain.config replies handle = .ok config) ∨
        world.Keeps Registry.cooling ∧ Registry.cooling.state instant.state) →
      ∀ item ∈ manifest.dependencies.items,
        (∀ version, Version.anchor? item.2.specifier.requirement = some version →
          version.Regular) →
        ∃ value, instant.ended world (Rule.dependency handle item.1 item.2) = .ok value ∧
          ((∀ finding ∈ value, finding.IsNotice) ↔ item.2.Resolves replies handle)) ∧
    ∀ (around : Surroundings) (arguments : List String) (settings : Settings) (path : String),
      around.ChecksStrictly arguments settings path →
      settings.diagnosticsEnabled = some true →
      Console.fileText around.folder path = text →
      (Console.openedRegistry settings).fetcher.replies around.host.answer = replies →
      (runProgram around arguments).exitCode = 0 → manifest.Resolves replies := by
  constructor
  · intro handle answer world instant hhandle hversions hworld hstate hnotices item hitem
      hrequirement
    have hspecifier := (Manifest.parse_formed hparse).specifier hitem
    exact Rule.ended_dependency (hanswered handle hhandle) hspecifier hversions hrequirement
      hworld hstate hnotices item.1
  · rintro around arguments settings path hchecks henabled rfl rfl hexit
    exact Surroundings.resolves_of_exitCode hchecks henabled hparse hanswered hexit

/-! ## A run -/

/-- Without a file and variables the settings are the default ones. -/
theorem Settings.load_default {folder : Folder} (hfile : folder.read? fileName = none) :
    Settings.load folder none [] = .ok {} := by
  have hread : fromFile folder none = .ok {} := by
    simp only [fromFile, Option.getD_none, hfile]
  have hlayer : environmentLayer [] = {} := rfl
  have hassigned : assignAll [] {} Setting.all = ({}, none) := rfl
  have hnames : unknownNames [] = [] := List.mergeSort_nil
  have hlayered : layered {} {} "environment" = .ok {} := by
    simp only [layered, apply, hassigned, hnames]
  rw [load, hread, hlayer]
  simp only [hlayered, bind, Except.bind]
  rfl

namespace Release

open Superscript (entry line client)

/-- An index with one package, of which there is one version. -/
def host : Host := .repositories [("o/r", {
  trees := [("main", .payload (entry "a" "tree" "ta")), ("ta", .payload (entry "b" "blob" "bb"))]
  blobs := [("bb", .payload (.string (line "1.0.0")))] })]

/-- The replies that a command gets. -/
def replies : Request → Reply := (Console.openedRegistry {}).fetcher.replies host.answer

/-- The registry that a command opens. -/
def start : Instant Registry := ⟨Console.openedRegistry {}, 0⟩

/-- A folder with a manifest that depends on the package. -/
def around : Surroundings where
  folder := ⟨"/work", [("wally.toml", Superscript.manifest)]⟩
  environment := []
  host := host

theorem root_eq : Plain.root replies client = .ok ⟨[⟨"a", .string "ta"⟩], none⟩ := rfl

theorem author_eq : Plain.author replies client "a" =
    .ok (some ⟨"a", .string "ta", [⟨"b", .string "bb"⟩]⟩) := rfl

theorem author_eq_none {key : String} (hkey : "a" ≠ key) :
    Plain.author replies client key = .ok none := by
  rw [Plain.author, root_eq]
  simp [bind, Except.bind, Index.Root.idOf?, Index.idOf?, hkey]
  rfl

theorem wellAnswered : Plain.WellAnswered replies client where
  root := ⟨_, rfl, fun entry hentry => by
    obtain rfl := List.mem_singleton.mp hentry
    exact ⟨⟨"a", rfl⟩, "ta", rfl⟩⟩
  authors root hroot listed hlisted := by
    obtain rfl := Except.ok.inj (root_eq.symm.trans hroot)
    obtain rfl := List.mem_singleton.mp hlisted
    refine ⟨_, rfl, fun entry hentry => ?_⟩
    obtain rfl := List.mem_singleton.mp hentry
    exact ⟨⟨"b", rfl⟩, "bb", rfl⟩
  packages key author hauthor listed hlisted := by
    by_cases hkey : "a" = key
    · subst hkey
      obtain rfl := Option.some.inj (Except.ok.inj (author_eq.symm.trans hauthor))
      obtain rfl := List.mem_singleton.mp hlisted
      exact ⟨_, rfl⟩
    · cases (author_eq_none hkey).symm.trans hauthor

theorem replies_blob (id : Json) : replies (client.request .blob id) =
    match Host.find? [("bb", .payload (.string (line "1.0.0")))] id with
    | .ok (some stored) => Host.ofStored stored
    | .ok none => .ok Host.missing
    | .error fault => .error fault := rfl

/-- There is no other history. -/
theorem history_eq {id : Json} {history : String}
    (h : Plain.payload replies client .blob id = .ok (.string history)) :
    history = line "1.0.0" := by
  rw [Plain.payload, replies_blob] at h
  cases id with
  | string key =>
      by_cases hkey : "bb" = key
      · simp only [Host.find?, Entries.get?, hkey, if_true] at h
        exact (Json.string.inj (Except.ok.inj h)).symm
      · simp only [Host.find?, Entries.get?, hkey, if_false] at h
        cases h
  | _ => cases h

theorem regularVersions : Plain.RegularVersions replies client := by
  intro author name text version hpublishes hparse
  obtain ⟨id, history, hpayload, hmem⟩ := hpublishes.exists_blob
  obtain rfl := history_eq hpayload
  have htexts : (Record.history (line "1.0.0").toList).map (·.version) = ["1.0.0"] := by
    decide +kernel
  rw [htexts] at hmem
  obtain rfl := List.mem_singleton.mp hmem
  have hrelease : (Version.parse? "1.0.0").map (·.prerelease) = some "" := by decide
  rw [hparse] at hrelease
  exact Version.regular_of_release (Option.some.inj hrelease)

/-- The command line of a strict check. -/
def arguments : List String := ["check", "--strict", "wally.toml"]

theorem checksStrictly : around.ChecksStrictly arguments {} "wally.toml" := by
  refine ⟨⟨none, false, false, .check, ["--strict", "wally.toml"]⟩, ?_, ?_, ?_⟩
  · exact eq_ok_of_toOption (by decide)
  · exact Settings.load_default (by decide)
  · exact eq_ok_of_toOption (by decide)

end Release

open Release in
open Superscript (client) in
/-- A strict check of the manifest passes, and its dependency resolves. -/
theorem strict_check_of_release :
    ∃ manifest item, Manifest.parse Superscript.manifest = .ok manifest ∧
      manifest.dependencies.items = [item] ∧
      (∃ value, start.ended (.steady host.answer) (Rule.dependency client item.1 item.2) =
        .ok value ∧ ∀ finding ∈ value, finding.IsNotice) ∧
      (runProgram around arguments).exitCode = 0 ∧ manifest.Resolves replies := by
  have hread : (Manifest.parse? Superscript.manifest).map (fun manifest =>
      (Handle.find? manifest.indexUrl,
        manifest.dependencies.items.map (·.2.specifier.requirement))) =
      some (some client, ["1.0.0"]) := by
    rw [Manifest.parse?, Manifest.parse, show Superscript.manifest.toList = _ from
      String.toList_append, String.toList_ofList, String.toList_ofList]
    decide +kernel
  obtain ⟨manifest, hparse?, hmanifest⟩ := Option.map_eq_some_iff.mp hread
  have hparse : Manifest.parse Superscript.manifest = .ok manifest := eq_ok_of_toOption hparse?
  obtain ⟨hclient, hrequirements⟩ := Prod.mk.inj hmanifest
  obtain ⟨item, rest, hitems, hrequirement, hrest⟩ := List.map_eq_cons_iff.mp hrequirements
  obtain rfl := List.map_eq_nil_iff.mp hrest
  have hitem : item ∈ manifest.dependencies.items := hitems ▸ List.mem_singleton_self item
  have hregular : ∀ version, Version.anchor? item.2.specifier.requirement = some version →
      version.Regular := by
    intro version hversion
    have hrelease : (Version.anchor? "1.0.0").map (·.prerelease) = some "" := by decide
    rw [← hrequirement, hversion] at hrelease
    exact Version.regular_of_release (Option.some.inj hrelease)
  have hanswered : ∀ handle, Handle.find? manifest.indexUrl = some handle →
      ∀ index ∈ Plain.chain replies handle, Plain.WellAnswered replies index := by
    intro handle hhandle index hindex
    obtain rfl := Option.some.inj (hclient.symm.trans hhandle)
    exact List.mem_singleton.mp hindex ▸ wellAnswered
  have hversions : ∀ index ∈ Plain.chain replies client, Plain.RegularVersions replies index :=
    fun index hindex => List.mem_singleton.mp hindex ▸ regularVersions
  have hstrict := strict_check_passes_only_resolved hparse hanswered
  have hexit : (runProgram around arguments).exitCode = 0 := by decide +kernel
  have hresolves : manifest.Resolves replies :=
    hstrict.2 around arguments {} "wally.toml" checksStrictly rfl (by decide +kernel) rfl hexit
  refine ⟨manifest, item, hparse, hitems, ?_, hexit, hresolves⟩
  obtain ⟨handle, hhandle, hall⟩ := hresolves
  obtain rfl := Option.some.inj (hclient.symm.trans hhandle)
  obtain ⟨value, hvalue, hnotices⟩ := hstrict.1 client host.answer (.steady host.answer) start
    hclient hversions (World.keeps_coherence_steady ..) (Registry.coherent_new ..)
    (.inl ⟨none, rfl⟩) item hitem hregular
  exact ⟨value, hvalue, hnotices.mpr (hall item hitem)⟩

end ManifestLint
