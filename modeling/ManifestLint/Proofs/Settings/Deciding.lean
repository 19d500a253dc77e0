import Mathlib.Logic.Function.Basic
import Mathlib.Tactic.Choose
import ManifestLint.Proofs.Settings.WellTyped

/-!
# Which entry decides a setting

A setting may stand in the file, in a variable, or nowhere, and the token in a variable more.  One
of these entries decides the setting, whatever the entries of the others say: an assignment writes
one field, and reads none.  So two layers, one assigned after the other, come to one entry for each
setting.  All values of the file have to be taken still, also those that are assigned again.

* `assign_eq`: an assignment as an update of one value.
* `layered_eq_ok_iff`: what a layer leads to, setting by setting.
* `load_decided`: what file and environment lead to, setting by setting.
-/

namespace ManifestLint

open ManifestLint.Yaml (Node Scalar)

/-- What the values of a setting are. -/
def Setting.Kind : Setting → Type
  | timeout | cooldown => Float
  | diagnosticsEnabled => Bool
  | token | apiUrl | logLevel | defaultIndex => String

namespace Settings

/-! ## Values one by one -/

/-- The value of a setting. -/
def value (settings : Settings) : (setting : Setting) → Option setting.Kind
  | .token => settings.token
  | .apiUrl => settings.apiUrl
  | .timeout => settings.timeout
  | .cooldown => settings.cooldown
  | .logLevel => settings.logLevel
  | .diagnosticsEnabled => settings.diagnosticsEnabled
  | .defaultIndex => settings.defaultIndex

/-- The settings with these values. -/
def ofValues (values : (setting : Setting) → Option setting.Kind) : Settings where
  token := values .token
  apiUrl := values .apiUrl
  timeout := values .timeout
  cooldown := values .cooldown
  logLevel := values .logLevel
  diagnosticsEnabled := values .diagnosticsEnabled
  defaultIndex := values .defaultIndex

@[simp]
theorem value_ofValues (values : (setting : Setting) → Option setting.Kind) (setting : Setting) :
    (ofValues values).value setting = values setting := by
  cases setting <;> rfl

theorem eq_of_value {first second : Settings}
    (hvalue : ∀ setting, first.value setting = second.value setting) : first = second := by
  cases first
  cases second
  congr 1
  exacts [hvalue .token, hvalue .apiUrl, hvalue .timeout, hvalue .cooldown, hvalue .logLevel,
    hvalue .diagnosticsEnabled, hvalue .defaultIndex]

/-- What a setting becomes when a value is assigned to it. -/
def coerce (value : Node) : (setting : Setting) → Except SettingsError (Option setting.Kind)
  | .timeout => given value (number .timeout value)
  | .cooldown => given value (number .cooldown value)
  | .diagnosticsEnabled =>
    let flag := (boolean? value).elim (.error (.notBoolean .diagnosticsEnabled value)) .ok
    given value (ifWritable value flag)
  | .token | .apiUrl | .logLevel | .defaultIndex =>
    given value (ifWritable value (.ok value.display))

/-- An assignment updates one value, and reads none. -/
theorem assign_eq (settings : Settings) (setting : Setting) (value : Node) :
    settings.assign setting value = (coerce value setting).map fun result =>
      ofValues (Function.update settings.value setting result) := by
  cases setting <;> exact (map_eq_pure_bind _ _).symm

/-! ## Layers -/

/-- What a setting becomes if an entry decides it: what it was, if there is no entry. -/
def decided (entry : Option Node) (setting : Setting) (before : Option setting.Kind) :
    Except SettingsError (Option setting.Kind) :=
  entry.elim (.ok before) (coerce · setting)

/-- Assignments lead to the values that the entries decide, or to an error. -/
theorem assignAll_eq_iff (values : Entries String Node) (chosen : List Setting)
    (settings next : Settings) :
    assignAll values settings chosen = (next, none) ↔
      ∀ setting, (if setting ∈ chosen then
        decided (values.get? setting.name) setting (settings.value setting)
        else .ok (settings.value setting)) = .ok (next.value setting) := by
  induction chosen generalizing settings with
  | nil =>
      simp only [assignAll, Prod.mk.injEq, and_true, List.not_mem_nil, if_false, Except.ok.injEq]
      exact ⟨fun hnext _ => hnext ▸ rfl, eq_of_value⟩
  | cons first rest ih =>
      cases hentry : values.get? first.name with
      | none =>
          rw [assignAll, hentry, ih]
          refine forall_congr' fun setting => ?_
          by_cases hsame : setting = first
          · simp [hsame, hentry, decided]
          · simp [hsame]
      | some value =>
          cases hcoerce : coerce value first with
          | error error =>
              simp only [assignAll, hentry, assign_eq, hcoerce, Except.map, Prod.mk.injEq,
                reduceCtorEq, and_false, false_iff]
              intro hnext
              have hfirst := hnext first
              rw [if_pos List.mem_cons_self, hentry, decided, Option.elim_some, hcoerce] at hfirst
              cases hfirst
          | ok result =>
              simp only [assignAll, hentry, assign_eq, hcoerce, Except.map, ih, value_ofValues]
              refine forall_congr' fun setting => ?_
              by_cases hsame : setting = first
              · subst hsame
                simp [hentry, decided, hcoerce]
              · simp [hsame]

/-- No name is unknown exactly if a setting has each. -/
theorem unknownNames_eq_nil_iff {values : Entries String Node} :
    unknownNames values = [] ↔ ∀ name ∈ values.keys, (Setting.ofName? name).isSome = true := by
  rw [unknownNames, ← List.length_eq_zero_iff, List.length_mergeSort, List.length_eq_zero_iff,
    List.filter_eq_nil_iff]
  simp [Option.isSome_iff_ne_none]

/-- What a layer leads to. -/
theorem layered_eq_ok_iff {settings next : Settings} {layer : Layer} {source : String} :
    settings.layered layer source = .ok next ↔
      (∀ setting, decided (layer.values.get? setting.name) setting (settings.value setting) =
        .ok (next.value setting)) ∧
      layer.otherNames = [] ∧ ∀ name ∈ layer.values.keys, (Setting.ofName? name).isSome = true := by
  have hassign := assignAll_eq_iff layer.values Setting.all settings
  simp only [Setting.mem_all, if_true] at hassign
  rw [← hassign, ← unknownNames_eq_nil_iff]
  unfold layered apply
  cases assignAll layer.values settings Setting.all with
  | mk assigned error =>
      cases error with
      | some error => simp
      | none =>
          cases hothers : layer.otherNames with
          | nil => cases unknownNames layer.values <;> simp
          | cons other others =>
              have hnames :
                  (unknownNames layer.values).map Scalar.text ++ other :: others ≠ [] := by simp
              obtain ⟨error, herror, -⟩ := namesError_fault hnames
              simp [herror]

/-! ## The file -/

/-- The path of the file that is read, as it is shown: the one that was asked for, else the default
one. -/
def shownPath (folder : Folder) (path : Option String) : String :=
  path.elim (folder.location ++ "/" ++ fileName) normalPath

/-- The layer of the file that is read: nothing if it is the default one and missing. -/
def readLayer (folder : Folder) (path : Option String) : Except SettingsError Layer :=
  match folder.read? (path.getD fileName), path with
  | some text, _ => fileLayer (shownPath folder path) text
  | none, some _ => .error (.missing (shownPath folder path))
  | none, none => .ok {}

variable {folder : Folder} {path : Option String}

theorem fromFile_eq (folder : Folder) (path : Option String) :
    fromFile folder path =
      (readLayer folder path).bind fun layer => layered {} layer (shownPath folder path) := by
  unfold fromFile readLayer
  cases path with
  | none =>
      cases folder.read? (Option.getD none fileName) with
      | none => exact (layered_eq_ok_iff.mpr ⟨fun _ => rfl, rfl, by simp [Entries.keys]⟩).symm
      | some text => rfl
  | some path => cases folder.read? (Option.getD (some path) fileName) <;> rfl

end Settings

/-- A layer that is valid on its own: settings take all of its values, and it has no other names. -/
structure Layer.Valid (layer : Layer) : Prop where
  taken : ∀ setting value, layer.values.get? setting.name = some value →
    (Settings.coerce value setting).isOk = true
  texts : layer.otherNames = []
  known : ∀ name ∈ layer.values.keys, (Setting.ofName? name).isSome = true

namespace Settings

/-- A layer is taken exactly if it is valid on its own, whatever it is assigned to. -/
theorem exists_layered_iff {settings : Settings} {layer : Layer} {source : String} :
    (∃ next, settings.layered layer source = .ok next) ↔ layer.Valid := by
  simp only [layered_eq_ok_iff]
  constructor
  · rintro ⟨next, hnext, htexts, hknown⟩
    refine ⟨fun setting value hentry => ?_, htexts, hknown⟩
    have hcoerce := hnext setting
    rw [hentry, decided, Option.elim_some] at hcoerce
    rw [hcoerce]
    rfl
  · rintro ⟨htaken, htexts, hknown⟩
    have hafter : ∀ setting, ∃ after, decided (layer.values.get? setting.name) setting
        (settings.value setting) = .ok after := by
      intro setting
      cases hentry : layer.values.get? setting.name with
      | none => exact ⟨_, rfl⟩
      | some value => exact exists_of_isOk (htaken setting value hentry)
    choose after hafter using hafter
    exact ⟨ofValues after, by simpa only [value_ofValues] using hafter, htexts, hknown⟩

theorem fromFile_eq_ok_iff {first : Settings} :
    fromFile folder path = .ok first ↔ ∃ layer, readLayer folder path = .ok layer ∧
      ({} : Settings).layered layer (shownPath folder path) = .ok first := by
  rw [fromFile_eq]
  cases readLayer folder path <;> simp [Except.bind]

/-! ## File and environment -/

/-- What the environment says of a setting: its variable, else the token variable for the token,
unless that is empty. -/
def textFor? (environment : Entries String String) (setting : Setting) : Option String :=
  (environment.get? (variableName setting)).or
    ((environment.get? tokenVariable).filter fun text => setting = .token ∧ text ≠ "")

/-- The entry that decides a setting: the one in the environment, else the one in the file. -/
def deciding? (layer : Layer) (environment : Entries String String) (setting : Setting) :
    Option Node :=
  ((textFor? environment setting).map Node.text).or (layer.values.get? setting.name)

/-- What is left of a value in the end: an empty token is none. -/
def settled : (setting : Setting) → Option setting.Kind → Option setting.Kind
  | .token => Option.filter fun text : String => text ≠ ""
  | .apiUrl | .timeout | .cooldown | .logLevel | .diagnosticsEnabled | .defaultIndex => id

/-- An entry that comes first decides alone, but the other one has to be taken. -/
theorem decided_or {first second : Option Node} {setting : Setting}
    {before between : Option setting.Kind}
    (hbetween : decided second setting before = .ok between) :
    decided (first.or second) setting before = decided first setting between := by
  cases first with
  | none => exact hbetween
  | some value => rfl

/-- The environment has no names but those of settings. -/
theorem known_environmentLayer (environment : Entries String String) :
    ∀ name ∈ (environmentLayer environment).values.keys,
      (Setting.ofName? name).isSome = true := by
  have hname : ∀ setting : Setting, (Setting.ofName? setting.name).isSome = true := by
    intro setting
    cases setting <;> decide
  simp only [environmentLayer]
  refine List.foldlRecOn Setting.all _ (motive := fun values : Entries String Node =>
    ∀ name ∈ values.keys, (Setting.ofName? name).isSome = true) ?_
    fun values hvalues setting _ => ?_
  · cases environment.get? tokenVariable with
    | none => simp [Entries.keys]
    | some text =>
        by_cases hempty : text = ""
        · simp [hempty, Entries.keys]
        · simp [hempty, Entries.keys, hname]
  · cases environment.get? (variableName setting) with
    | none => exact hvalues
    | some text =>
        intro name hmem
        rw [Entries.keys_put] at hmem
        split at hmem
        · exact hvalues name hmem
        · rcases List.mem_append.mp hmem with hmem | hmem
          · exact hvalues name hmem
          · exact List.mem_singleton.mp hmem ▸ hname setting

theorem layered_environment_eq_ok_iff {environment : Entries String String}
    {first second : Settings} {source : String} :
    first.layered (environmentLayer environment) source = .ok second ↔
      ∀ setting, decided ((textFor? environment setting).map Node.text) setting
        (first.value setting) = .ok (second.value setting) := by
  have hentry : ∀ setting, (environmentLayer environment).values.get? setting.name =
      (textFor? environment setting).map Node.text := fun setting => by
    rw [get?_environmentLayer, textFor?, Option.map_or]
  rw [layered_eq_ok_iff]
  simp only [hentry]
  exact and_iff_left ⟨rfl, known_environmentLayer environment⟩

theorem settle_eq (second : Settings) :
    settle second =
      if (second.logLevel.bind LogLevel.ofName?).isNone then
        .error (.unknownLogLevel second.logLevel)
      else .ok (ofValues fun setting => settled setting (second.value setting)) := by
  have htoken : settled .token second.token =
      if second.token = some "" then none else second.token := by
    cases second.token with
    | none => rfl
    | some text => by_cases hempty : text = "" <;> simp [settled, Option.filter, hempty] <;> rfl
  have hlast : (if second.token = some "" then { second with token := none } else second) =
      ofValues fun setting => settled setting (second.value setting) := by
    refine eq_of_value fun setting => ?_
    rw [value_ofValues]
    cases setting with
    | token =>
        refine Eq.trans ?_ htoken.symm
        split <;> rfl
    | _ => split <;> rfl
  rw [settle, hlast]

theorem settle_eq_ok_iff {second settings : Settings} :
    settle second = .ok settings ↔
      (∀ setting, settled setting (second.value setting) = settings.value setting) ∧
        (settings.logLevel.bind LogLevel.ofName?).isSome = true := by
  let last := ofValues fun setting => settled setting (second.value setting)
  have hlast : ∀ setting, last.value setting = settled setting (second.value setting) :=
    value_ofValues _
  have hsettle : settle second =
      if (last.logLevel.bind LogLevel.ofName?).isNone then .error (.unknownLogLevel second.logLevel)
      else .ok last := settle_eq second
  rw [hsettle]
  simp only [← hlast]
  constructor
  · intro hok
    split at hok
    · cases hok
    · next hknown =>
        obtain rfl := Except.ok.inj hok
        exact ⟨fun _ => rfl, Option.isSome_iff_ne_none.mpr fun hnone => hknown (by rw [hnone]; rfl)⟩
  · rintro ⟨hvalues, hknown⟩
    obtain rfl := eq_of_value hvalues
    exact if_neg fun hnone => by
      rw [Option.isNone_iff_eq_none.mp hnone] at hknown
      cases hknown

theorem load_eq_ok_iff {environment : Entries String String} {settings : Settings} :
    load folder path environment = .ok settings ↔
      ∃ first second, fromFile folder path = .ok first ∧
        first.layered (environmentLayer environment) "environment" = .ok second ∧
        settle second = .ok settings := by
  constructor
  · intro hload
    cases hfile : fromFile folder path with
    | error error => simp only [load, hfile] at hload; cases hload
    | ok first =>
        rw [load_of_fromFile environment hfile] at hload
        cases hsecond : first.layered (environmentLayer environment) "environment" with
        | error error => rw [hsecond] at hload; cases hload
        | ok second => exact ⟨first, second, rfl, hsecond, by rwa [hsecond] at hload⟩
  · rintro ⟨first, second, hfile, hsecond, hsettle⟩
    rw [load_of_fromFile environment hfile, hsecond]
    exact hsettle

/-- **Each setting is decided by its own entries.**  Settings are loaded exactly if the file that
is there is read and is valid on its own, the entry that decides a setting is taken for each of
them, and they have a known log level in the end; and each of them is what its own entry says.  A
file that is not valid on its own is an error, whatever the environment says. -/
theorem load_decided (folder : Folder) (path : Option String) :
    (∀ environment settings, load folder path environment = .ok settings ↔
      ∃ layer, readLayer folder path = .ok layer ∧ layer.Valid ∧
        (∀ setting, (decided (deciding? layer environment setting) setting
          (({} : Settings).value setting)).map (settled setting) = .ok (settings.value setting)) ∧
        (settings.logLevel.bind LogLevel.ofName?).isSome = true) ∧
    ∀ layer, readLayer folder path = .ok layer → ¬ layer.Valid →
      ∃ error, ∀ environment, load folder path environment = .error error := by
  refine ⟨fun environment settings => ?_, fun layer hlayer hinvalid => ?_⟩
  · rw [load_eq_ok_iff]
    constructor
    · rintro ⟨first, second, hfile, hsecond, hsettle⟩
      obtain ⟨layer, hlayer, hfirst⟩ := fromFile_eq_ok_iff.mp hfile
      obtain ⟨hsettled, hknown⟩ := settle_eq_ok_iff.mp hsettle
      refine ⟨layer, hlayer, exists_layered_iff.mp ⟨first, hfirst⟩, fun setting => ?_, hknown⟩
      rw [deciding?, decided_or ((layered_eq_ok_iff.mp hfirst).1 setting),
        layered_environment_eq_ok_iff.mp hsecond setting, ← hsettled setting]
      rfl
    · rintro ⟨layer, hlayer, hvalid, hentries, hknown⟩
      obtain ⟨first, hfirst⟩ := exists_layered_iff.mpr hvalid
      have hsecond : ∀ setting, ∃ second, decided ((textFor? environment setting).map Node.text)
          setting (first.value setting) = .ok second ∧
            settled setting second = settings.value setting := by
        intro setting
        have hentry := hentries setting
        rw [deciding?, decided_or ((layered_eq_ok_iff.mp hfirst).1 setting)] at hentry
        cases hdecided : decided ((textFor? environment setting).map Node.text) setting
            (first.value setting) with
        | error error => rw [hdecided] at hentry; cases hentry
        | ok second => rw [hdecided] at hentry; exact ⟨second, rfl, Except.ok.inj hentry⟩
      choose second hsecond hsettled using hsecond
      refine ⟨first, ofValues second, fromFile_eq_ok_iff.mpr ⟨layer, hlayer, hfirst⟩,
        layered_environment_eq_ok_iff.mpr fun setting => ?_,
        settle_eq_ok_iff.mpr ⟨fun setting => ?_, hknown⟩⟩
      · rw [value_ofValues, hsecond]
      · rw [value_ofValues, hsettled]
  · have hrefused : ∀ first, fromFile folder path ≠ .ok first := fun first hfile => by
      obtain ⟨other, hother, hfirst⟩ := fromFile_eq_ok_iff.mp hfile
      obtain rfl := Except.ok.inj (hlayer.symm.trans hother)
      exact hinvalid (exists_layered_iff.mp ⟨first, hfirst⟩)
    cases hfile : fromFile folder path with
    | error error => exact ⟨error, fun environment => by rw [load, hfile]; rfl⟩
    | ok first => exact absurd hfile (hrefused first)

/-- A log level that is not known may be overridden, a value of the wrong kind may not. -/
theorem overridden_level_loads :
    (∃ settings, load (folderWith "log_level: loud") none [("WALLY_LINT_LOG_LEVEL", "quiet")] =
      .ok settings) ∧
    ∃ error, ∀ environment, load (folderWith "diagnostics_enabled: maybe") none environment =
      .error error := by
  refine ⟨exists_of_isOk (by decide +kernel), ?_⟩
  have hmisfit : (match readLayer (folderWith "diagnostics_enabled: maybe") none with
      | .error _ => false
      | .ok layer => (layer.values.get? Setting.diagnosticsEnabled.name).any fun value =>
          !(coerce value .diagnosticsEnabled).isOk) = true := by
    decide +kernel
  split at hmisfit
  · cases hmisfit
  · next layer hlayer =>
      obtain ⟨value, hvalue, hrefused⟩ := (Option.any_eq_true _ _).mp hmisfit
      refine (load_decided _ none).2 layer hlayer fun hvalid => ?_
      rw [hvalid.taken .diagnosticsEnabled value hvalue] at hrefused
      cases hrefused

end Settings

end ManifestLint
