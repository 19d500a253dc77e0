import ManifestLint.Proofs.Settings.Layers
import ManifestLint.Settings.Loading

/-!
# Settings that are well typed

Whatever a file and the environment hold, settings are loaded or there is an error.  The environment
holds texts only, so it is never the reason of a fault: the file is, in its values or its names.
Settings that are loaded have a value of the right kind each, but for those that the file unsets and
the environment does not set again.

* `get?_environmentLayer`: what the environment gives; `isFaulty_environmentLayer`: never a fault.
* `fromFile_cases`: what the file leads to; `load_cases`: what file and environment lead to.
* `load_wellTyped_iff`: which files end in a fault, and which leave a setting without a value.
-/

namespace ManifestLint.Settings

open ManifestLint.Yaml (Node Scalar)

/-- Settings of which all have values of their kinds; only the token may be missing. -/
structure WellTyped (settings : Settings) : Prop where
  isSet : ∀ setting, setting ≠ .token → settings.isSet setting = true
  logLevel : (settings.logLevel.bind LogLevel.ofName?).isSome = true
  token : settings.token ≠ some ""

/-- The layer of the file that is read: empty if there is no file, or no table in it. -/
def givenLayer (folder : Folder) (path : Option String) : Layer :=
  match (folder.read? (path.getD fileName)).map fun text =>
      Yaml.decode (Text.unifyLineEnds text.toList) with
  | some (.ok node) => (Layer.ofNode? node).getD {}
  | _ => {}

/-- The file that is read is a document, if there is one. -/
def FileDecodes (folder : Folder) (path : Option String) : Prop :=
  ∀ text, folder.read? (path.getD fileName) = some text →
    ∃ node, Yaml.decode (Text.unifyLineEnds text.toList) = .ok node

/-! ## The environment -/

/-- What is read after some settings were put, if it is known for each of them. -/
theorem get?_foldl {put : Entries String Node → Setting → Entries String Node}
    (given : Setting → Option Node)
    (hput : ∀ values setting other, (put values setting).get? (Setting.name other) =
      if other = setting then (given other).or (values.get? other.name)
      else values.get? other.name)
    (chosen : List Setting) (values : Entries String Node) (setting : Setting) :
    Entries.get? (chosen.foldl put values) setting.name =
      if setting ∈ chosen then (given setting).or (values.get? setting.name)
      else values.get? setting.name := by
  induction chosen generalizing values with
  | nil => simp
  | cons first rest ih =>
      rw [List.foldl_cons, ih, hput]
      by_cases hsame : setting = first
      · simp [hsame, ← Option.or_assoc]
      · simp [hsame]

variable (environment : Entries String String)

/-- What the environment gives: the variable of a setting, or else the token variable. -/
theorem get?_environmentLayer (setting : Setting) :
    (environmentLayer environment).values.get? setting.name =
      ((environment.get? (variableName setting)).map Node.text).or
        (((environment.get? tokenVariable).filter fun text => setting = .token ∧ text ≠ "").map
          Node.text) := by
  simp only [environmentLayer]
  refine (get?_foldl (fun setting => (environment.get? (variableName setting)).map Node.text)
    (fun values first other => ?_) _ _ _).trans ((if_pos setting.mem_all).trans ?_)
  · by_cases hsame : other = first
    · subst hsame
      cases environment.get? (variableName other) <;> simp [Entries.get?_put]
    · have hname : first.name ≠ other.name := fun h => hsame (Setting.name_injective h).symm
      cases environment.get? (variableName first) <;> simp [hsame, hname, Entries.get?_put]
  · congr 1
    cases environment.get? tokenVariable with
    | none => rfl
    | some text =>
        by_cases hempty : text = ""
        · simp [hempty, Entries.get?, Option.filter_some]
        · cases setting <;> simp [hempty, Entries.get?, Setting.name, Option.filter_some]

/-- The environment is never the reason of a fault. -/
theorem isFaulty_environmentLayer : (environmentLayer environment).isFaulty = false := by
  unfold Layer.isFaulty
  split
  · next misfit _ =>
      rw [get?_environmentLayer, ← Option.map_or]
      generalize Option.or (environment.get? (variableName misfit)) _ = given
      cases given with
      | none => rfl
      | some text => cases misfit <;> rfl
  · rfl

/-- A variable sets its setting, whatever was before. -/
theorem sets_environmentLayer {setting : Setting} (hother : setting ≠ .token) (before : Bool) :
    (environmentLayer environment).sets before setting =
      ((environment.get? (variableName setting)).isSome || before) := by
  have htoken : ((environment.get? tokenVariable).filter fun text =>
      setting = .token ∧ text ≠ "") = none :=
    Option.filter_eq_none_iff.mpr (by simp [hother])
  rw [Layer.sets, get?_environmentLayer, htoken]
  cases environment.get? (variableName setting) <;> rfl

/-! ## File and environment -/

theorem isSet_default {setting : Setting} (hother : setting ≠ .token) :
    ({} : Settings).isSet setting = true := by
  cases setting with
  | token => exact absurd rfl hother
  | _ => rfl

variable {folder : Folder} {path : Option String}

theorem fromFile_of_decode {text : String} {node : Node}
    (hread : folder.read? (path.getD fileName) = some text)
    (hnode : Yaml.decode (Text.unifyLineEnds text.toList) = .ok node) :
    ∃ source, fromFile folder path =
      (Layer.ofNode? node).elim (.error (.notTable source)) (layered {} · source) := by
  refine ⟨path.elim (folder.location ++ "/" ++ fileName) normalPath, ?_⟩
  simp only [fromFile, hread, fileLayer, hnode]
  cases path with
  | none => cases Layer.ofNode? node <;> rfl
  | some path => cases Layer.ofNode? node <;> rfl

/-- What the file leads to. -/
theorem fromFile_cases (hdecodes : FileDecodes folder path) :
    (∃ settings, fromFile folder path = .ok settings ∧
      (givenLayer folder path).isFaulty = false ∧
      ∀ setting, setting ≠ .token →
        settings.isSet setting = (givenLayer folder path).sets true setting) ∨
    ∃ error, fromFile folder path = .error error ∧
      error.isConfiguration = !(givenLayer folder path).isFaulty := by
  cases hread : folder.read? (path.getD fileName) with
  | none =>
      have hgiven : givenLayer folder path = {} := by rw [givenLayer, hread]; rfl
      rw [hgiven]
      cases path with
      | none => exact .inl ⟨{}, by simp only [fromFile, hread], rfl, fun _ => isSet_default⟩
      | some path => exact .inr ⟨_, by simp only [fromFile, hread]; rfl, rfl⟩
  | some text =>
      obtain ⟨node, hnode⟩ := hdecodes text hread
      have hgiven : givenLayer folder path = (Layer.ofNode? node).getD {} := by
        simp only [givenLayer, hread, Option.map_some, hnode]
      obtain ⟨source, hfrom⟩ := fromFile_of_decode hread hnode
      rw [hgiven, hfrom]
      cases Layer.ofNode? node with
      | none => exact .inr ⟨.notTable source, rfl, rfl⟩
      | some layer =>
          rcases layered_cases {} layer source with
            ⟨settings, hsettings, hfaulty, hset⟩ | ⟨error, herror⟩
          · refine .inl ⟨settings, hsettings, hfaulty, fun setting hother => ?_⟩
            rw [hset, isSet_default hother, Option.getD_some]
          · exact .inr ⟨error, herror⟩

/-- What is left to do with settings once file and environment were read. -/
def settle (settings : Settings) : Except SettingsError Settings :=
  if (settings.logLevel.bind LogLevel.ofName?).isNone then
    .error (.unknownLogLevel settings.logLevel)
  else .ok (if settings.token = some "" then { settings with token := none } else settings)

theorem load_of_fromFile {first : Settings} (hfirst : fromFile folder path = .ok first) :
    load folder path environment =
      (first.layered (environmentLayer environment) "environment").bind settle := by
  rw [load, hfirst]
  rfl

theorem settle_cases (settings : Settings) :
    (∃ settled, settle settings = .ok settled ∧
      (settled.logLevel.bind LogLevel.ofName?).isSome = true ∧ settled.token ≠ some "" ∧
      ∀ setting, setting ≠ .token → settled.isSet setting = settings.isSet setting) ∨
    ∃ error, settle settings = .error error ∧ error.isConfiguration = true := by
  unfold settle
  cases hlevel : settings.logLevel.bind LogLevel.ofName? with
  | none => exact .inr ⟨_, rfl, rfl⟩
  | some level =>
      refine .inl ⟨_, rfl, ?_⟩
      by_cases htoken : settings.token = some ""
      · rw [if_pos htoken, hlevel]
        refine ⟨rfl, nofun, fun setting hother => ?_⟩
        cases setting with
        | token => exact absurd rfl hother
        | _ => rfl
      · rw [if_neg htoken, hlevel]
        exact ⟨rfl, htoken, fun _ _ => rfl⟩

/-- What the file and the environment lead to. -/
theorem load_cases (hdecodes : FileDecodes folder path) :
    (∃ settings, load folder path environment = .ok settings ∧
      (givenLayer folder path).isFaulty = false ∧
      (settings.logLevel.bind LogLevel.ofName?).isSome = true ∧ settings.token ≠ some "" ∧
      ∀ setting, setting ≠ .token → settings.isSet setting =
        ((environment.get? (variableName setting)).isSome ||
          (givenLayer folder path).sets true setting)) ∨
    ∃ error, load folder path environment = .error error ∧
      error.isConfiguration = !(givenLayer folder path).isFaulty := by
  rcases fromFile_cases hdecodes with ⟨first, hfirst, hfaulty, hset⟩ | ⟨error, hfirst, herror⟩
  · rw [load_of_fromFile environment hfirst, hfaulty]
    rcases layered_cases first (environmentLayer environment) "environment" with
      ⟨second, hsecond, -, hnext⟩ | ⟨error, hsecond, herror⟩
    · rw [hsecond]
      rcases settle_cases second with ⟨settled, hsettled, hlevel, htoken, hlast⟩ | ⟨error, herror⟩
      · refine .inl ⟨settled, hsettled, rfl, hlevel, htoken, fun setting hother => ?_⟩
        rw [hlast setting hother, hnext, sets_environmentLayer environment hother,
          hset setting hother]
      · exact .inr ⟨error, herror⟩
    · rw [hsecond]
      exact .inr ⟨error, rfl, by rw [herror, isFaulty_environmentLayer]⟩
  · refine .inr ⟨error, ?_, herror⟩
    rw [load, hfirst]
    rfl

theorem isNull_iff {value : Node} : value.isNull = true ↔ value = .scalar .null := by
  constructor
  · intro hnull
    unfold Node.isNull at hnull
    split at hnull
    · rfl
    · cases hnull
  · rintro rfl
    rfl

/-- A layer unsets what it gives as null. -/
theorem sets_true_iff {layer : Layer} {setting : Setting} :
    layer.sets true setting = true ↔ layer.values.get? setting.name ≠ some (.scalar .null) := by
  cases hvalue : layer.values.get? setting.name with
  | none => simp [Layer.sets_of_none hvalue]
  | some value => simp [Layer.sets_of_some hvalue, ← isNull_iff]

/-- **Settings are well typed, or an error tells why not.**  For every file that is a document and
every environment, there is a fault instead exactly if the file is the reason of one: its first
value that is not taken is too large, or it has a name that is no text and all of its values are
taken.  Settings that are loaded are well typed exactly if the environment sets all of them that the
file unsets, but for the token. -/
theorem load_wellTyped_iff (folder : Folder) (path : Option String)
    (environment : Entries String String) (hdecodes : FileDecodes folder path) :
    ((∃ error, load folder path environment = .error error ∧ error.isConfiguration = false) ↔
      (givenLayer folder path).isFaulty = true) ∧
    ∀ settings, load folder path environment = .ok settings →
      (settings.WellTyped ↔ ∀ setting, setting ≠ .token →
        (givenLayer folder path).values.get? setting.name = some (.scalar .null) →
        (environment.get? (variableName setting)).isSome = true) := by
  rcases load_cases environment hdecodes with
    ⟨loaded, hload, hfaulty, hlevel, htoken, hset⟩ | ⟨error, hload, herror⟩
  · rw [hload, hfaulty]
    refine ⟨by simp, fun settings hsettings => ?_⟩
    obtain rfl := Except.ok.inj hsettings
    constructor
    · intro htyped setting hother hnull
      have hisSet := htyped.isSet setting hother
      rw [hset setting hother, Bool.or_eq_true, sets_true_iff] at hisSet
      exact hisSet.resolve_right (fun h => h hnull)
    · intro hgiven
      refine ⟨fun setting hother => ?_, hlevel, htoken⟩
      rw [hset setting hother, Bool.or_eq_true, sets_true_iff]
      exact (Classical.em _).symm.imp_left fun hnull =>
        hgiven setting hother (Classical.not_not.mp hnull)
  · rw [hload]
    refine ⟨?_, nofun⟩
    simp [herror]

/-- A folder with nothing but a settings file in it. -/
def folderWith (text : String) : Folder where
  location := "/"
  files := [(fileName, text)]

theorem exists_of_isOk {ε α : Type} {result : Except ε α} (hok : result.isOk = true) :
    ∃ value, result = .ok value := by
  cases result with
  | ok value => exact ⟨value, rfl⟩
  | error _ => cases hok

/-- A number may be unset in the file if a variable sets it. -/
theorem unset_number_set_again :
    ∃ settings, load (folderWith "http_timeout: null") none [("WALLY_LINT_HTTP_TIMEOUT", "5")] =
        .ok settings ∧
      settings.WellTyped := by
  have hdecodes : FileDecodes (folderWith "http_timeout: null") none := by
    have hread : (folderWith "http_timeout: null").read? fileName = some "http_timeout: null" := by
      decide
    intro text htext
    obtain rfl := Option.some.inj (hread.symm.trans htext)
    exact exists_of_isOk (by decide +kernel)
  have hgiven : ∀ setting ∈ Setting.all,
      ((givenLayer (folderWith "http_timeout: null") none).values.get? setting.name).isSome = true →
      (Entries.get? [("WALLY_LINT_HTTP_TIMEOUT", "5")] (variableName setting)).isSome = true := by
    decide +kernel
  have hload : (load (folderWith "http_timeout: null") none
      [("WALLY_LINT_HTTP_TIMEOUT", "5")]).isOk = true := by
    decide +kernel
  obtain ⟨settings, hsettings⟩ := exists_of_isOk hload
  refine ⟨settings, hsettings, ((load_wellTyped_iff _ none _ hdecodes).2 settings hsettings).mpr ?_⟩
  intro setting _ hnull
  exact hgiven setting setting.mem_all (by rw [hnull]; rfl)

/-- A number as a name ends in a fault, and a null leaves a number without a value. -/
theorem number_as_name_faults :
    (∃ node, Yaml.decode "1: x".toList = .ok node) ∧
      (∃ error, load (folderWith "1: x") none [] = .error error ∧
        error.isConfiguration = false) ∧
      (∃ node, Yaml.decode "http_timeout: null".toList = .ok node) ∧
      ∃ settings, load (folderWith "http_timeout: null") none [] = .ok settings ∧
        settings.timeout = none := by
  refine ⟨exists_of_isOk (by decide +kernel), ?_, exists_of_isOk (by decide +kernel), ?_⟩
  · have hfault : (match load (folderWith "1: x") none [] with
        | .error error => !error.isConfiguration
        | .ok _ => false) = true := by
      decide +kernel
    split at hfault
    · next error hload => exact ⟨error, hload, by simpa using hfault⟩
    · cases hfault
  · have hunset : (match load (folderWith "http_timeout: null") none [] with
        | .error _ => false
        | .ok settings => settings.timeout.isNone) = true := by
      decide +kernel
    split at hunset
    · cases hunset
    · next settings hload => exact ⟨settings, hload, by simpa using hunset⟩

end ManifestLint.Settings
