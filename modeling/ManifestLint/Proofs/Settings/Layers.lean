import ManifestLint.Settings.Basic

/-!
# What a layer of values does to settings

The values of a layer are assigned one after the other, until one is not taken.  Whether a setting
takes a value does not depend on what was assigned before, and so the first value that is not taken
settles the error.  The user is told of the error unless the value is too large: for a double, or to
be written into the message.

* `Setting.takes`: the values that a setting takes; `Setting.isOutgrown`: those that are too large.
* `assign_cases`: what one assignment leads to; `assignAll_cases`: what several lead to.
* `Layer.isFaulty`: which layers end in a fault; `layered_cases`: what a layer leads to.
-/

namespace ManifestLint

open ManifestLint.Yaml (Node Scalar)

/-! ## Values and settings -/

/-- Whether a value is null. -/
def Yaml.Node.isNull : Node → Bool
  | .scalar .null => true
  | _ => false

/-- Whether a value is too large for a number: a whole number for a double, or a collection to be
written into the error. -/
def Yaml.Node.outgrowsNumber : Node → Bool
  | .scalar (.int n) => (Decimal.nearest n.natAbs 0).isInf
  | .scalar _ => false
  | value => !value.isWritable

namespace Setting

/-- Whether a setting takes a value. -/
def takes (setting : Setting) (value : Node) : Bool :=
  value.isNull ||
    match setting with
    | timeout | cooldown => (Settings.number setting value).isOk
    | diagnosticsEnabled => value.isWritable && (Settings.boolean? value).isSome
    | token | apiUrl | logLevel | defaultIndex => value.isWritable

/-- Whether a value is too large for a setting.  Settings that are no numbers write every value, to
read it as a text. -/
def isOutgrown (setting : Setting) (value : Node) : Bool :=
  match setting with
  | timeout | cooldown => value.outgrowsNumber
  | token | apiUrl | logLevel | diagnosticsEnabled | defaultIndex => !value.isWritable

theorem mem_all (setting : Setting) : setting ∈ all := by
  cases setting <;> decide

theorem name_injective {first second : Setting} (hname : first.name = second.name) :
    first = second := by
  cases first <;> cases second <;> first | rfl | (revert hname; decide)

end Setting

/-- Whether a setting takes what a layer gives it, if anything. -/
def Layer.suits (layer : Layer) (setting : Setting) : Bool :=
  (layer.values.get? setting.name).all setting.takes

/-- The first setting that does not take what a layer gives it. -/
def Layer.misfit? (layer : Layer) : Option Setting :=
  Setting.all.find? fun setting => !layer.suits setting

/-- Whether a setting has a value after a layer, if it is known whether it had one before. -/
def Layer.sets (layer : Layer) (before : Bool) (setting : Setting) : Bool :=
  (layer.values.get? setting.name).elim before fun value => !value.isNull

/-- Whether a layer ends in a fault: the first value that is not taken is too large, or all values
are taken and the name of another one is no text. -/
def Layer.isFaulty (layer : Layer) : Bool :=
  match layer.misfit? with
  | some setting => (layer.values.get? setting.name).any setting.isOutgrown
  | none => !layer.otherNames.isEmpty

section

variable {layer : Layer} {setting : Setting}

theorem Layer.suits_of_none (hvalue : layer.values.get? setting.name = none) :
    layer.suits setting = true := by
  rw [suits, hvalue]
  rfl

theorem Layer.suits_of_some {value : Node} (hvalue : layer.values.get? setting.name = some value) :
    layer.suits setting = setting.takes value := by
  rw [suits, hvalue]
  rfl

theorem Layer.sets_of_none (hvalue : layer.values.get? setting.name = none) (before : Bool) :
    layer.sets before setting = before := by
  rw [sets, hvalue]
  rfl

theorem Layer.sets_of_some {value : Node} (hvalue : layer.values.get? setting.name = some value)
    (before : Bool) : layer.sets before setting = !value.isNull := by
  rw [sets, hvalue]
  rfl

end

/-- A value that is assigned twice counts once. -/
theorem Layer.sets_sets (layer : Layer) (before : Bool) (setting : Setting) :
    layer.sets (layer.sets before setting) setting = layer.sets before setting := by
  cases hvalue : layer.values.get? setting.name with
  | none => rw [sets_of_none hvalue]
  | some value => rw [sets_of_some hvalue, sets_of_some hvalue]

namespace Settings

/-- Whether a setting has a value. -/
def isSet (settings : Settings) : Setting → Bool
  | .token => settings.token.isSome
  | .apiUrl => settings.apiUrl.isSome
  | .timeout => settings.timeout.isSome
  | .cooldown => settings.cooldown.isSome
  | .logLevel => settings.logLevel.isSome
  | .diagnosticsEnabled => settings.diagnosticsEnabled.isSome
  | .defaultIndex => settings.defaultIndex.isSome

/-! ## One assignment -/

variable {value : Node} {setting : Setting}

theorem given_of_isNull {α : Type} (hnull : value.isNull = true) (read : Except SettingsError α) :
    given value read = .ok none := by
  unfold Node.isNull at hnull
  split at hnull
  · rfl
  · cases hnull

theorem given_of_not_isNull {α : Type} (hnull : value.isNull = false)
    (read : Except SettingsError α) : given value read = read.map some := by
  unfold given
  split
  · cases hnull
  · rfl

theorem isOk_ifWritable {α : Type} (read : Except SettingsError α) :
    (ifWritable value read).isOk = (value.isWritable && read.isOk) := by
  unfold ifWritable
  cases value.isWritable <;> rfl

/-- Only what cannot be written is a fault, unless reading is one. -/
theorem isConfiguration_of_ifWritable {α : Type} {read : Except SettingsError α}
    {error : SettingsError} (hread : read = .error error → error.isConfiguration = true)
    (herror : ifWritable value read = .error error) :
    error.isConfiguration = value.isWritable := by
  unfold ifWritable at herror
  split at herror
  · next hwritable => rw [hread herror, hwritable]
  · next hwritable =>
      obtain rfl := Except.error.inj herror
      exact (Bool.not_eq_true _ ▸ hwritable).symm

theorem isConfiguration_of_elim {α : Type} {read : Option α} {expected error : SettingsError}
    (hexpected : expected.isConfiguration = true)
    (herror : read.elim (.error expected) Except.ok = .error error) :
    error.isConfiguration = true := by
  cases read with
  | none => exact Except.error.inj herror ▸ hexpected
  | some _ => cases herror

theorem isOk_elim {α : Type} (read : Option α) (expected : SettingsError) :
    (read.elim (.error expected) Except.ok).isOk = read.isSome := by
  cases read <;> rfl

/-- Only what is too large for a number is a fault. -/
theorem isConfiguration_of_number {error : SettingsError}
    (herror : number setting value = .error error) :
    error.isConfiguration = !value.outgrowsNumber := by
  cases value with
  | scalar scalar =>
      cases scalar with
      | bool _ | float _ => cases herror
      | int n =>
          simp only [number] at herror
          split at herror
          · next hlarge =>
              obtain rfl := Except.error.inj herror
              simp [SettingsError.isConfiguration, Node.outgrowsNumber, hlarge]
          · cases herror
      | text _ | bytes _ => exact isConfiguration_of_elim rfl herror
      | null | date _ | moment _ =>
          obtain rfl := Except.error.inj herror
          rfl
  | list _ | table _ | set _ | pair _ _ | outerList | outerTable =>
      have hwritable := isConfiguration_of_ifWritable
        (fun hread => by rw [← Except.error.inj hread]; rfl) herror
      exact hwritable.trans (Bool.not_not _).symm

/-- What an assignment leads to. -/
def Assigns (settings : Settings) (setting : Setting) (value : Node) : Prop :=
  (∃ next, settings.assign setting value = .ok next ∧ setting.takes value = true ∧
    ∀ other, next.isSet other = if other = setting then !value.isNull else settings.isSet other) ∨
  ∃ error, settings.assign setting value = .error error ∧ setting.takes value = false ∧
    error.isConfiguration = !setting.isOutgrown value

theorem assigns_of_read {settings : Settings} {α : Type} (read : Except SettingsError α)
    (update : Option α → Settings)
    (hassign : settings.assign setting value = do return update (← given value read))
    (htakes : setting.takes value = (value.isNull || read.isOk))
    (hset : ∀ result other,
      (update result).isSet other = if other = setting then result.isSome else settings.isSet other)
    (herror : ∀ error, read = .error error → error.isConfiguration = !setting.isOutgrown value) :
    settings.Assigns setting value := by
  cases hnull : value.isNull with
  | true =>
      rw [given_of_isNull hnull] at hassign
      refine .inl ⟨update none, hassign, by rw [htakes, hnull, Bool.true_or], fun other => ?_⟩
      rw [hset, hnull]
      rfl
  | false =>
      rw [given_of_not_isNull hnull] at hassign
      cases hread : read with
      | ok result =>
          rw [hread] at hassign htakes
          refine .inl ⟨update (some result), hassign, by rw [htakes, hnull]; rfl, fun other => ?_⟩
          rw [hset, hnull]
          rfl
      | error error =>
          rw [hread] at hassign htakes
          exact .inr ⟨error, hassign, by rw [htakes, hnull]; rfl, herror error hread⟩

/-- An assignment leads to the same whatever was assigned before. -/
theorem assign_cases (settings : Settings) (setting : Setting) (value : Node) :
    settings.Assigns setting value := by
  have htakesText : value.isWritable = (ifWritable value (.ok value.display)).isOk := by
    rw [isOk_ifWritable]
    exact (Bool.and_true _).symm
  have htext : ∀ error, ifWritable value (.ok value.display) = .error error →
      error.isConfiguration = !!value.isWritable := by
    intro error herror
    rw [isConfiguration_of_ifWritable (by nofun) herror, Bool.not_not]
  cases setting with
  | token =>
      exact assigns_of_read _ (fun text => { settings with token := text }) rfl
        (congrArg _ htakesText) (by intro _ other; cases other <;> rfl) htext
  | apiUrl =>
      exact assigns_of_read _ (fun text => { settings with apiUrl := text }) rfl
        (congrArg _ htakesText) (by intro _ other; cases other <;> rfl) htext
  | timeout =>
      exact assigns_of_read _ (fun number => { settings with timeout := number }) rfl rfl
        (by intro _ other; cases other <;> rfl) fun _ => isConfiguration_of_number
  | cooldown =>
      exact assigns_of_read _ (fun number => { settings with cooldown := number }) rfl rfl
        (by intro _ other; cases other <;> rfl) fun _ => isConfiguration_of_number
  | logLevel =>
      exact assigns_of_read _ (fun text => { settings with logLevel := text }) rfl
        (congrArg _ htakesText) (by intro _ other; cases other <;> rfl) htext
  | diagnosticsEnabled =>
      refine assigns_of_read _ (fun flag => { settings with diagnosticsEnabled := flag }) rfl ?_
        (by intro _ other; cases other <;> rfl) fun error herror => ?_
      · rw [isOk_ifWritable, isOk_elim]
        rfl
      · exact (isConfiguration_of_ifWritable (isConfiguration_of_elim rfl) herror).trans
          (Bool.not_not _).symm
  | defaultIndex =>
      exact assigns_of_read _ (fun text => { settings with defaultIndex := text }) rfl
        (congrArg _ htakesText) (by intro _ other; cases other <;> rfl) htext

/-! ## Several assignments -/

/-- What the assignments of the values in a layer to some settings lead to. -/
def AssignsAll (settings : Settings) (layer : Layer) (chosen : List Setting) : Prop :=
  (∃ next, assignAll layer.values settings chosen = (next, none) ∧
    (chosen.find? fun setting => !layer.suits setting) = none ∧
    ∀ other, next.isSet other =
      if other ∈ chosen then layer.sets (settings.isSet other) other else settings.isSet other) ∨
  ∃ next error setting, assignAll layer.values settings chosen = (next, some error) ∧
    (chosen.find? fun setting => !layer.suits setting) = some setting ∧
    error.isConfiguration = !(layer.values.get? setting.name).any setting.isOutgrown

/-- Assignments after one that succeeded. -/
theorem AssignsAll.cons {settings assigned : Settings} {layer : Layer} {setting : Setting}
    {rest : List Setting}
    (hassign : assignAll layer.values settings (setting :: rest) =
      assignAll layer.values assigned rest)
    (hsuits : layer.suits setting = true)
    (hset : ∀ other, assigned.isSet other =
      if other = setting then layer.sets (settings.isSet other) other else settings.isSet other)
    (hrest : assigned.AssignsAll layer rest) : settings.AssignsAll layer (setting :: rest) := by
  have hfind : ((setting :: rest).find? fun setting => !layer.suits setting) =
      rest.find? fun setting => !layer.suits setting :=
    List.find?_cons_of_neg (by simp [hsuits])
  rcases hrest with ⟨next, hnext, hnone, hrestSet⟩ | ⟨next, error, misfit, hnext, hmisfit, herror⟩
  · refine .inl ⟨next, hassign.trans hnext, hfind.trans hnone, fun other => ?_⟩
    rw [hrestSet, hset]
    by_cases hsame : other = setting
    · simp [hsame, Layer.sets_sets]
    · simp [hsame]
  · exact .inr ⟨next, error, misfit, hassign.trans hnext, hfind.trans hmisfit, herror⟩

theorem assignAll_cases (layer : Layer) (chosen : List Setting) (settings : Settings) :
    settings.AssignsAll layer chosen := by
  induction chosen generalizing settings with
  | nil => exact .inl ⟨settings, rfl, rfl, fun other => by simp⟩
  | cons setting rest ih =>
      cases hvalue : layer.values.get? setting.name with
      | none =>
          have hskip : assignAll layer.values settings (setting :: rest) =
              assignAll layer.values settings rest := by
            rw [assignAll, hvalue]
          refine .cons hskip (Layer.suits_of_none hvalue) (fun other => ?_) (ih settings)
          by_cases hsame : other = setting
          · rw [if_pos hsame, hsame, Layer.sets_of_none hvalue]
          · rw [if_neg hsame]
      | some value =>
          have hsuits := Layer.suits_of_some hvalue
          rcases settings.assign_cases setting value with
            ⟨assigned, hassign, htakes, hset⟩ | ⟨error, hassign, htakes, herror⟩
          · have hgo : assignAll layer.values settings (setting :: rest) =
                assignAll layer.values assigned rest := by
              simp only [assignAll, hvalue, hassign]
            refine .cons hgo (hsuits.trans htakes) (fun other => ?_) (ih assigned)
            by_cases hsame : other = setting
            · rw [hset, if_pos hsame, if_pos hsame, hsame, Layer.sets_of_some hvalue]
            · rw [hset, if_neg hsame, if_neg hsame]
          · have hstop : assignAll layer.values settings (setting :: rest) =
                (settings, some error) := by
              simp only [assignAll, hvalue, hassign]
            have hmisfit : (!layer.suits setting) = true := by rw [hsuits, htakes]; rfl
            exact .inr ⟨settings, error, setting, hstop, List.find?_cons_of_pos hmisfit,
              by rw [hvalue]; exact herror⟩

/-! ## A layer -/

/-- Names of which some are no texts cannot be listed. -/
theorem namesError_fault {names : List Scalar} (hnames : names ≠ []) :
    ∃ error, namesError names = some error ∧ error.isConfiguration = false := by
  unfold namesError
  split
  · exact ⟨_, rfl, rfl⟩
  · cases names with
    | nil => exact absurd rfl hnames
    | cons first rest => exact ⟨_, rfl, rfl⟩

/-- What a layer leads to. -/
theorem layered_cases (settings : Settings) (layer : Layer) (source : String) :
    (∃ next, settings.layered layer source = .ok next ∧ layer.isFaulty = false ∧
      ∀ setting, next.isSet setting = layer.sets (settings.isSet setting) setting) ∨
    ∃ error, settings.layered layer source = .error error ∧
      error.isConfiguration = !layer.isFaulty := by
  rcases assignAll_cases layer Setting.all settings with
    ⟨next, hassign, hnone, hset⟩ | ⟨next, error, misfit, hassign, hmisfit, herror⟩
  · have hfaulty : layer.isFaulty = !layer.otherNames.isEmpty := by
      rw [Layer.isFaulty, Layer.misfit?, hnone]
    rw [hfaulty]
    cases hother : layer.otherNames with
    | nil =>
        cases hunknown : unknownNames layer.values with
        | nil =>
            refine .inl ⟨next, ?_, rfl, fun setting => ?_⟩
            · simp only [layered, apply, hassign, hother, hunknown]
            · rw [hset, if_pos setting.mem_all]
        | cons name names =>
            refine .inr ⟨.unknown source (name :: names), ?_, rfl⟩
            simp only [layered, apply, hassign, hother, hunknown]
    | cons other others =>
        have hsome : (unknownNames layer.values).map Scalar.text ++ other :: others ≠ [] := by simp
        obtain ⟨error, hnames, herror⟩ := namesError_fault hsome
        refine .inr ⟨error, ?_, herror⟩
        simp only [layered, apply, hassign, hother, hnames]
  · have hfaulty : layer.isFaulty = (layer.values.get? misfit.name).any misfit.isOutgrown := by
      rw [Layer.isFaulty, Layer.misfit?, hmisfit]
    refine .inr ⟨error, ?_, by rw [herror, hfaulty]⟩
    simp only [layered, apply, hassign]

end Settings

end ManifestLint
