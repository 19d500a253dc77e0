import ManifestLint.Decimal.Reading
import ManifestLint.Defaults
import ManifestLint.LogLevel
import ManifestLint.Text.Lower
import ManifestLint.Yaml.Fault
import ManifestLint.Yaml.Node

/-!
# Settings

What a user can set, and how a value from a file or from the environment becomes the value of a
setting.  Booleans have eight spellings, numbers are doubles, and everything else is a text.  A null
unsets a setting.

* `Settings.apply` assigns a layer of values in the order of the settings, and stops at the first
  value of the wrong kind.  Unknown names are refused, once all others are assigned.
-/

namespace ManifestLint

open ManifestLint.Yaml (Node Scalar)

/-- The settings. -/
inductive Setting where
  | token
  | apiUrl
  | timeout
  | cooldown
  | logLevel
  | diagnosticsEnabled
  | defaultIndex
  deriving DecidableEq, Repr

namespace Setting

/-- The settings, in the order in which they are assigned. -/
def all : List Setting :=
  [token, apiUrl, timeout, cooldown, logLevel, diagnosticsEnabled, defaultIndex]

/-- The name of a setting in files. -/
def name : Setting → String
  | token => "github_token"
  | apiUrl => "github_api_url"
  | timeout => "http_timeout"
  | cooldown => "notify_cooldown"
  | logLevel => "log_level"
  | diagnosticsEnabled => "diagnostics_enabled"
  | defaultIndex => "default_registry"

/-- The setting with a name. -/
def ofName? (text : String) : Option Setting := all.find? fun setting => setting.name = text

end Setting

/-- The values of the settings.  A setting is unset if it was given as null; the token is unset by
default. -/
structure Settings where
  token : Option String := none
  apiUrl : Option String := some defaultApiUrl
  timeout : Option Float := some defaultTimeout
  cooldown : Option Float := some defaultCooldown
  logLevel : Option String := some LogLevel.normal.name
  diagnosticsEnabled : Option Bool := some true
  defaultIndex : Option String := some publicIndexUrl

/-- Why there are no settings. -/
inductive SettingsError where
  /-- A value is no boolean. -/
  | notBoolean (setting : Setting) (found : Node)
  /-- A value is no number. -/
  | notNumber (setting : Setting) (found : Node)
  /-- A whole number is larger than every double. -/
  | tooLarge
  /-- A whole number has too many digits to be written. -/
  | tooManyDigits
  /-- Names that no setting has. -/
  | unknown (source : String) (names : List String)
  /-- A name that is no text. -/
  | nameNotText (found : Scalar)
  /-- Two names that cannot be put in order. -/
  | namesUnordered (first second : Scalar)
  /-- The file is no document. -/
  | malformed (path : String)
  /-- A scalar in the file has no value. -/
  | noValue (fault : Yaml.Fault)
  /-- The file holds something other than a table. -/
  | notTable (path : String)
  /-- The file that was asked for is not there. -/
  | missing (path : String)
  /-- No log level has this name. -/
  | unknownLogLevel (found : Option String)

/-- The wording of a settings error. -/
def SettingsError.message : SettingsError → String
  | notBoolean setting found => s!"'{setting.name}' must be a boolean, got {found.shown}"
  | notNumber setting found => s!"'{setting.name}' must be a number, got {found.shown}"
  | tooLarge => "int too large to convert to float"
  | tooManyDigits =>
    s!"Exceeds the limit ({Yaml.mostDigits} digits) for integer string conversion; "
      ++ "use sys.set_int_max_str_digits() to increase the limit"
  | unknown source names =>
    let list := ", ".intercalate names
    s!"Unknown setting(s) in {source}: {list}"
  | nameNotText found =>
    s!"sequence item 0: expected str instance, {found.kindName} found"
  | namesUnordered first second =>
    match first.order, second.order with
    | .date, .moment _ | .moment _, .date =>
      s!"can't compare {Scalar.momentName} to {Scalar.dateName}"
    | .moment _, .moment _ => "can't compare offset-naive and offset-aware datetimes"
    | _, _ =>
      "'<' not supported between instances of "
        ++ s!"'{second.kindName}' and '{first.kindName}'"
  | malformed path => s!"Invalid YAML in {path}"
  | noValue fault => fault.message
  | notTable path => s!"{path} must contain a mapping at the top level"
  | missing path => s!"Config file not found: {path}"
  | unknownLogLevel found =>
    let list := ", ".intercalate (LogLevel.all.map LogLevel.name)
    let shown := found.getD Scalar.null.shown
    s!"Unknown log level '{shown}' (expected one of: {list})"

/-- Whether an error is about the configuration, so that the user is told; the others are faults. -/
def SettingsError.isConfiguration : SettingsError → Bool
  | tooLarge => false
  | tooManyDigits => false
  | nameNotText _ => false
  | namesUnordered _ _ => false
  | noValue _ => false
  | _ => true

/-- A layer of values, and the names in it that are no texts. -/
structure Layer where
  values : Entries String Node := []
  otherNames : List Scalar := []

/-- The layer that a node holds: nothing if it is null, else it has to be a table. -/
def Layer.ofNode? : Node → Option Layer
  | .scalar .null => some {}
  | .table pairs =>
    some (pairs.foldr (fun (name, value) layer =>
      match name with
      | .text name => { layer with values := (name, value) :: layer.values }
      | other => { layer with otherNames := other :: layer.otherNames }) {})
  | _ => none

namespace Settings

/-- The spellings of true and false. -/
def booleanTexts : List (String × Bool) := [
  ("1", true), ("true", true), ("yes", true), ("on", true),
  ("0", false), ("false", false), ("no", false), ("off", false)]

/-- A result for a value that has to be written first, be it to read the text or to show it in an
error. -/
def ifWritable {α : Type} (value : Node) (result : Except SettingsError α) :
    Except SettingsError α :=
  if value.isWritable then result else .error .tooManyDigits

/-- The boolean that a value stands for. -/
def boolean? (value : Node) : Option Bool :=
  match value with
  | .scalar (.bool b) => some b
  | other => booleanTexts.lookup (Text.lower (Text.strip other.display))

/-- The number that a value stands for. -/
def number (setting : Setting) (value : Node) : Except SettingsError Float :=
  match value with
  | .scalar (.bool b) => .ok (if b then 1.0 else 0.0)
  | .scalar (.float x) => .ok x
  | .scalar (.int n) =>
    let magnitude := Decimal.nearest n.natAbs 0
    if magnitude.isInf then .error .tooLarge
    else .ok (if n < 0 then -magnitude else magnitude)
  | .scalar (.text text) => (Decimal.readFloat? text).elim (.error (.notNumber setting value)) .ok
  | .scalar (.bytes bytes) =>
    let text := String.ofList (bytes.map Char.ofNat)
    let number := if bytes.all (· < 0x80) then Decimal.readFloat? text else none
    number.elim (.error (.notNumber setting value)) .ok
  | _ => ifWritable value (.error (.notNumber setting value))

/-- What a value becomes unless it is null. -/
def given {α : Type} (value : Node) (read : Except SettingsError α) :
    Except SettingsError (Option α) :=
  match value with
  | .scalar .null => .ok none
  | _ => read.map some

/-- The settings with a value assigned to one of them. -/
def assign (settings : Settings) (setting : Setting) (value : Node) :
    Except SettingsError Settings := do
  let text := given value (ifWritable value (.ok value.display))
  match setting with
  | .token => return { settings with token := ← text }
  | .apiUrl => return { settings with apiUrl := ← text }
  | .timeout => return { settings with timeout := ← given value (number setting value) }
  | .cooldown => return { settings with cooldown := ← given value (number setting value) }
  | .logLevel => return { settings with logLevel := ← text }
  | .diagnosticsEnabled =>
    let flag := (boolean? value).elim (.error (.notBoolean setting value)) .ok
    return { settings with diagnosticsEnabled := ← given value (ifWritable value flag) }
  | .defaultIndex => return { settings with defaultIndex := ← text }

/-- The settings after the values of some of them were assigned, and why it stopped if it did. -/
def assignAll (values : Entries String Node) (settings : Settings) :
    List Setting → Settings × Option SettingsError
  | [] => (settings, none)
  | setting :: rest =>
    match values.get? setting.name with
    | none => assignAll values settings rest
    | some value =>
      match settings.assign setting value with
      | .ok assigned => assignAll values assigned rest
      | .error error => (settings, some error)

/-- The names that no setting has, in order. -/
def unknownNames (values : Entries String Node) : List String :=
  (values.keys.filter fun name => (Setting.ofName? name).isNone).mergeSort fun a b => !(b < a)

/-- Why names of which some are no texts cannot be listed.  They would be put in order first, and
then written one after the other. -/
def namesError (names : List Scalar) : Option SettingsError :=
  match names.zip names.tail |>.find? fun (a, b) => a.order ≠ b.order with
  | some (first, second) => some (.namesUnordered first second)
  | none => (Scalar.least? names).map .nameNotText

/-- The settings after a layer of values was assigned, and why it was refused if it was. -/
def apply (settings : Settings) (layer : Layer) (source : String) :
    Settings × Option SettingsError :=
  match assignAll layer.values settings Setting.all with
  | (assigned, some error) => (assigned, some error)
  | (assigned, none) =>
    match layer.otherNames, unknownNames layer.values with
    | [], [] => (assigned, none)
    | [], names => (assigned, some (.unknown source names))
    | others, names => (assigned, namesError (names.map Scalar.text ++ others))

/-- The settings after a layer of values, if it was not refused. -/
def layered (settings : Settings) (layer : Layer) (source : String) :
    Except SettingsError Settings :=
  match settings.apply layer source with
  | (assigned, none) => .ok assigned
  | (_, some error) => .error error

end Settings

end ManifestLint
