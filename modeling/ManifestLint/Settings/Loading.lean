import ManifestLint.Folder
import ManifestLint.Settings.Basic
import ManifestLint.Text.Lines
import ManifestLint.Yaml.Meaning

/-!
# Where settings come from

The defaults are overridden by a file, and the file by the environment.  A file that was asked for
has to be there; the default file may be missing.  The log level is judged last, and an empty token
is none.
-/

namespace ManifestLint.Settings

/-- The name of the default file. -/
def fileName : String := ".wally-lint.yaml"

/-- What the names of variables start with. -/
def variableStart : String := "WALLY_LINT_"

/-- The variable that may hold a token. -/
def tokenVariable : String := "GITHUB_TOKEN"

/-- The variable of a setting. -/
def variableName (setting : Setting) : String :=
  variableStart ++ .ofList (setting.name.toList.map Char.toUpper)

/-- The layer of a document. -/
def fileLayer (path text : String) : Except SettingsError Layer :=
  match Yaml.decode (Text.unifyLineEnds text.toList) with
  | .error .malformed => .error (.malformed path)
  | .error fault => .error (.noValue fault)
  | .ok node => (Layer.ofNode? node).elim (.error (.notTable path)) .ok

/-- The layer of the environment.  A token variable counts unless it is empty. -/
def environmentLayer (environment : Entries String String) : Layer :=
  let token :=
    match environment.get? tokenVariable with
    | some text => if text = "" then [] else [(Setting.token.name, Yaml.Node.text text)]
    | none => []
  let values := Setting.all.foldl (fun (values : Entries String Yaml.Node) setting =>
    match environment.get? (variableName setting) with
    | some text => values.put setting.name (.text text)
    | none => values) token
  { values }

/-- The settings after the file was read: the one that was asked for, else the default one. -/
def fromFile (folder : Folder) (path : Option String) : Except SettingsError Settings :=
  let shownPath :=
    match path with
    | some path => normalPath path
    | none => folder.location ++ "/" ++ fileName
  match folder.read? (path.getD fileName), path with
  | some text, _ => do layered {} (← fileLayer shownPath text) shownPath
  | none, some _ => .error (.missing shownPath)
  | none, none => .ok {}

/-- The settings that hold in a folder and an environment. -/
def load (folder : Folder) (path : Option String) (environment : Entries String String) :
    Except SettingsError Settings := do
  let settings ← fromFile folder path
  let settings ← settings.layered (environmentLayer environment) "environment"
  if (settings.logLevel.bind LogLevel.ofName?).isNone then
    throw (.unknownLogLevel settings.logLevel)
  return if settings.token = some "" then { settings with token := none } else settings

end ManifestLint.Settings
