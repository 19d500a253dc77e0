import ManifestLint.Console.Arguments
import ManifestLint.Console.Markup
import ManifestLint.Fetching.Host
import ManifestLint.LogLevel
import ManifestLint.Registry.Basic
import ManifestLint.Settings.Basic

/-!
# Output of commands

What a command shows, and how it ends.  A command that fails ends with an exit code; one that breaks
down leaves a reason.  Everything that was shown before that stays shown.

* `Console` is the monad of commands.
-/

namespace ManifestLint

/-- Something shown on the console, with its markup applied. -/
inductive Printed where
  | line (text : String)
  | table (title : String) (columns : List String) (rows : List (List String))
  | panel (title text : String)
  deriving DecidableEq, Repr

/-- Why a command broke down. -/
inductive Breakdown where
  | fault (fault : Fault)
  | markup (error : Markup.MarkupError)
  | settings (error : SettingsError)
  | shape (error : Json.ShapeError)

/-- The wording of a breakdown. -/
def Breakdown.message : Breakdown → String
  | fault cause => cause.message
  | markup error => error.message
  | settings error => error.message
  | shape error => error.message

/-- The settings that a registry was opened with. -/
structure Opening where
  token : Option String
  apiUrl : Option String
  timeout : Option Float

/-- How a command ends before its end. -/
inductive Stop where
  | exit (code : Nat)
  | usage (error : UsageError)
  | breakdown (reason : Breakdown)

/-- What came of a command so far: what it has shown, what it has put out besides, the registries it
has opened, what they were used for, the notices that users got from them, and the state of the
logger. -/
structure Transcript where
  printed : List Printed := []
  output : String := ""
  openings : List Opening := []
  events : List Event := []
  notices : List String := []
  logger : Logger := {}

/-- What commands are written in. -/
abbrev Console (α : Type) : Type := ExceptT Stop (StateM Transcript) α

namespace Console

/-- Ends the command with an exit code. -/
def exit {α : Type} (code : Nat) : Console α := throw (.exit code)

/-- Ends the command because it was not called as it is used. -/
def misused {α : Type} (error : UsageError) : Console α := throw (.usage error)

/-- Ends the command with a reason. -/
def breakDown {α : Type} (reason : Breakdown) : Console α := throw (.breakdown reason)

/-- The text of a markup. -/
def text (markup : String) : Console String :=
  match Markup.render markup with
  | .ok text => pure text
  | .error error => breakDown (.markup error)

/-- Shows something. -/
def emit (printed : Printed) : Console Unit :=
  modify fun transcript => { transcript with printed := transcript.printed ++ [printed] }

/-- Shows a line of markup. -/
def print (markup : String) : Console Unit := do
  emit (.line (← text markup))

/-- Shows a table of markup. -/
def printTable (title : String) (columns : List String) (rows : List (List String)) :
    Console Unit := do
  emit (.table (← text title) (← columns.mapM text) (← rows.mapM (·.mapM text)))

/-- Shows a panel of markup. -/
def printPanel (title markup : String) : Console Unit := do
  emit (.panel (← text title) (← text markup))

/-- Puts a text out as it is. -/
def write (text : String) : Console Unit :=
  modify fun transcript => { transcript with output := transcript.output ++ text }

/-- Notes what a registry was opened with, and what came of it until it was closed. -/
def noteUse (settings : Settings) (registry : Registry) : Console Unit :=
  modify fun transcript =>
    { transcript with
      openings := transcript.openings ++ [⟨settings.token, settings.apiUrl, settings.timeout⟩]
      events := transcript.events ++ registry.fetcher.close.journal
      notices := transcript.notices ++ registry.notifier.delivered }

/-- The registry that a command opens with its settings. -/
def openedRegistry (settings : Settings) : Registry :=
  .new (.new (settings.apiUrl.getD "") settings.timeout settings.token) settings.cooldown
    settings.token

end Console

end ManifestLint
