import ManifestLint.Console.Arguments
import ManifestLint.Decimal.Reading
import ManifestLint.Defaults
import ManifestLint.Folder

/-!
# Commands

What the program can be told to do.  Options for all commands come first: a settings file, and more
or less logging.  Then comes the name of a command with its own options and arguments, which are
only looked at once the settings are known.  The program and every command tell how they are used.

* `Invocation.parse` reads the first part, `Command.parse` the second.
-/

namespace ManifestLint

/-- What the program does. -/
inductive Command where
  /-- Checks a manifest; a strict check also fails on warnings. -/
  | check (path : String) (strict : Bool)
  /-- Shows a package. -/
  | info (specifier : String) (index : Option String)
  /-- Lists the versions of a package. -/
  | versions (specifier : String) (index : Option String)
  /-- Lists the candidates at a position of a manifest. -/
  | complete (path : String) (line column : Int)
  /-- Tells how a command is used. -/
  | help (usage : String)
  deriving DecidableEq, Repr

/-- The names of the commands. -/
inductive CommandName where
  | check
  | info
  | versions
  | complete
  deriving DecidableEq, Repr

namespace CommandName

/-- The commands. -/
def all : List CommandName := [check, info, versions, complete]

/-- The spelling of a name. -/
def text : CommandName → String
  | check => "check"
  | info => "info"
  | versions => "versions"
  | complete => "complete"

/-- The command with a spelling. -/
def ofText? (text : String) : Option CommandName := all.find? fun name => name.text = text

/-- How a command is used. -/
def usage : CommandName → String
  | check => "check [--strict] MANIFEST"
  | info => "info [--registry URL] AUTHOR/NAME[@VERSION]"
  | versions => "versions [--registry URL] AUTHOR/NAME[@VERSION]"
  | complete => "complete MANIFEST LINE COLUMN"

end CommandName

/-- The first part of a command line, with the arguments that are left for the command. -/
structure Invocation where
  config : Option String
  verbose : Bool
  quiet : Bool
  command : CommandName
  rest : List String
  deriving DecidableEq, Repr

/-- How the program is used. -/
def programUsage : String :=
  let start := s!"Usage: {programName} [--config FILE] [--verbose] [--quiet] COMMAND\n\nCommands:\n"
  start ++ String.join (CommandName.all.map fun name => s!"  {name.usage}\n")

/-- The option that asks how something is used. -/
def helpOption : OptionSpec := { long := "--help" }

/-- What a command line asks for. -/
inductive Order where
  /-- The version of the program. -/
  | version
  /-- How the program is used. -/
  | help
  /-- A command. -/
  | run (invocation : Invocation)
  deriving DecidableEq, Repr

namespace Invocation

/-- The option that asks for the version of the program. -/
def versionOption : OptionSpec := { long := "--version" }

/-- The option that names a settings file. -/
def configOption : OptionSpec := { long := "--config", letter := some 'c', takesValue := true }

/-- The option for more logging. -/
def verboseOption : OptionSpec := { long := "--verbose", letter := some 'v' }

/-- The option for less logging. -/
def quietOption : OptionSpec := { long := "--quiet", letter := some 'q' }

/-- Reads the first part of a command line. -/
def parse (arguments : List String) : Except UsageError Order := do
  let specs := [versionOption, helpOption, configOption, verboseOption, quietOption]
  let scanned ← Arguments.scan specs false arguments
  match scanned.firstOf [versionOption, helpOption] with
  | some spec => return if spec = versionOption then .version else .help
  | none => pure ()
  match scanned.others with
  | [] => throw .missingCommand
  | name :: rest =>
    match CommandName.ofText? name with
    | none => throw (.unknownCommand name)
    | some command =>
      return .run {
        config := scanned.value? configOption
        verbose := scanned.given verboseOption
        quiet := scanned.given quietOption
        command, rest }

end Invocation

namespace Command

/-- The option for a strict check. -/
def strictOption : OptionSpec := { long := "--strict" }

/-- The option that names an index. -/
def indexOption : OptionSpec := { long := "--registry", letter := some 'r', takesValue := true }

/-- The path of a file, which has to be there. -/
def file (folder : Folder) (path : String) : Except UsageError String :=
  if folder.leadsToFile path then .ok path else .error (.notAFile path)

/-- A whole number. -/
def whole (text : String) : Except UsageError Int :=
  match Decimal.readWhole? text with
  | some number => .ok number
  | none => .error (.notAWholeNumber text)

/-- The only argument of a command. -/
def one : List String → Except UsageError String
  | [] => .error .missingArgument
  | [argument] => .ok argument
  | _ :: rest => .error (.extraArguments rest)

/-- The options of a command. -/
def options : CommandName → List OptionSpec
  | .check => [strictOption, helpOption]
  | .info => [indexOption, helpOption]
  | .versions => [indexOption, helpOption]
  | .complete => [helpOption]

/-- Reads the arguments of a command that were taken apart. -/
def ofArguments (folder : Folder) (name : CommandName) (scanned : Arguments) :
    Except UsageError Command := do
  match name with
  | .check => return .check (← file folder (← one scanned.others)) (scanned.given strictOption)
  | .info => return .info (← one scanned.others) (scanned.value? indexOption)
  | .versions => return .versions (← one scanned.others) (scanned.value? indexOption)
  | .complete =>
    match scanned.others with
    | [path, line, column] =>
      return .complete (← file folder path) (← whole line) (← whole column)
    | _ :: _ :: _ :: rest => throw (.extraArguments rest)
    | _ => throw .missingArgument

/-- Reads the options and arguments of a command. -/
def parse (folder : Folder) (name : CommandName) (arguments : List String) :
    Except UsageError Command := do
  let scanned ← Arguments.scan (options name) true arguments
  if scanned.given helpOption then return .help s!"Usage: {programName} {name.usage}\n"
  ofArguments folder name scanned

end Command

end ManifestLint
