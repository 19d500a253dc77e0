import ManifestLint.Collections.Entries

/-!
# Command-line arguments

Options have a long name with two hyphens, perhaps a letter with one, and perhaps a value.  The
value stands behind an equals sign, behind the letter, or in the next argument.  Letters of options
without value may share one hyphen.  Two hyphens alone end the options.

* `Arguments.scan` takes arguments apart; options may be mixed with the others, or end at the first
  other one.
-/

namespace ManifestLint

/-- Why arguments are not understood. -/
inductive UsageError where
  | unknownOption (name : String)
  | missingValue (name : String)
  | unexpectedValue (name : String)
  | missingCommand
  | unknownCommand (name : String)
  | missingArgument
  | extraArguments (arguments : List String)
  | notAFile (path : String)
  | notAWholeNumber (text : String)
  deriving DecidableEq, Repr

/-- The wording of a usage error. -/
def UsageError.message : UsageError → String
  | unknownOption name => s!"No such option: {name}"
  | missingValue name => s!"Option {name} needs a value"
  | unexpectedValue name => s!"Option {name} takes no value"
  | missingCommand => "Missing command"
  | unknownCommand name => s!"No such command: {name}"
  | missingArgument => "Missing argument"
  | extraArguments arguments =>
    let list := " ".intercalate arguments
    s!"Unexpected arguments: {list}"
  | notAFile path => s!"No such file: {path}"
  | notAWholeNumber text => s!"Not a whole number: {text}"

/-- An option that a command knows. -/
structure OptionSpec where
  long : String
  letter : Option Char := none
  takesValue : Bool := false
  deriving DecidableEq, Repr

/-- Arguments taken apart: the options by their long names, the last value of each counting, and the
other arguments in order. -/
structure Arguments where
  options : Entries String String := []
  others : List String := []
  deriving DecidableEq, Repr

namespace Arguments

/-- What an argument sets: options with their values, and perhaps one whose value is still to
come. -/
structure Setting where
  options : List (String × String) := []
  open? : Option String := none

/-- Reads the letters behind one hyphen. -/
def letters (specs : List OptionSpec) : List Char → Except UsageError Setting
  | [] => .ok {}
  | c :: rest =>
    match specs.find? (·.letter = some c) with
    | none => .error (.unknownOption (.ofList ['-', c]))
    | some spec =>
      if spec.takesValue then
        if rest.isEmpty then .ok { open? := some spec.long }
        else .ok { options := [(spec.long, .ofList rest)] }
      else do
        let setting ← letters specs rest
        return { setting with options := (spec.long, "") :: setting.options }

/-- Reads an argument that starts with a hyphen. -/
def option (specs : List OptionSpec) (argument : List Char) : Except UsageError Setting :=
  let name := String.ofList (argument.takeWhile (· ≠ '='))
  let value? :=
    match argument.dropWhile (· ≠ '=') with
    | [] => none
    | _ :: value => some (String.ofList value)
  match specs.find? (·.long = name), value? with
  | some spec, some value =>
    if spec.takesValue then .ok { options := [(spec.long, value)] }
    else .error (.unexpectedValue name)
  | some spec, none =>
    if spec.takesValue then .ok { open? := some spec.long }
    else .ok { options := [(spec.long, "")] }
  | none, _ =>
    match argument with
    | '-' :: '-' :: _ => .error (.unknownOption name)
    | _ => letters specs (argument.drop 1)

/-- The arguments with what one of them sets. -/
def add (arguments : Arguments) (options : List (String × String)) : Arguments :=
  { arguments with
    options := options.foldl (fun all pair => all.put pair.1 pair.2) arguments.options }

/-- Takes arguments apart, behind those that were taken apart already. -/
def scanFrom (specs : List OptionSpec) (mixed : Bool) (before : Arguments) :
    List String → Except UsageError Arguments
  | [] => .ok before
  | argument :: rest =>
    if argument = "--" then .ok { before with others := before.others ++ rest }
    else
      match argument.toList with
      | '-' :: _ :: _ =>
        match option specs argument.toList with
        | .error error => .error error
        | .ok { options, open? := none } => scanFrom specs mixed (before.add options) rest
        | .ok { options, open? := some name } =>
          match rest with
          | [] => .error (.missingValue name)
          | value :: rest => scanFrom specs mixed (before.add (options ++ [(name, value)])) rest
      | _ =>
        if mixed then
          scanFrom specs mixed { before with others := before.others ++ [argument] } rest
        else .ok { before with others := before.others ++ argument :: rest }

/-- Takes arguments apart. -/
def scan (specs : List OptionSpec) (mixed : Bool) (arguments : List String) :
    Except UsageError Arguments := scanFrom specs mixed {} arguments

/-- Whether an option was given. -/
def given (arguments : Arguments) (spec : OptionSpec) : Bool := arguments.options.has spec.long

/-- The first option that was given out of some. -/
def firstOf (arguments : Arguments) (specs : List OptionSpec) : Option OptionSpec :=
  arguments.options.findSome? fun option => specs.find? (·.long = option.1)

/-- The value of an option. -/
def value? (arguments : Arguments) (spec : OptionSpec) : Option String :=
  arguments.options.get? spec.long

end Arguments

end ManifestLint
