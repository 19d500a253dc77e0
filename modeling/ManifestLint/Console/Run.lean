import ManifestLint.Console.Command
import ManifestLint.Console.Output
import ManifestLint.Session.Step
import ManifestLint.Settings.Loading

/-!
# Running the program

The program is run with a command line in a folder and an environment, and talks to a host.  Its
exit code is 2 if the command line is not understood, 1 if the command fails or breaks down, and 0
otherwise.  The settings are read before the arguments of the command are looked at.

* `Command.run` is one command, `runProgram` the whole program.
-/

namespace ManifestLint

open ManifestLint.Markup (escape)

/-- What commands work with. -/
structure Surroundings where
  folder : Folder
  environment : Entries String String
  host : Host

namespace Console

/-- Does a lookup on a registry that is opened for it and closed afterwards. -/
def lookUp {α : Type} (settings : Settings) (host : Host) (lookup : Lookup α) :
    Console (Except Fault α) := do
  let (registry, result) := Action.run lookup.run host.answer (openedRegistry settings)
  noteUse settings registry
  return result

/-- The value of a lookup that must not end in a fault. -/
def orFault {α : Type} (result : Except Fault α) : Console α :=
  match result with
  | .ok value => pure value
  | .error fault => breakDown (.fault fault)

/-- The value of a lookup; that an index is not supported is shown. -/
def orUnsupported {α : Type} (result : Except Fault α) : Console α := do
  match result with
  | .error (.address error) =>
    print s!"[red]{escape error.message}[/]"
    exit 1
  | other => orFault other

/-- Does a lookup on the index that was asked for, else on the default one. -/
def lookUpIn {α : Type} (settings : Settings) (host : Host) (asked : Option String)
    (lookup : Handle → Lookup α) : Console α := do
  match (asked.filter (· ≠ "")).or settings.defaultIndex with
  | some url =>
    orUnsupported (← lookUp settings host do lookup (← Lookup.require url))
  | none =>
    noteUse settings (openedRegistry settings)
    breakDown (.shape (.lacks .null "strip"))

/-- The text of a file, in which every line end is a line feed. -/
def fileText (folder : Folder) (path : String) : String :=
  .ofList (Text.unifyLineEnds ((folder.read? path).getD "").toList)

/-- A specifier with an author and a name, taken apart. -/
def splitSpecifier (text : String) : Console Specifier := do
  let specifier := Specifier.parse text
  if specifier.fullAuthor && specifier.name ≠ "" then return specifier
  let expected := escape "Expected AUTHOR/NAME[@VERSION], got:"
  print s!"[red]{expected}[/] {escape text}"
  exit 1

end Console

namespace Command

open Console

/-- The style of a severity. -/
def severityStyle : Severity → String
  | .error => "red"
  | .warning => "yellow"
  | .info => "blue"
  | .hint => "dim"

/-- The row of a finding. -/
def findingRow (finding : Finding) : List String :=
  let start := finding.span.start
  let severity := finding.severity
  [s!"{start.line + 1}:{start.column + 1}", finding.code.text,
    s!"[{severityStyle severity}]{severity.name}[/]", escape finding.message]

/-- Checks a manifest. -/
def runCheck (settings : Settings) (around : Surroundings) (path : String) (strict : Bool) :
    Console Unit := do
  print s!"\n[bold blue]{programName}[/] — Checking: {escape path}\n"
  let text := fileText around.folder path
  if let .error failure := Manifest.parse text then
    print s!"  [red]Failed to parse:[/] {escape failure.reason}"
    exit 1
  if settings.diagnosticsEnabled ≠ some true then
    print "[yellow]Diagnostics are disabled in the settings.[/]"
    return
  let session : Session := { registry := openedRegistry settings, host := around.host }
  let (session, outcome) := session.step (.init path text)
  noteUse settings session.registry
  let _ ← orFault (outcome.getD (.ok .nothing))
  let findings := session.tracker.findingsOf path
  let summary := session.tracker.summaryOf path
  if !findings.isEmpty then
    printTable s!"Findings ({summary.total})" ["Line", "Code", "Severity", "Message"]
      (findings.map findingRow)
  printPanel "Summary" (escape summary.describe)
  if summary.errors ≠ 0 then exit 1
  if strict && summary.warnings ≠ 0 then
    print "\n[red]FAIL[/] (strict mode: warnings treated as errors)"
    exit 1
  if summary.total = 0 then print "\n[green]All dependencies look good![/]"

/-- The lines that show a package. -/
def overviewLines (overview : Index.Overview) : List String :=
  let record := overview.record
  [s!"[bold cyan]{escape record.name}[/] {escape record.version}",
    "",
    if record.description = "" then "[dim]No description[/]" else escape record.description,
    "",
    s!"Author:  {escape record.displayAuthor}",
    s!"Realm:   {escape record.realm}"]
    ++ (if record.license = "" then [] else [s!"License: {escape record.license}"])
    ++ (if overview.isOutdated then [s!"Latest:  [yellow]{escape overview.latest}[/]"] else [])
    ++ (if overview.webUrl = "" then [] else [s!"Page:    {overview.webUrl}"])

/-- The version that was asked for, else the latest one, of a package to show. -/
def lookUpOverview (specifier : Specifier) (handle : Handle) :
    Lookup (Option Index.Overview) := do
  let wanted ←
    if specifier.requirement = "" then Lookup.latest handle specifier.author specifier.name
    else pure (some specifier.requirement)
  match wanted.filter (· ≠ "") with
  | some requirement => Lookup.describe handle specifier.author specifier.name requirement
  | none => return none

/-- Shows a package. -/
def runInfo (settings : Settings) (around : Surroundings) (text : String)
    (index : Option String) : Console Unit := do
  let specifier ← splitSpecifier text
  match ← lookUpIn settings around.host index (lookUpOverview specifier) with
  | some overview => printPanel "Package" ("\n".intercalate (overviewLines overview))
  | none =>
    print s!"[yellow]No matching package found for {escape text}.[/]"
    exit 1

/-- The row of a version, with a mark if it satisfies a requirement. -/
def versionRow (requirement version : String) : Console (List String) := do
  if requirement = "" then return [escape version]
  match Version.satisfies requirement version with
  | .ok true => return [escape version, "[green]Y[/]"]
  | .ok false => return [escape version, ""]
  | .error error => breakDown (.fault (.notANumber error))

/-- Lists the versions of a package. -/
def runVersions (settings : Settings) (around : Surroundings) (text : String)
    (index : Option String) : Console Unit := do
  let specifier ← splitSpecifier text
  let found ← lookUpIn settings around.host index fun handle =>
    Lookup.versions handle specifier.author specifier.name
  let versions := found.getD []
  if versions.isEmpty then
    print s!"[yellow]No versions found for {escape specifier.author}/{escape specifier.name}.[/]"
    exit 1
  let title := s!"{specifier.author}/{specifier.name} ({versions.length} versions)"
  let matching :=
    if specifier.requirement = "" then [] else [s!"Matches {specifier.requirement}"]
  let rows ← versions.mapM (versionRow specifier.requirement)
  printTable title ("Version" :: matching) rows

/-- Lists the candidates at a position of a manifest. -/
def runComplete (settings : Settings) (around : Surroundings) (path : String)
    (position : Toml.Position) : Console Unit := do
  match Manifest.parse? (fileText around.folder path) with
  | none =>
    print "[red]Manifest could not be parsed.[/]"
    exit 1
  | some manifest =>
    let lookup := Lookup.candidatesAt manifest position
    let candidates ← orFault (← lookUp settings around.host lookup)
    if candidates.isEmpty then print "[yellow]No completions.[/]"
    else
      candidates.forM fun candidate =>
        print s!"  [cyan]{escape candidate.label}[/] [dim]{candidate.kind.name}[/]"

/-- Runs a command. -/
def run (settings : Settings) (around : Surroundings) : Command → Console Unit
  | check path strict => runCheck settings around path strict
  | info specifier index => runInfo settings around specifier index
  | versions specifier index => runVersions settings around specifier index
  | complete path line column => runComplete settings around path ⟨line, column⟩
  | help usage => Console.write usage

end Command

/-- The settings of an invocation; that they are wrong is shown. -/
def Invocation.settings (invocation : Invocation) (around : Surroundings) :
    Console Settings := do
  match Settings.load around.folder invocation.config around.environment with
  | .ok settings =>
    return (
      if invocation.verbose then { settings with logLevel := some LogLevel.verbose.name }
      else if invocation.quiet then { settings with logLevel := some LogLevel.quiet.name }
      else settings)
  | .error error =>
    if error.isConfiguration then
      Console.print s!"[red]Configuration error:[/] {escape error.message}"
      Console.exit 1
    else Console.breakDown (.settings error)

/-- Runs the command of an invocation. -/
def Invocation.run (invocation : Invocation) (around : Surroundings) : Console Unit := do
  let settings ← invocation.settings around
  modify fun transcript =>
    { transcript with logger := .configured (settings.logLevel.getD "") }
  match Command.parse around.folder invocation.command invocation.rest with
  | .ok command => command.run settings around
  | .error error => Console.misused error

/-- Does what a command line asks for. -/
def Order.perform (around : Surroundings) : Order → Console Unit
  | version => Console.write s!"main, version {programVersion}\n"
  | help => Console.write programUsage
  | run invocation => invocation.run around

/-- How a run of the program ended: what stopped it, if something did, and what came of it. -/
structure Ending where
  stop : Option Stop
  transcript : Transcript

/-- The exit code of an ending. -/
def Ending.exitCode (ending : Ending) : Nat :=
  match ending.stop with
  | none => 0
  | some (.exit code) => code
  | some (.usage _) => 2
  | some (.breakdown _) => 1

/-- The reason why the program broke down, if it did. -/
def Ending.breakdown? (ending : Ending) : Option Breakdown :=
  match ending.stop with
  | some (.breakdown reason) => some reason
  | _ => none

/-- Runs the program with its arguments. -/
def runProgram (around : Surroundings) (arguments : List String) : Ending :=
  let console : Console Unit :=
    match Invocation.parse arguments with
    | .ok order => order.perform around
    | .error error => Console.misused error
  match (console.run.run {} : Except Stop Unit × Transcript) with
  | (.ok _, transcript) => ⟨none, transcript⟩
  | (.error stop, transcript) => ⟨some stop, transcript⟩

end ManifestLint
