import ManifestLint.Console.Run

/-!
# The program

The outer layer of the program: it reads the files that the command line may name and the variables
that settings may come from, runs the program on them, and shows what came of it.  It has no
network, so indexes cannot be read and checks that need one are left open.

Lines are shown as they stand.  A table has its title above its columns, which are as wide as their
longest cell; a line end inside a cell becomes a space.  A panel has its title above its text.
-/

namespace ManifestLint.Layout

/-- A cell of a table on one line. -/
def cell (text : String) : List Char := text.toList.map fun c => if c = '\n' then ' ' else c

/-- A cell with spaces behind it up to a width. -/
def padded (width : Nat) (cell : List Char) : List Char :=
  cell ++ List.replicate (width - cell.length) ' '

theorem length_padded (width : Nat) (cell : List Char) :
    (padded width cell).length = max width cell.length := by
  simp [padded]
  omega

/-- The widths of columns that hold the given ones and one more row. -/
def widen : List Nat → List (List Char) → List Nat
  | [], cells => cells.map List.length
  | widths, [] => widths
  | width :: widths, cell :: cells => max width cell.length :: widen widths cells

/-- A row of a table, its columns two spaces apart. -/
def row (widths : List Nat) (cells : List (List Char)) : String :=
  let gap := [' ', ' ']
  let text := List.intercalate gap (List.zipWith padded widths cells)
  .ofList (text.reverse.dropWhile (· = ' ')).reverse

/-- The lines of a table. -/
def table (title : String) (rows : List (List String)) : List String :=
  let cells := rows.map (·.map cell)
  title :: cells.map (row (cells.foldl widen []))

end ManifestLint.Layout

namespace ManifestLint

/-- The lines in which something is shown. -/
def Printed.lines : Printed → List String
  | line text => [text]
  | table title columns rows => Layout.table title (columns :: rows)
  | panel title text => [title, text]

/-- The paths that an argument may name: the argument itself, or the value of an option in it. -/
def argumentPaths (argument : String) : List String :=
  let characters := argument.toList
  [argument, .ofList ((characters.dropWhile (· ≠ '=')).drop 1), .ofList (characters.drop 2)]

/-- The text of a file, if there is one. -/
def readText? (path : String) : IO (Option String) := do
  try
    return some (← IO.FS.readFile path)
  catch _ =>
    return none

/-- The working folder with the files that the program may be asked for. -/
def readFolder (arguments : List String) : IO Folder := do
  let location ← IO.currentDir
  let mut files : Entries String String := []
  for path in Settings.fileName :: arguments.flatMap argumentPaths do
    if let some text ← readText? path then
      files := files.put (normalPath path) text
  return { location := location.toString, files }

/-- The variables that settings may come from. -/
def readEnvironment : IO (Entries String String) := do
  let mut found : Entries String String := []
  for name in Settings.tokenVariable :: Setting.all.map Settings.variableName do
    if let some text ← IO.getEnv name then
      found := found.put name text
  return found

/-- Shows what came of the program. -/
def showEnding (ending : Ending) : IO Unit := do
  for notice in ending.transcript.notices do
    IO.eprintln notice
  for printed in ending.transcript.printed do
    for line in printed.lines do
      IO.println line
  IO.print ending.transcript.output
  match ending.stop with
  | some (.usage error) => IO.eprintln s!"Error: {error.message}"
  | some (.breakdown reason) => IO.eprintln s!"Error: {reason.message}"
  | _ => return

/-- Runs the program in the working folder. -/
def runHere (arguments : List String) : IO UInt32 := do
  let around : Surroundings := {
    folder := ← readFolder arguments
    environment := ← readEnvironment
    host := .unreachable "there is no network" }
  let ending := runProgram around arguments
  showEnding ending
  return ending.exitCode.toUInt32

end ManifestLint

/-- Runs the program. -/
def main (arguments : List String) : IO UInt32 := ManifestLint.runHere arguments
