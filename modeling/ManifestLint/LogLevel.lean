/-!
# Log levels

How much the program writes to its log.  The logger has one handler, which is replaced and not
joined by another one when the level is chosen again.
-/

namespace ManifestLint

/-- The levels that a user can choose. -/
inductive LogLevel where
  | quiet
  | normal
  | verbose
  deriving DecidableEq, Repr

namespace LogLevel

/-- The levels, in the order in which they are offered. -/
def all : List LogLevel := [quiet, normal, verbose]

/-- The name of a level. -/
def name : LogLevel → String
  | quiet => "quiet"
  | normal => "normal"
  | verbose => "verbose"

/-- The level with a name. -/
def ofName? (text : String) : Option LogLevel := all.find? fun level => level.name = text

/-- The least weight of the messages that are written. -/
def threshold : LogLevel → Nat
  | quiet => 30
  | normal => 20
  | verbose => 10

end LogLevel

/-- The logger of the program: its threshold, zero before a level is chosen, how many handlers it
has, and whether it passes messages on to its surroundings. -/
structure Logger where
  threshold : Nat := 0
  handlers : Nat := 0
  forwards : Bool := true
  deriving DecidableEq, Repr

/-- The name of the logger. -/
def Logger.name : String := "wally_lint"

/-- The logger once a level was chosen; an unknown name means the normal level. -/
def Logger.configured (level : String) : Logger where
  threshold := ((LogLevel.ofName? level).getD .normal).threshold
  handlers := 1
  forwards := false

end ManifestLint
