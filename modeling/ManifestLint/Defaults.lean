/-!
# Built-in defaults

The values that hold where neither a manifest, nor a settings file, nor the environment says
otherwise.
-/

namespace ManifestLint

/-- The name of the program, as it introduces itself. -/
def programName : String := "wally-lint"

/-- The version of the program. -/
def programVersion : String := "0.1.0"

/-- The index that everybody may publish to. -/
def publicIndexUrl : String := "https://github.com/UpliftGames/wally-index"

/-- The address of the host's interface. -/
def defaultApiUrl : String := "https://api.github.com"

/-- How many seconds a request may take. -/
def defaultTimeout : Float := 20.0

/-- How many seconds pass before a notice is repeated. -/
def defaultCooldown : Float := 60.0

end ManifestLint
