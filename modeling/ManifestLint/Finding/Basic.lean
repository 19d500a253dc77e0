import ManifestLint.Collections.Entries
import ManifestLint.Toml.Position

/-!
# Findings

A finding is a code at a span of the manifest, with a message.  The first digit of a code is its
severity: 1 for errors, 2 for warnings, 3 for information, 4 for hints; every other code is an
error.  Each code of this program has a message with placeholders, which are names between angle
brackets.  They are filled in one after the other; if a value is missing or empty only the first
line of the message is shown, with whatever it holds.

* `Code.severity` and `Code.template` are total: a code of somebody else has its own text as
  message.
* `render` makes the message of a code, `Finding.of` a whole finding.
* `Summary.of` counts findings, and summaries are added up.
-/

namespace ManifestLint

/-! ## Codes -/

/-- How serious a finding is. -/
inductive Severity where
  | error
  | warning
  | info
  | hint
  deriving DecidableEq, Repr

/-- The name of a severity. -/
def Severity.name : Severity → String
  | error => "error"
  | warning => "warning"
  | info => "info"
  | hint => "hint"

/-- The kinds of findings. -/
inductive Code where
  | invalidAuthor
  | invalidName
  | invalidVersion
  | invalidRealm
  | invalidRegistry
  | missingAuthor
  | missingName
  | missingVersion
  | missingRealm
  | missingRegistry
  | newerVersion
  | misplaced
  | other (text : String)
  deriving DecidableEq, Repr

namespace Code

/-- The codes that have a message of their own. -/
def known : List Code := [
  invalidAuthor, invalidName, invalidVersion, invalidRealm, invalidRegistry, missingAuthor,
  missingName, missingVersion, missingRealm, missingRegistry, newerVersion, misplaced]

/-- The spelling of a code. -/
def text : Code → String
  | invalidAuthor => "W-101"
  | invalidName => "W-102"
  | invalidVersion => "W-103"
  | invalidRealm => "W-104"
  | invalidRegistry => "W-105"
  | missingAuthor => "W-201"
  | missingName => "W-202"
  | missingVersion => "W-203"
  | missingRealm => "W-204"
  | missingRegistry => "W-205"
  | newerVersion => "W-301"
  | misplaced => "W-302"
  | other text => text

/-- The code with a spelling. -/
def ofText (text : String) : Code := (known.find? fun code => code.text = text).getD (other text)

/-- The severity of a code. -/
def severity (code : Code) : Severity :=
  match code.text.toList with
  | 'W' :: '-' :: '2' :: _ => .warning
  | 'W' :: '-' :: '3' :: _ => .info
  | 'W' :: '-' :: '4' :: _ => .hint
  | _ => .error

/-- The message of a code, with its placeholders. -/
def template : Code → String
  | invalidAuthor => "Invalid package author.\nDid you mean `<PACKAGE_AUTHOR>`?"
  | invalidName => "Invalid package name.\nDid you mean `<PACKAGE_NAME>`?"
  | invalidVersion => "Invalid package version.\nDid you mean `<VERSION_IDENTIFIER>`?"
  | invalidRealm => "Invalid package realm.\nDid you mean `<REALM_NAME>`?"
  | invalidRegistry => "Invalid package registry.\nDid you mean `<REGISTRY_NAME>`?"
  | missingAuthor => "Missing package author."
  | missingName => "Missing package name."
  | missingVersion => "Missing package version."
  | missingRealm => "Missing package realm."
  | missingRegistry => "Missing package registry."
  | newerVersion =>
    "A newer package version is available.\nThe latest version is `<PACKAGE_VERSION>`."
  | misplaced =>
    "Package is a `<REALM_NAME>` dependency but was listed in `<REALM_CURRENT>`.\n"
      ++ "Did you mean to list it under `<REALM_SECTION>`?"
  | other text => text

end Code

/-! ## Messages -/

/-- What stands for the placeholders of a message. -/
abbrev Substitutions := Entries String String

/-- A text with every occurrence of a pattern replaced, from left to right. -/
def replaceAll (pattern value : List Char) : List Char → List Char
  | [] => []
  | c :: rest =>
    if pattern.isPrefixOf (c :: rest) then
      value ++ replaceAll pattern value (rest.drop (pattern.length - 1))
    else c :: replaceAll pattern value rest
termination_by text => text.length
decreasing_by
  all_goals simp only [List.length_drop, List.length_cons]
  all_goals omega

/-- The placeholder with a name. -/
def placeholder (name : String) : List Char := '<' :: name.toList ++ ['>']

/-- The first line of a message. -/
def firstLine (message : List Char) : List Char := message.takeWhile (· ≠ '\n')

/-- The message of a code. -/
def render (code : Code) (substitutions : Substitutions) : String :=
  let template := code.template.toList
  .ofList <|
    if substitutions.isEmpty || substitutions.any (·.2 = "") then firstLine template
    else substitutions.foldl (fun message pair =>
      replaceAll (placeholder pair.1) pair.2.toList message) template

/-- Something to tell the user about a span of the manifest. -/
structure Finding where
  code : Code
  span : Toml.Span
  message : String
  substitutions : Substitutions := []
  deriving DecidableEq, Repr

namespace Finding

/-- The finding of a code at a span.  A substitution without a value is an empty one. -/
def of (code : Code) (span : Toml.Span) (substitutions : List (String × Option String)) :
    Finding :=
  let clean := Entries.ofPairs (substitutions.map fun pair => (pair.1, pair.2.getD ""))
  { code, span, message := render code clean, substitutions := clean }

/-- The severity of a finding. -/
def severity (finding : Finding) : Severity := finding.code.severity

/-- The first line of the message of a finding. -/
def headline (finding : Finding) : String := .ofList (firstLine finding.message.toList)

end Finding

/-- Findings, counted. -/
structure Summary where
  errors : Nat := 0
  warnings : Nat := 0
  upgrades : Nat := 0
  total : Nat := 0
  deriving DecidableEq, Repr

namespace Summary

/-- The counts of a list of findings. -/
def of (findings : List Finding) : Summary where
  errors := findings.countP (·.severity = .error)
  warnings := findings.countP (·.severity = .warning)
  upgrades := findings.countP (·.code = .newerVersion)
  total := findings.length

/-- The counts of two lists together. -/
def add (a b : Summary) : Summary :=
  ⟨a.errors + b.errors, a.warnings + b.warnings, a.upgrades + b.upgrades, a.total + b.total⟩

instance : Add Summary := ⟨add⟩

/-- The line that users see. -/
def describe (summary : Summary) : String :=
  let status := if summary.errors = 0 then "PASS" else "FAIL"
  s!"[{status}] {summary.errors} error(s), {summary.warnings} warning(s), "
    ++ s!"{summary.upgrades} upgrade(s)"

/-- The counts of a list add up from those of its parts. -/
theorem of_append (a b : List Finding) : of (a ++ b) = of a + of b := by
  simp only [of, List.countP_append, List.length_append]
  rfl

end Summary

end ManifestLint
