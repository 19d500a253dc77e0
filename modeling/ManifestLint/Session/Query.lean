import ManifestLint.Checking.Suggestions
import ManifestLint.Completion
import ManifestLint.Finding.Basic
import ManifestLint.Registry.Control

/-!
# Queries

The questions that can be put to a client, as data, and the values that answer what is done in a
session.
-/

namespace ManifestLint

/-- A question to a client, or an order. -/
inductive Query where
  | authorNames
  | packageNames (author : String)
  | versions (author name : String)
  | bestRecord (author name requirement : String)
  | latest (author name : String)
  | latestSatisfying (author name requirement : String)
  | describe (author name requirement : String)
  | config
  | authorValidity (author : String)
  | packageValidity (author name : String)
  | versionValidity (author name requirement : String)
  | reachable
  | invalidate
  | setToken (token : Option String)
  | tokenChanged (token : Option String)
  | closestAuthor (author : String)
  | closestPackage (author name : String)
  | closestVersion (author name version : String)
  deriving DecidableEq, Repr

/-- The value of an answer. -/
inductive Answer where
  | nothing
  | flag (value : Bool)
  | count (value : Nat)
  | text (value : String)
  | texts (values : List String)
  | record (value : Record)
  | overview (value : Index.Overview)
  | config (value : Index.Config)
  | validity (value : Validity)
  | client (value : Handle)
  | result (value : FetchResult)
  | candidates (values : List Candidate)
  | findings (values : List Finding)
  | summary (value : Summary)

/-- An answer that may be missing. -/
def Answer.ofOption {α : Type} (answer : α → Answer) : Option α → Answer
  | some value => answer value
  | none => .nothing

/-- Puts a query to a client. -/
def Query.run (handle : Handle) : Query → Lookup Answer
  | authorNames => return .ofOption .texts (← Lookup.authorNames handle)
  | packageNames author => return .ofOption .texts (← Lookup.packageNames handle author)
  | versions author name => return .ofOption .texts (← Lookup.versions handle author name)
  | bestRecord author name requirement =>
    return .ofOption .record (← Lookup.bestRecord handle author name requirement)
  | latest author name => return .ofOption .text (← Lookup.latest handle author name)
  | latestSatisfying author name requirement =>
    return .ofOption .text (← Lookup.latestSatisfying handle author name requirement)
  | describe author name requirement =>
    return .ofOption .overview (← Lookup.describe handle author name requirement)
  | config => return .ofOption .config (← Lookup.config handle)
  | authorValidity author => return .validity (← Lookup.authorValidity handle author)
  | packageValidity author name =>
    return .validity (← Lookup.packageValidity handle author name)
  | versionValidity author name requirement =>
    return .validity (← Lookup.versionValidity handle author name requirement)
  | reachable => return .validity (← Lookup.reachable handle)
  | invalidate => do
    Lookup.invalidate handle
    return .nothing
  | setToken token => return .flag (← Lookup.setToken handle token)
  | tokenChanged token => do
    Lookup.tokenChanged handle token
    return .nothing
  | closestAuthor author => return .ofOption .text (← Lookup.closestAuthor handle author)
  | closestPackage author name =>
    return .ofOption .text (← Lookup.closestPackage handle author name)
  | closestVersion author name version =>
    return .ofOption .text (← Lookup.closestVersion handle author name version)

end ManifestLint
