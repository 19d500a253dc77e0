import ManifestLint.Json.Decode
import ManifestLint.Json.Display
import ManifestLint.Manifest.Realm
import ManifestLint.Text.Lines
import ManifestLint.Text.Lower

/-!
# Published versions

An index keeps the history of a package as a text with one JSON object per line, oldest version
first.  A line that is no such object is passed over, so that it cannot hide the others.

* `Record.ofJson` reads one record, `Record.history` a whole history.
* `Record.displayAuthor` is the line of authors that users see.
-/

namespace ManifestLint

/-- Why a JSON value is no record of a published version. -/
inductive RecordError where
  /-- Some part has the wrong shape. -/
  | shape (error : Json.ShapeError)
  /-- The package is no table. -/
  | packageNotTable
  deriving DecidableEq, Repr

/-- The wording of a record error. -/
def RecordError.message : RecordError → String
  | shape error => error.message
  | packageNotTable => "'package' must be a table"

/-- A published version of a package. -/
structure Record where
  name : String
  version : String
  registry : String := ""
  realm : String := Realm.shared.name
  description : String := ""
  license : String := ""
  authors : List String := []
  dependencies : Entries Realm (Entries String String) := []
  deriving DecidableEq, Repr

namespace Record

/-- The realm of a record, if it is a known one. -/
def realmKind? (record : Record) : Option Realm := Realm.ofName? record.realm

/-- Who published a package: what stands before the slash in its name, if there is one. -/
def scope (record : Record) : String :=
  let name := record.name.toList
  if '/' ∈ name then .ofList (name.takeWhile (· ≠ '/')) else ""

/-- The name of a package without its scope. -/
def shortName (record : Record) : String :=
  let name := record.name.toList
  if '/' ∈ name then .ofList ((name.dropWhile (· ≠ '/')).drop 1) else record.name

/-- The name of an author, without the address or handle behind it. -/
def authorName (author : String) : String :=
  .ofList (Text.trim Text.isBlank (author.toList.takeWhile fun c => c ≠ '<' && c ≠ '('))

/-- The line of authors that users see: the names, and the scope unless it is the only author. -/
def displayAuthor (record : Record) : String :=
  let names := (record.authors.filter (· ≠ "")).map authorName
  match names.getLast? with
  | none => record.scope
  | some last =>
    if names.length = 1 then
      if Text.lower last = record.scope then last else s!"{last} ({record.scope})"
    else
      let others := ", ".intercalate names.dropLast
      s!"{others} and {last} ({record.scope})"

/-- The text under a key, or a default if the key is missing. -/
def textOr (members : Entries String Json) (key fallback : String) : String :=
  ((Entries.get? members key).map Json.display).getD fallback

/-- The text under a key, or the empty text if there is nothing to show. -/
def presentText (members : Entries String Json) (key : String) : String :=
  match Entries.get? members key with
  | some value => if value.isPresent then value.display else ""
  | none => ""

/-- The elements under a key, as texts; none if the value counts as absent. -/
def presentTexts (members : Entries String Json) (key : String) :
    Except Json.ShapeError (List String) :=
  match Entries.get? members key with
  | some value => if value.isPresent then value.elements.map (·.map Json.display) else .ok []
  | none => .ok []

/-- The dependencies of a realm, if their section is missing or a table. -/
def section? (members : Entries String Json) (realm : Realm) :
    Option (Realm × Entries String String) :=
  match Entries.get? members realm.table with
  | none => some (realm, [])
  | some (.object entries) => some (realm, entries.map fun entry => (entry.1, entry.2.display))
  | some _ => none

/-- Reads a record. -/
def ofJson (data : Json) : Except RecordError Record := do
  let members ← data.members.mapError .shape
  match (Entries.get? members "package").getD (.object []) with
  | .object package =>
    let authors ← (presentTexts package "authors").mapError .shape
    return {
      name := textOr package "name" ""
      version := textOr package "version" ""
      registry := textOr package "registry" ""
      realm := textOr package "realm" Realm.shared.name
      description := presentText package "description"
      license := presentText package "license"
      authors
      dependencies := Realm.all.filterMap (section? members) }
  | _ => throw .packageNotTable

/-- The record on a line of a history, if the line holds one. -/
def ofLine? (line : List Char) : Option Record :=
  let text := Text.trim Text.isBlank line
  if text.head? = some '\x7b' && text.getLast? = some '\x7d' then
    match Json.decodeChars text with
    | .ok data => (ofJson data).toOption
    | .error _ => none
  else none

/-- The records of a history, oldest first. -/
def history (text : List Char) : List Record := (Text.splitLines text).filterMap ofLine?

end Record

end ManifestLint
