import ManifestLint.Index.Record

/-!
# Layout of an index

An index is a tree of files: a configuration at its root, a subtree for each author, and in it one
file for each package besides the list of owners.  Entries are named in lower case.  The id of an
entry is whatever JSON value the tree gives; a null id counts as no entry.

* `Root.ofEntries`, `Author.ofEntries` read the entries of a tree.
* `Config.ofJson` reads a configuration.
-/

namespace ManifestLint.Index

/-- The list of the owners of an author's subtree, which is no package. -/
def ownersFile : String := "owners.json"

/-- An entry of a tree: its name, and the id under which its contents can be read. -/
structure Entry where
  name : String
  id : Json

/-- The first id under a name, unless it is null. -/
def idOf? (entries : List Entry) (name : String) : Option Json :=
  match entries.find? (·.name = name) with
  | some entry => if entry.id.kind = .null then none else some entry.id
  | none => none

/-- The root of an index: its authors, and its configuration if there is one. -/
structure Root where
  authors : List Entry := []
  config : Option Entry := none

/-- The names of the authors. -/
def Root.names (root : Root) : List String := root.authors.map (·.name)

/-- The id of an author's subtree. -/
def Root.idOf? (root : Root) (name : String) : Option Json := Index.idOf? root.authors name

/-- An author: the entries of the subtree that are packages. -/
structure Author where
  name : String
  id : Json
  packages : List Entry

/-- The names of an author's packages. -/
def Author.names (author : Author) : List String := author.packages.map (·.name)

/-- The id of a package's history. -/
def Author.idOf? (author : Author) (name : String) : Option Json :=
  Index.idOf? author.packages name

/-- The text of a path, for an operation on texts. -/
def pathText (path : Json) (operation : String) : Except Json.ShapeError String :=
  match path with
  | .string text => .ok text
  | other => .error (.lacks other.kind operation)

/-- The value under a key of a tree's entry, by default an empty text. -/
def valueOf (entry : Entries String Json) (key : String) : Json :=
  (Entries.get? entry key).getD (.string "")

/-- Whether an entry of a tree is a tree itself. -/
def isTree (entry : Entries String Json) : Bool :=
  match Entries.get? entry "type" with
  | some (.string kind) => kind = "tree"
  | _ => false

/-- The root with one more entry: a tree is an author, and a file whose name ends like that of a
JSON file is the configuration, the last such file counting. -/
def Root.add (root : Root) (entry : Entries String Json) : Except Json.ShapeError Root := do
  let path := valueOf entry "path"
  let id := valueOf entry "sha"
  if isTree entry then
    let name ← pathText path "lower"
    return { root with authors := root.authors ++ [⟨Text.lower name, id⟩] }
  else
    let name ← pathText path "endswith"
    if ".json".toList.isSuffixOf name.toList then return { root with config := some ⟨name, id⟩ }
    else return root

/-- The root that a list of entries makes. -/
def Root.ofEntries (entries : List (Entries String Json)) : Except Json.ShapeError Root :=
  entries.foldlM Root.add {}

/-- Whether an entry of an author's subtree is a package. -/
def isPackage (entry : Entries String Json) : Bool :=
  !isTree entry &&
    match Entries.get? entry "path" with
    | some (.string path) => path ≠ ownersFile
    | _ => true

/-- The entry of a package. -/
def packageEntry (entry : Entries String Json) : Except Json.ShapeError Entry := do
  return ⟨Text.lower (← pathText (valueOf entry "path") "lower"), valueOf entry "sha"⟩

/-- The author that a list of entries makes. -/
def Author.ofEntries (name : String) (id : Json) (entries : List (Entries String Json)) :
    Except Json.ShapeError Author := do
  return ⟨name, id, ← (entries.filter isPackage).mapM packageEntry⟩

/-- The configuration of an index, with the indexes to fall back on. -/
structure Config where
  api : String := ""
  oauthId : String := ""
  fallbacks : List String := []
  deriving DecidableEq, Repr

/-- The texts among the elements of a value. -/
def textElements (elements : List Json) : List String :=
  elements.filterMap fun element =>
    match element with
    | .string text => some text
    | _ => none

/-- Reads a configuration. -/
def Config.ofJson (data : Json) : Except Json.ShapeError Config := do
  let members ← data.members
  let fallbacks ←
    match Entries.get? members "fallback_registries" with
    | some value => if value.isPresent then value.elements else .ok []
    | none => .ok []
  return {
    api := Record.textOr members "api" ""
    oauthId := Record.textOr members "github_oauth_id" ""
    fallbacks := textElements fallbacks }

end ManifestLint.Index
