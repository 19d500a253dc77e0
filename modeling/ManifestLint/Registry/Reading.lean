import ManifestLint.Registry.Basic

/-!
# Reading an index

An index is read level by level: the root, the subtree of an author, the history of a package, and
the configuration.  What was read is kept in the client's cache; what failed is not.  A `Read` ends
in a `ReadError` if a request failed or its payload could not be used.

* `attempt` is the border that no read error crosses: it notes and reports the failure, and the
  lookup goes on without a value.
-/

namespace ManifestLint

/-- Why a level of an index could not be read. -/
inductive ReadError where
  /-- The request was answered with another status than success. -/
  | unreadable (kind : RequestKind) (id url : String) (result : FetchResult)
  /-- There is no index. -/
  | noIndex (url : String) (status : Int)
  /-- The configuration is no JSON document. -/
  | malformedConfig (url problem : String)
  /-- The fetcher gave no result. -/
  | fault (fault : FetchFault)
  /-- The payload has the wrong shape. -/
  | shape (error : Json.ShapeError)

namespace ReadError

/-- The wording of a read error. -/
def message : ReadError → String
  | unreadable kind id url result =>
    let reason := if result.message = "" then toString result.status else result.message
    s!"Could not read {kind.name} '{id}' of {url}: {reason}"
  | noIndex url _ => s!"Registry index not found: {url}"
  | malformedConfig url problem => s!"Malformed config.json in {url}: {problem}"
  | fault cause => cause.message
  | shape error => error.message

/-- The status of a failure that was foreseen; zero where no answer had one. -/
def status? : ReadError → Option Int
  | unreadable _ _ _ result => some result.status
  | noIndex _ status => some status
  | malformedConfig _ _ => some 0
  | fault _ => none
  | shape _ => none

/-- Whether a status says that too much was asked for. -/
def isRateLimit (status : Int) : Bool := status = 403 || status = 429

/-- Whether a status says that there is nothing of the kind. -/
def isMissing (status : Int) : Bool := status = 404

/-- What users are told about a failure to read from a URL. -/
def report (error : ReadError) (url : String) : String :=
  match error.status? with
  | some status =>
    if isRateLimit status then
      s!"GitHub rate limit reached while reading {url}. "
        ++ "Configure a GitHub token to raise the limit."
    else error.message
  | none => s!"Unexpected error while reading {url}: {error.message}"

end ReadError

/-- An action on the registry that may end in a read error. -/
abbrev Read (α : Type) : Type := ExceptT ReadError (Action Registry) α

namespace Read

/-- The value of an operation on a payload. -/
def ofShape {α : Type} (value : Except Json.ShapeError α) : Read α :=
  match value with
  | .ok value => pure value
  | .error error => throw (.shape error)

/-- The payload of a request. -/
def payload (handle : Handle) (kind : RequestKind) (id : Json) : Read Json := do
  let address := handle.address
  let request : Request := ⟨kind, address.owner, address.repository, id⟩
  match ← (Registry.ask request : Action Registry Reply) with
  | .ok result =>
    if result.ok then return result.payload
    else throw (.unreadable kind request.idText handle.url result)
  | .error fault => throw (.fault fault)

/-- The tables among the elements of a tree's payload. -/
def tree (handle : Handle) (id : Json) : Read (List (Entries String Json)) := do
  let elements ← ofShape (← payload handle .tree id).elements
  return elements.filterMap fun element =>
    match element with
    | .object members => some members
    | _ => none

/-- The id of the root. -/
def rootId : Json := .string "main"

/-- An error of the request for the root, which may mean that there is no index. -/
def rootError (handle : Handle) (error : ReadError) : ReadError :=
  match error.status? with
  | some status => if ReadError.isMissing status then .noIndex handle.url status else error
  | none => error

/-- The root of an index. -/
def root (handle : Handle) : Read Index.Root := do
  match (← get).client handle |>.cache.root with
  | some root => return root
  | none =>
    let entries ← tryCatch (tree handle rootId) fun error => throw (rootError handle error)
    let root ← ofShape (Index.Root.ofEntries entries)
    modify (·.updateCache handle fun cache => { cache with root := some root })
    return root

/-- An author of an index, if the root lists it. -/
def author (handle : Handle) (name : String) : Read (Option Index.Author) := do
  let lowered := Text.lower name
  match (← get).client handle |>.cache.authors.get? lowered with
  | some author => return some author
  | none =>
    match (← root handle).idOf? lowered with
    | none => return none
    | some id =>
      let entries ← tree handle id
      let author ← ofShape (Index.Author.ofEntries lowered id entries)
      modify (·.updateCache handle fun cache =>
        { cache with authors := cache.authors.put lowered author })
      return some author

/-- The text of a history. -/
def historyText (payload : Json) : Read String :=
  match payload with
  | .string text => pure text
  | other => throw (.shape (.lacks other.kind "splitlines"))

/-- A package of an index, if its author lists it. -/
def package (handle : Handle) (author name : String) : Read (Option Index.Package) := do
  let loweredAuthor := Text.lower author
  let loweredName := Text.lower name
  match (← get).client handle |>.cache.packages.get? (loweredAuthor, loweredName) with
  | some package => return some package
  | none =>
    match (← Read.author handle loweredAuthor).bind (·.idOf? loweredName) with
    | none => return none
    | some id =>
      let text ← historyText (← payload handle .blob id)
      let package : Index.Package := ⟨loweredAuthor, loweredName, Record.history text.toList⟩
      modify (·.updateCache handle fun cache =>
        { cache with packages := cache.packages.put (loweredAuthor, loweredName) package })
      return some package

/-- The document in the payload of a configuration. -/
def configDocument (handle : Handle) (payload : Json) : Read Json :=
  match payload with
  | .string text =>
    match Json.decode text with
    | .ok (.object members) => pure (.object members)
    | .ok _ => throw (.malformedConfig handle.url "expected an object")
    | .error error => throw (.malformedConfig handle.url (error.message text.toList))
  | other => throw (.shape (.notDocument other.kind))

/-- The configuration of an index, if the root lists one. -/
def config (handle : Handle) : Read (Option Index.Config) := do
  match (← get).client handle |>.cache.config with
  | some config => return some config
  | none =>
    match (← root handle).config with
    | none => return none
    | some entry =>
      let document ← configDocument handle (← payload handle .blob entry.id)
      let config ← ofShape (Index.Config.ofJson document)
      modify (·.updateCache handle fun cache => { cache with config := some config })
      return some config

end Read

namespace Lookup

/-- The value that was read, or nothing if that failed.  A failure is noted in the client and
reported. -/
def attempt {α : Type} (handle : Handle) (read : Read α) : Lookup (Option α) := do
  match ← (read.run : Action Registry (Except ReadError α)) with
  | .ok value => return some value
  | .error error =>
    modify (·.update handle fun client => { client with lastFailure := error.status? })
    let _ ← notify (error.report handle.url)
    return none

end Lookup

end ManifestLint
