import ManifestLint.Collections.Entries
import ManifestLint.Fetching.Response

/-!
# Hosts held in memory

A host that answers from data at hand instead of a network.  It holds either repositories, whose
trees and blobs answer requests directly, or responses under the paths of the host's interface; or
it holds nothing and fails every request.

* `Host.answer` answers a request.
-/

namespace ManifestLint

/-- What is stored under an id. -/
inductive Stored where
  /-- A payload to answer with. -/
  | payload (value : Json)
  /-- A refusal with a status. -/
  | refused (status : Int) (message : String)
  /-- A breakdown of the fetcher. -/
  | broken (text : String)

/-- A repository held in memory.  As long as its status is not zero it answers every request. -/
structure Repository where
  trees : Entries String Stored := []
  blobs : Entries String Stored := []
  status : Int := 0
  message : String := ""

/-- The contents of a kind. -/
def Repository.contents (repository : Repository) : RequestKind → Entries String Stored
  | .tree => repository.trees
  | .blob => repository.blobs

/-- The repository with something stored under an id. -/
def Repository.store (repository : Repository) (kind : RequestKind) (id : String)
    (stored : Stored) : Repository :=
  match kind with
  | .tree => { repository with trees := repository.trees.put id stored }
  | .blob => { repository with blobs := repository.blobs.put id stored }

/-- A host: repositories by owner and name, responses by path, or nothing that could be reached. -/
inductive Host where
  | repositories (entries : Entries String Repository)
  | responses (apiUrl : String) (entries : Entries String Response)
  | unreachable (reason : String)

namespace Host

/-- The reply where nothing was found. -/
def missing : FetchResult := { status := 404, message := "GitHub returned 404" }

/-- The reply of something stored. -/
def ofStored : Stored → Reply
  | .payload value => .ok (.found value)
  | .refused status message => .ok { status, message }
  | .broken text => .error (.broken text)

/-- What is stored under an id.  Only a text is the id of anything, and a list or a table cannot
even be looked for. -/
def find? (contents : Entries String Stored) (id : Json) : Except FetchFault (Option Stored) :=
  match id with
  | .string text => .ok (contents.get? text)
  | .array _ => .error (.shape (.notKey .array))
  | .object _ => .error (.shape (.notKey .object))
  | _ => .ok none

/-- The reply of a repository. -/
def ofRepository (repository : Repository) (request : Request) : Reply :=
  if repository.status ≠ 0 then
    .ok { status := repository.status, message := repository.message }
  else
    match find? (repository.contents request.kind) request.id with
    | .ok (some stored) => ofStored stored
    | .ok none => .ok missing
    | .error fault => .error fault

/-- The reply to a request. -/
def answer (host : Host) (request : Request) : Reply :=
  match host with
  | repositories entries => ofRepository ((entries.get? request.place).getD {}) request
  | responses apiUrl entries =>
    match request.url apiUrl with
    | .ok url =>
      ((entries.get? (.ofList url.place)).getD (.answered 404 [] [])).reply request url
    | .error error => .error (.url error)
  | unreachable reason => .ok (Response.failure reason)

/-- The host with one of its repositories changed. -/
def update (host : Host) (place : String) (change : Repository → Repository) : Host :=
  match host with
  | repositories entries =>
    repositories (entries.put place (change ((entries.get? place).getD {})))
  | other => other

end Host

end ManifestLint
