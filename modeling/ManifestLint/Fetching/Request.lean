import ManifestLint.Fetching.Url
import ManifestLint.Json.Display
import ManifestLint.Text.Ascii

/-!
# Requests and their results

A request asks the host for a tree or a blob of a repository.  Its id is whatever JSON value the
index gave.  A result has the status of an answer and either a payload or a message; only a payload
of status 200 counts, and a status of zero means that there was no usable answer at all.  What a
fetcher cannot even turn into a result is a fault.
-/

namespace ManifestLint

/-- What can be asked for. -/
inductive RequestKind where
  | tree
  | blob
  deriving DecidableEq, Repr

/-- The name of a kind. -/
def RequestKind.name : RequestKind → String
  | tree => "tree"
  | blob => "blob"

/-- A request for a tree or a blob. -/
structure Request where
  kind : RequestKind
  owner : String
  repository : String
  id : Json

/-- Owner and repository of a request. -/
def Request.place (request : Request) : String := request.owner ++ "/" ++ request.repository

/-- The id of a request as it stands in paths and messages. -/
def Request.idText (request : Request) : String := request.id.display

/-- The path of a request. -/
def Request.path (request : Request) : String :=
  s!"/repos/{request.owner}/{request.repository}/git/{request.kind.name}s/{request.idText}"

/-- The URL of a request under the address of the host. -/
def Request.url (request : Request) (apiUrl : String) : Except UrlError Url := do
  (← Url.base apiUrl.toList).below request.path.toList

/-- The result of a request. -/
structure FetchResult where
  status : Int
  payload : Json := .null
  message : String := ""

/-- Whether a result has a payload that counts. -/
def FetchResult.ok (result : FetchResult) : Bool := result.status = 200

/-- The result of a request that was answered with a payload. -/
def FetchResult.found (payload : Json) : FetchResult := { status := 200, payload }

/-- The result of a request without a usable answer. -/
def FetchResult.unusable (message : String) : FetchResult := { status := 0, message }

/-- What keeps a fetcher from giving a result. -/
inductive FetchFault where
  /-- The fetcher broke down with a message. -/
  | broken (text : String)
  /-- A value of the answer or the id has the wrong shape. -/
  | shape (error : Json.ShapeError)
  /-- A text that should be base64 holds other characters than ASCII. -/
  | notAscii
  /-- What was asked for, or the host, has no URL. -/
  | url (error : UrlError)
  /-- A header is not ASCII. -/
  | notAsciiHeader (error : Text.AsciiError)
  deriving DecidableEq, Repr

/-- The wording of a fault. -/
def FetchFault.message : FetchFault → String
  | broken text => text
  | shape error => error.message
  | notAscii => "string argument should contain only ASCII characters"
  | url error => error.message
  | notAsciiHeader error => error.message

/-- What a request leads to. -/
abbrev Reply := Except FetchFault FetchResult

end ManifestLint
