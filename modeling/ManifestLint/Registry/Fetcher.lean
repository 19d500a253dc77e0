import ManifestLint.Defaults
import ManifestLint.Fetching.Request
import ManifestLint.Text.Base64
import ManifestLint.Text.Blank

/-!
# The fetcher

All clients of a store send their requests through one fetcher, which knows the address of the host
and the token to show.  Its connection is opened with the first request, with the token of that
time, and a new token is passed on to an open connection.  A fetcher may also hand its requests to
data in memory, and needs no connection then.  It keeps a journal of what it was used for.

A request is not sent if it or the host has no URL, or if the token is not ASCII.  Name and password
in the address of the host are shown in place of the token.

* `Fetcher.send` sends a request, `setToken` changes the token, `close` closes the connection.
-/

namespace ManifestLint

/-- An entry of the journal. -/
inductive Event where
  /-- A request was handed over. -/
  | asked (request : Request)
  /-- A request for a URL was sent, with the authorization it carried. -/
  | sent (url : Url) (authorization : Option String)
  /-- A token was set. -/
  | tokenSet (token : Option String)
  /-- The connection was closed. -/
  | closed

/-- A token that is not empty. -/
def usableToken (token : Option String) : Option String := token.filter (· ≠ "")

/-- How a token is shown to the host. -/
def authorization (token : Option String) : Option String := token.map ("Bearer " ++ ·)

/-- Name and password as they are shown to the host. -/
def credentialsShown (name password : List Char) : String :=
  "Basic " ++ .ofList (Text.encodeBase64 (Text.encodeUtf8 (name ++ ':' :: password)))

/-- A connection: the URL of the host, and the authorization that the token gives. -/
structure Connection where
  base : Url
  authorization : Option String

/-- What a request for a URL carries over a connection. -/
def Connection.authorizationFor (connection : Connection) (url : Url) : Option String :=
  match url.credentials? with
  | some (name, password) => some (credentialsShown name password)
  | none => connection.authorization

/-- The fetcher: the address of the host, how long a request may take, the token, whether requests
are sent to the host or handed to data in memory, the connection if one is open, and the journal. -/
structure Fetcher where
  apiUrl : String := defaultApiUrl
  timeout : Option Float := some defaultTimeout
  token : Option String := none
  overHttp : Bool := false
  connection : Option Connection := none
  journal : List Event := []

namespace Fetcher

/-- A fetcher for a host, with a token unless it is empty. -/
def new (apiUrl : String) (timeout : Option Float) (token : Option String) : Fetcher where
  apiUrl := .ofList (Text.trimEnd (· = '/') apiUrl.toList)
  timeout
  token := usableToken token

/-- What every request accepts. -/
def accept : String := "application/vnd.github+json"

/-- The headers of a request in order. -/
def headers (fetcher : Fetcher) : List (String × String) :=
  [("Accept", accept)]
    ++ ((authorization fetcher.token).map ("Authorization", ·)).toList
    ++ [("User-Agent", programName)]

/-- The connection, which is opened if it is not yet. -/
def connect (fetcher : Fetcher) : Except FetchFault Connection :=
  match fetcher.connection with
  | some connection => .ok connection
  | none => do
    let base ← (Url.base fetcher.apiUrl.toList).mapError .url
    let shown := authorization fetcher.token
    match Text.asciiError? (shown.getD "").toList with
    | some error => throw (.notAsciiHeader error)
    | none => return { base, authorization := shown }

/-- The fetcher after a request was sent, and why it was not if so. -/
def send (fetcher : Fetcher) (request : Request) : Option FetchFault × Fetcher :=
  if fetcher.overHttp then
    match fetcher.connect with
    | .error fault => (some fault, fetcher)
    | .ok connection =>
      let fetcher := { fetcher with connection := some connection }
      match connection.base.below request.path.toList with
      | .error error => (some (.url error), fetcher)
      | .ok url =>
        let event := .sent url (connection.authorizationFor url)
        (none, { fetcher with journal := fetcher.journal ++ [event] })
  else (none, { fetcher with journal := fetcher.journal ++ [.asked request] })

/-- The fetcher with another token, and why an open connection does not take it if so; it shows none
then. -/
def setToken (fetcher : Fetcher) (token : Option String) : Option FetchFault × Fetcher :=
  let usable := usableToken token
  let shown := authorization usable
  let error := Text.asciiError? (shown.getD "").toList
  let set (connection : Option Connection) : Fetcher :=
    { fetcher with token := usable, connection, journal := fetcher.journal ++ [.tokenSet token] }
  match fetcher.connection, error with
  | none, _ => (none, set none)
  | some connection, none => (none, set (some { connection with authorization := shown }))
  | some connection, some error =>
    (some (.notAsciiHeader error), set (some { connection with authorization := none }))

/-- The fetcher with its connection closed. -/
def close (fetcher : Fetcher) : Fetcher :=
  { fetcher with connection := none, journal := fetcher.journal ++ [.closed] }

end Fetcher

end ManifestLint
