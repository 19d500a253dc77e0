import ManifestLint.Compression.Inflate
import ManifestLint.Fetching.Request
import ManifestLint.Json.Decode
import ManifestLint.Text.Base64
import ManifestLint.Text.Blank

/-!
# Responses of the host

How a response becomes a result.  Its headers have to be ASCII, and its body is unpacked if they say
that it is compressed.  A status other than 200 becomes the status of the result, with one
exception: a refusal whose quota is used up counts as one of too many requests.  A redirection is
not followed, but the URL it leads to has to be one.  A tree has to hold a list of entries; the
content of a blob is taken as it is unless it says that it is base64.

* `Response.reply` is the reply that a response gives to a request.
-/

namespace ManifestLint

/-- What a request to the host comes back with. -/
inductive Response where
  /-- A status, headers and a body. -/
  | answered (status : Int) (headers : List (String × String)) (body : List Char)
  /-- Nothing but the text of an error on the way. -/
  | failed (text : String)

/-- A document, or the result in its place. -/
abbrev Document := Except FetchResult Json

namespace Response

/-- The values of a header, whose name may be in any letter case. -/
def headerValues (headers : List (String × String)) (name : String) : List String :=
  (headers.filter fun header => header.1.toList.map Char.toLower = name.toList).map (·.2)

/-- The value of a header; several values are joined. -/
def headerValue? (headers : List (String × String)) (name : String) : Option String :=
  match headerValues headers name with
  | [] => none
  | values => some (", ".intercalate values)

/-- Where the headers are not ASCII, if anywhere. -/
def headerError? (headers : List (String × String)) : Option Text.AsciiError :=
  headers.findSome? fun header =>
    (Text.asciiError? header.1.toList).or (Text.asciiError? header.2.toList)

/-- The header that counts how many requests are left. -/
def quotaHeader : String := "x-ratelimit-remaining"

/-- The header that says how a body is compressed. -/
def codingHeader : String := "content-encoding"

/-- The header that says where to look instead. -/
def locationHeader : String := "location"

/-- The result of a request that failed on the way. -/
def failure (text : String) : FetchResult := .unusable s!"Request failed: {text}"

/-- The status that a refused request results in. -/
def effectiveStatus (status : Int) (headers : List (String × String)) : Int :=
  if status = 403 ∧ headerValue? headers quotaHeader = some "0" then 429 else status

/-- How a body was compressed step by step, with the names that are known. -/
def codings (headers : List (String × String)) : List (List Char) :=
  let listed := (headerValues headers codingHeader).flatMap (·.toList.splitOn ',')
  (listed.map fun name => (Text.trim Text.isBlank name).map Char.toLower).filter fun name =>
    name = "gzip".toList || name = "deflate".toList

/-- Takes back one step of compression. -/
def unpack (bytes : List Nat) (coding : List Char) :
    Except Compression.InflateError (List Nat) :=
  if coding = "gzip".toList then Compression.gunzip bytes else Compression.inflateAny bytes

/-- The bytes of a body before it was compressed. -/
def unpacked (headers : List (String × String)) (body : List Char) :
    Except Compression.InflateError (List Nat) :=
  (codings headers).reverse.foldlM unpack (Text.encodeUtf8 body)

/-- The statuses that lead elsewhere. -/
def redirections : List Int := [301, 302, 303, 307, 308]

/-- Checks that a redirection leads to a URL.  Without a host it leads to that of the request. -/
def checkRedirection (url : Url) (location : String) : Except FetchFault (Option FetchResult) :=
  match Url.parse location.toList with
  | .error error => .ok (some (failure s!"Invalid URL in location header: {error.message}."))
  | .ok target =>
    if !target.scheme.isEmpty && target.host.isEmpty then
      match target.withHost url.host with
      | .error error => .error (.url error)
      | .ok _ => .ok none
    else .ok none

/-- Checks that a response that leads elsewhere leads to a URL. -/
def checkLocation (url : Url) (status : Int) (headers : List (String × String)) :
    Except FetchFault (Option FetchResult) :=
  match headerValue? headers locationHeader with
  | some location =>
    if status ∈ redirections then checkRedirection url location else .ok none
  | none => .ok none

/-- The document in the bytes of a body. -/
def readDocument (bytes : List Nat) : Document :=
  let refused (problem : String) : FetchResult :=
    .unusable s!"Invalid JSON from GitHub: {problem}"
  match Text.decodeBytes bytes with
  | .error error => .error (refused error.message)
  | .ok text =>
    match Json.document text with
    | .ok json => .ok json
    | .error error => .error (refused (error.message text))

/-- The document in the body of a response to a request for a URL. -/
def document (url : Url) : Response → Except FetchFault Document
  | failed text => .ok (.error (failure text))
  | answered status headers body => do
    if let some error := headerError? headers then throw (.notAsciiHeader error)
    match unpacked headers body with
    | .error error => return .error (failure error.message)
    | .ok bytes =>
      if let some result ← checkLocation url status headers then return .error result
      if status ≠ 200 then
        return .error {
          status := effectiveStatus status headers, message := s!"GitHub returned {status}" }
      else return readDocument bytes

/-- The result of a request for a tree, of the document that answers it. -/
def tree (id : String) (document : Document) : FetchResult :=
  match document with
  | .error result => result
  | .ok payload =>
    let entries? :=
      match payload with
      | .object members => Entries.get? members "tree"
      | _ => none
    match entries? with
    | some (.array entries) => .found (.array entries)
    | _ => .unusable s!"Malformed tree '{id}'"

/-- The result of a blob whose content is base64. -/
def decoded (id : String) (content : Json) : Reply :=
  match content with
  | .string text =>
    if text.toList.all Text.isAscii then
      match Text.decodeBase64 text.toList with
      | .error problem => .ok (.unusable s!"Undecodable blob '{id}': {problem.message}")
      | .ok bytes =>
        match Text.decodeUtf8 bytes with
        | .error error => .ok (.unusable s!"Undecodable blob '{id}': {error.message}")
        | .ok chars => .ok (.found (.string (.ofList chars)))
    else .error .notAscii
  | other => .error (.shape (.notEncoded other.kind))

/-- The reply to a request for a blob, of the document that answers it. -/
def blob (id : String) (document : Document) : Reply :=
  match document with
  | .error result => .ok result
  | .ok payload =>
    let members : Entries String Json :=
      match payload with
      | .object members => members
      | _ => []
    let content := (members.get? "content").getD (.string "")
    match members.get? "encoding" with
    | some (.string "base64") => decoded id content
    | _ => .ok (.found content)

/-- The reply of a response to a request, which was sent to a URL. -/
def reply (request : Request) (url : Url) (response : Response) : Reply := do
  let document ← response.document url
  match request.kind with
  | .tree => return tree request.idText document
  | .blob => blob request.idText document

end Response

end ManifestLint
