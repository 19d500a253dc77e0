import ManifestLint.Decimal.Reading
import ManifestLint.Fetching.HostName
import ManifestLint.Fetching.Label
import ManifestLint.Text.Digit
import ManifestLint.Text.Lower
import ManifestLint.Text.Quoted
import ManifestLint.Text.Utf8

/-!
# URLs

A URL is kept in its normal form: scheme and host in small letters, no port where it is the usual
one of the scheme, no segments of one or two points in the path of a complete URL, and characters
that may not stand in a part written as codes.  A percent sign always stands for itself, so that
codes that are there already are kept.

* `percentEncode` writes a text in codes, `percentDecode` reads one.  A percent sign that no code
  follows stands for itself, and bytes that are no UTF-8 are replaced.
* `Url.parse` reads a URL, `Url.text` writes one.
* `Url.below` appends a relative URL to a base.
* `Url.place` is the path with its codes read, `Url.credentials?` the name and password.
-/

namespace ManifestLint.Text

/-- A byte behind a percent sign. -/
def percentByte (byte : Nat) : List Char := '%' :: (hexadecimal 2 byte).map Char.toUpper

/-- A text with all characters but the plain ones written as codes. -/
def percentEncode (isPlain : Char → Bool) (text : List Char) : List Char :=
  text.flatMap fun c => if isPlain c then [c] else (encodeChar c).flatMap percentByte

/-- The bytes of a text in which codes stand for bytes. -/
def percentBytes : List Char → List Nat
  | [] => []
  | '%' :: a :: b :: rest =>
    match hexValue? a, hexValue? b with
    | some high, some low => (16 * high + low) :: percentBytes rest
    | _, _ => encodeChar '%' ++ percentBytes (a :: b :: rest)
  | c :: rest => encodeChar c ++ percentBytes rest

/-- The text that a text with codes stands for. -/
def percentDecode (text : List Char) : List Char := decodeReplacing 0 (percentBytes text)

end ManifestLint.Text

namespace ManifestLint

open ManifestLint.Text

/-- Why a text is no URL. -/
inductive UrlError where
  | tooLong
  | componentTooLong (name : String)
  | unprintable (found : Char) (offset : Nat)
  | invalidFourPart (host : String)
  | invalidEightGroup (host : String)
  | invalidInternational (host : String)
  | invalidPort (port : String)
  | pathNotRooted
  | doubleSlash
  | leadingColon
  deriving DecidableEq, Repr

/-- The wording of an error. -/
def UrlError.message : UrlError → String
  | tooLong => "URL too long"
  | componentTooLong name => s!"URL component '{name}' too long"
  | unprintable found offset =>
    let shown := quoted (.ofList [found])
    s!"Invalid non-printable ASCII character in URL, {shown} at position {offset}."
  | invalidFourPart host => s!"Invalid IPv4 address: {quoted host}"
  | invalidEightGroup host => s!"Invalid IPv6 address: {quoted host}"
  | invalidInternational host => s!"Invalid IDNA hostname: {quoted host}"
  | invalidPort port => s!"Invalid port: {quoted port}"
  | pathNotRooted => "For absolute URLs, path must be empty or begin with '/'"
  | doubleSlash => "Relative URLs cannot have a path starting with '//'"
  | leadingColon => "Relative URLs cannot have a path starting with ':'"

/-- A URL. -/
structure Url where
  scheme : List Char
  user : List Char
  host : List Char
  port : Option Int
  path : List Char
  query : Option (List Char)
  fragment : Option (List Char)
  deriving DecidableEq

/-- The parts of a URL as they are written.  The host may be given apart from the authority. -/
structure UrlParts where
  scheme : List Char
  authority : List Char
  path : List Char
  query : Option (List Char)
  fragment : Option (List Char)
  host : Option (List Char) := none

namespace UrlParts

/-- Whether a character may stand in a scheme behind its first letter. -/
def isSchemeChar (c : Char) : Bool := c.isAlphanum || c ∈ ['+', '.', '-']

/-- A scheme, which may be empty, and what follows its colon. -/
def splitScheme (text : List Char) : List Char × List Char :=
  let scheme := text.takeWhile isSchemeChar
  match text.dropWhile isSchemeChar with
  | ':' :: rest => if scheme.head?.all Char.isAlpha then (scheme, rest) else ([], text)
  | _ => ([], text)

/-- The part behind a mark, if the text has one, and what precedes it. -/
def cutAt (mark : Char) (text : List Char) : List Char × Option (List Char) :=
  match text.dropWhile (· ≠ mark) with
  | [] => (text, none)
  | _ :: rest => (text.takeWhile (· ≠ mark), some rest)

/-- The parts of a text. -/
def split (text : List Char) : UrlParts :=
  let (scheme, rest) := splitScheme text
  let (rest, fragment) := cutAt '#' rest
  let (rest, query) := cutAt '?' rest
  match rest with
  | '/' :: '/' :: rest =>
    { scheme, authority := rest.takeWhile (· ≠ '/'), path := rest.dropWhile (· ≠ '/'),
      query, fragment }
  | path => { scheme, authority := [], path, query, fragment }

/-- User, host and port in an authority.  The user ends at the last at sign, and a host in brackets
at the last bracket. -/
def splitAuthority (authority : List Char) : List Char × List Char × List Char :=
  let (user, rest) :=
    if '@' ∈ authority then
      let behind := (authority.reverse.takeWhile (· ≠ '@')).reverse
      (authority.take (authority.length - behind.length - 1), behind)
    else ([], authority)
  let host :=
    if rest.head? = some '[' && ']' ∈ rest then
      rest.take (rest.length - (rest.reverse.takeWhile (· ≠ ']')).length)
    else rest.takeWhile (· ≠ ':')
  let port :=
    match rest.drop host.length with
    | ':' :: port => port
    | port => port
  (user, host, port)

end UrlParts

namespace Url

/-- The length that a URL and its parts may have. -/
def longest : Nat := 65536

/-- Whether a character stands for itself in a query. -/
def isQueryChar (c : Char) : Bool :=
  0x20 < c.toNat && c.toNat < 0x7F && c ∉ ['"', '#', '<', '>']

/-- Whether a character stands for itself in a path. -/
def isPathChar (c : Char) : Bool :=
  isQueryChar c && c ∉ ['?', Char.ofNat 0x60, '{', '}']

/-- Whether a character stands for itself before an at sign. -/
def isUserChar (c : Char) : Bool :=
  isPathChar c && c ∉ ['/', ';', '=', '@', '[', '\\', ']', '^', '|']

/-- Whether a character stands for itself in a fragment. -/
def isFragmentChar (c : Char) : Bool :=
  0x20 < c.toNat && c.toNat < 0x7F && c ∉ ['"', '<', '>', Char.ofNat 0x60]

/-- Whether a character stands for itself in the name of a host. -/
def isHostChar (c : Char) : Bool :=
  c.isAlphanum || c = Char.ofNat 0x60 || c ∈ "-._~!$&'()*+,;=\"\x7b\x7d%|\\".toList

/-- The normal form of a host. -/
def normalHost (host : List Char) : Except UrlError (List Char) :=
  if host.isEmpty then .ok []
  else if HostName.resemblesFourPart host then
    if HostName.isFourPart host then .ok host else .error (.invalidFourPart (.ofList host))
  else if host.head? = some '[' && host.getLast? = some ']' then
    let inner := (host.drop 1).dropLast
    if HostName.isEightGroup inner then .ok inner
    else .error (.invalidEightGroup (.ofList host))
  else if host.all (·.toNat < 0x80) then
    .ok (percentEncode isHostChar (host.map Char.toLower))
  else
    match HostName.ofLabels? (lowerChars host) with
    | some name => .ok name
    | none => .error (.invalidInternational (.ofList host))

/-- The usual port of a scheme. -/
def usualPort? (scheme : List Char) : Option Int :=
  [("ftp", 21), ("http", 80), ("https", 443), ("ws", 80), ("wss", 443)].lookup (.ofList scheme)

/-- The normal form of a port. -/
def normalPort (scheme port : List Char) : Except UrlError (Option Int) :=
  if port.isEmpty then .ok none
  else
    match Decimal.readWhole? (.ofList port) with
    | none => .error (.invalidPort (.ofList port))
    | some number => .ok (if usualPort? scheme = some number then none else some number)

/-- The segments that are left of a path: one point stays in place, two points go up. -/
def resolveSegments (kept : List (List Char)) : List (List Char) → List (List Char)
  | [] => kept.reverse
  | segment :: rest =>
    if segment = ['.'] then resolveSegments kept rest
    else if segment = ['.', '.'] then
      resolveSegments (if kept = [[]] then kept else kept.drop 1) rest
    else resolveSegments (segment :: kept) rest

/-- A path without segments of one or two points. -/
def normalPath (path : List Char) : List Char :=
  let segments := path.splitOn '/'
  if ['.'] ∈ segments || ['.', '.'] ∈ segments then
    ['/'].intercalate (resolveSegments [] segments)
  else path

/-- The URL with some parts. -/
def ofParts (parts : UrlParts) : Except UrlError Url := do
  let (user, host, port) := UrlParts.splitAuthority parts.authority
  let user := percentEncode isUserChar user
  let host ← normalHost (parts.host.getD host)
  let port ← normalPort parts.scheme port
  let hasAuthority := !user.isEmpty || !host.isEmpty || port.isSome
  let hasScheme := !parts.scheme.isEmpty
  if hasAuthority && !parts.path.isEmpty && parts.path.head? ≠ some '/' then
    throw .pathNotRooted
  if !hasScheme && !hasAuthority then
    if ['/', '/'].isPrefixOf parts.path then throw .doubleSlash
    if parts.path.head? = some ':' then throw .leadingColon
  let path := if hasScheme || hasAuthority then normalPath parts.path else parts.path
  return {
    scheme := parts.scheme.map Char.toLower
    user
    host
    port
    path := percentEncode isPathChar path
    query := parts.query.map (percentEncode isQueryChar)
    fragment := parts.fragment.map (percentEncode isFragmentChar) }

/-- The first control character of a text, and its place. -/
def unprintable? (text : List Char) : Option (Char × Nat) :=
  let isControl (c : Char) : Bool := c.toNat < 0x20 || c.toNat = 0x7F
  (text.find? isControl).map fun c => (c, (text.takeWhile (!isControl ·)).length)

/-- The URL that a text denotes. -/
def parse (text : List Char) : Except UrlError Url :=
  if longest < text.length then .error .tooLong
  else
    match unprintable? text with
    | some (found, offset) => .error (.unprintable found offset)
    | none => ofParts (.split text)

/-- User, host and port as they are written. -/
def authority (url : Url) : List Char :=
  (if url.user.isEmpty then [] else url.user ++ ['@'])
    ++ (if ':' ∈ url.host then '[' :: url.host ++ [']'] else url.host)
    ++ (url.port.map fun port => ':' :: (toString port).toList).getD []

/-- The parts of a URL. -/
def parts (url : Url) : UrlParts where
  scheme := url.scheme
  authority := url.authority
  path := url.path
  query := url.query
  fragment := url.fragment

/-- A part behind its mark. -/
def marked (mark : Char) (part : Option (List Char)) : List Char :=
  (part.map (mark :: ·)).getD []

/-- The text of a URL. -/
def text (url : Url) : List Char :=
  (if url.scheme.isEmpty then [] else url.scheme ++ [':'])
    ++ (if url.authority.isEmpty then [] else '/' :: '/' :: url.authority)
    ++ url.path ++ marked '?' url.query ++ marked '#' url.fragment

/-- Puts parts together again, none of which may be too long. -/
def rebuilt (parts : UrlParts) : Except UrlError Url :=
  let named := [("scheme", parts.scheme), ("authority", parts.authority), ("path", parts.path),
    ("query", parts.query.getD []), ("fragment", parts.fragment.getD [])]
  match named.find? fun part => longest < part.2.length with
  | some (name, _) => .error (.componentTooLong name)
  | none => ofParts parts

/-- Path and query of a URL. -/
def target (url : Url) : List Char :=
  (if url.path.isEmpty then ['/'] else url.path) ++ marked '?' url.query

/-- The URL with another path and query. -/
def withTarget (url : Url) (target : List Char) : Except UrlError Url :=
  let (path, query) := UrlParts.cutAt '?' target
  rebuilt { url.parts with path, query }

/-- The URL with another host. -/
def withHost (url : Url) (host : List Char) : Except UrlError Url :=
  rebuilt { url.parts with host := some (if ':' ∈ host then '[' :: host ++ [']'] else host) }

/-- Whether a URL is complete. -/
def isAbsolute (url : Url) : Bool := !url.scheme.isEmpty && !url.host.isEmpty

/-- A base for relative URLs, which ends with a slash. -/
def base (text : List Char) : Except UrlError Url := do
  let url ← parse text
  if url.target.getLast? = some '/' then return url
  else url.withTarget (url.target ++ ['/'])

/-- The URL that a text denotes under a base. -/
def below (base : Url) (text : List Char) : Except UrlError Url := do
  let url ← parse text
  if url.isAbsolute then return url
  else base.withTarget (base.target ++ url.target.dropWhile (· = '/'))

/-- The path of a URL with its codes read. -/
def place (url : Url) : List Char := percentDecode (if url.path.isEmpty then ['/'] else url.path)

/-- The name and the password in a URL with their codes read, unless both are empty. -/
def credentials? (url : Url) : Option (List Char × List Char) :=
  let (name, password) := UrlParts.cutAt ':' url.user
  let credentials := (percentDecode name, percentDecode (password.getD []))
  if credentials.1.isEmpty && credentials.2.isEmpty then none else some credentials

end Url

end ManifestLint
