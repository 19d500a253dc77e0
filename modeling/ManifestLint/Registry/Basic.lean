import ManifestLint.Fetching.Program
import ManifestLint.Fetching.Request
import ManifestLint.Index.Address
import ManifestLint.Index.Layout
import ManifestLint.Index.Package
import ManifestLint.Registry.Fetcher
import ManifestLint.Registry.Notifier
import ManifestLint.Version.Order

/-!
# The registry

The registry holds a client for each index that was asked for, and what all of them share: a
fetcher, the notices, and a token.  A client keeps every level of its index that it has read, until
its cache is cleared.  Clients of the store are told apart by address, so that all spellings of a
URL share one cache; besides them there may be clients that stand alone.

A `Lookup` is an action on the registry that may end in a fault, without an answer.  A failed request
is no fault: it is reported, and the lookup goes on without what was asked for.
-/

namespace ManifestLint

/-- Why a lookup has no answer. -/
inductive Fault where
  /-- Versions could not be compared. -/
  | notANumber (error : Version.NotANumber)
  /-- A notice could not be held against a cooldown, because there is none. -/
  | noCooldown
  /-- The index that was asked for is none. -/
  | address (error : AddressError)
  /-- The fetcher gave no result. -/
  | fetch (fault : FetchFault)
  deriving DecidableEq, Repr

/-- The wording of a fault. -/
def Fault.message : Fault → String
  | notANumber error => error.message
  | noCooldown => "'>=' not supported between instances of 'float' and 'NoneType'"
  | address error => error.message
  | fetch fault => fault.message

/-- Which client: one of the store, or one that stands alone under a name of its own. -/
inductive Handle where
  | shared (address : Address)
  | alone (name : String) (address : Address)
  deriving DecidableEq, Repr

/-- The address of a client's index. -/
def Handle.address : Handle → Address
  | shared address => address
  | alone _ address => address

/-- The URL of a client's index. -/
def Handle.url (handle : Handle) : String := handle.address.url

/-- What has been read of an index. -/
structure Cache where
  root : Option Index.Root := none
  config : Option Index.Config := none
  authors : Entries String Index.Author := []
  packages : Entries (String × String) Index.Package := []

/-- A client: its cache, the status of its last failed request, and its token.  A failure without a
status leaves none. -/
structure Client where
  cache : Cache := {}
  lastFailure : Option Int := none
  token : Option String := none

/-- The clients, and what they share. -/
structure Registry where
  fetcher : Fetcher := {}
  notifier : Notifier Float := { clock := 0.0, cooldown := some defaultCooldown }
  token : Option String := none
  clients : Entries Handle Client := []

namespace Registry

/-- A registry with a fetcher and a token unless it is empty. -/
def new (fetcher : Fetcher) (cooldown : Option Float) (token : Option String) : Registry where
  fetcher
  notifier := { clock := 0.0, cooldown }
  token := usableToken token

/-- A client. -/
def client (registry : Registry) (handle : Handle) : Client :=
  (registry.clients.get? handle).getD {}

/-- The registry with a client changed. -/
def update (registry : Registry) (handle : Handle) (change : Client → Client) : Registry :=
  { registry with clients := registry.clients.put handle (change (registry.client handle)) }

/-- The registry with the cache of a client changed. -/
def updateCache (registry : Registry) (handle : Handle) (change : Cache → Cache) : Registry :=
  registry.update handle fun client => { client with cache := change client.cache }

/-- The registry with a client for an address, new if there was none. -/
def opened (registry : Registry) (address : Address) : Registry :=
  if registry.clients.has (.shared address) then registry
  else
    { registry with
      clients := registry.clients.put (.shared address) { token := registry.token } }

/-- The clients of the store, in the order in which they came up. -/
def shared (registry : Registry) : List Handle :=
  registry.clients.keys.filter fun handle =>
    match handle with
    | .shared _ => true
    | .alone .. => false

/-- Sends a request and waits for the reply, unless it cannot be sent. -/
def ask (request : Request) : Action Registry Reply := do
  let (fault, fetcher) := (← get).fetcher.send request
  modify fun registry => { registry with fetcher }
  match fault with
  | some fault => return .error fault
  | none => Action.ask request

/-- Gives the fetcher another token, and says why it does not take it if so. -/
def setToken (token : Option String) : Action Registry (Option FetchFault) := do
  let (fault, fetcher) := (← get).fetcher.setToken token
  modify fun registry => { registry with fetcher }
  return fault

end Registry

/-- An action on the registry that may end in a fault. -/
abbrev Lookup (α : Type) : Type := ExceptT Fault (Action Registry) α

/-- The client of the store for a URL, if the URL is the address of an index, and the registry in
which it is open. -/
def Registry.find? (registry : Registry) (url : String) : Option Handle × Registry :=
  match Address.parse url with
  | .ok address => (some (.shared address), registry.opened address)
  | .error _ => (none, registry)

namespace Lookup

/-- The client of the store for a URL, if the URL is the address of an index. -/
def find? (url : String) : Lookup (Option Handle) := modifyGet (·.find? url)

/-- The client of the store for a URL that has to be the address of an index. -/
def require (url : String) : Lookup Handle := do
  match ← find? url with
  | some handle => return handle
  | none => throw (.address (.unsupported url))

/-- The client that stands alone under a URL. -/
def requireAlone (url : String) : Lookup Handle := do
  match Address.parse url with
  | .ok address =>
    modify (·.update (.alone url address) id)
    return .alone url address
  | .error error => throw (.address error)

/-- Lets the user know, unless the message has to cool down; tells whether it was delivered. -/
def notify (message : String) : Lookup Bool := do
  let registry ← get
  match registry.notifier.notify message with
  | some (notifier, delivered) =>
    set { registry with notifier }
    return delivered
  | none => throw .noCooldown

/-- The result of a request. -/
def fetch (request : Request) : Lookup FetchResult := do
  match ← (Registry.ask request : Action Registry Reply) with
  | .ok result => return result
  | .error fault => throw (.fetch fault)

/-- Gives the fetcher another token. -/
def setFetcherToken (token : Option String) : Lookup Unit := do
  if let some fault ← (Registry.setToken token : Action Registry (Option FetchFault)) then
    throw (.fetch fault)

/-- The value of a comparison of versions. -/
def ofVersions {α : Type} (value : Except Version.NotANumber α) : Lookup α :=
  match value with
  | .ok value => pure value
  | .error error => throw (.notANumber error)

end Lookup

end ManifestLint
