import ManifestLint.Registry.Lookup

/-!
# Caches and tokens

A client's cache is cleared on demand, and whenever the token changes; its configuration is then
read again at once.  The clients of a store have one token, so a change that is asked of one of them
reaches all.  A client that stands alone changes only its own token and that of the fetcher.
-/

namespace ManifestLint.Lookup

/-- Clears a client's cache and reads its configuration again. -/
def invalidate (handle : Handle) : Lookup Unit := do
  modify (·.update handle fun client => { client with cache := {} })
  let _ ← config handle

/-- Notes a token that the fetcher has already, and clears the cache. -/
def tokenChanged (handle : Handle) (token : Option String) : Lookup Unit := do
  modify (·.update handle fun client => { client with token := usableToken token })
  invalidate handle

/-- Changes the token of the store and all its clients, and tells whether it was another one. -/
def setStoreToken (token : Option String) : Lookup Bool := do
  let usable := usableToken token
  if usable = (← get).token then return false
  modify fun registry => { registry with token := usable }
  setFetcherToken usable
  (← get).shared.forM (tokenChanged · usable)
  return true

/-- Changes the token of a client, and tells whether it was another one. -/
def setToken (handle : Handle) (token : Option String) : Lookup Bool := do
  match handle with
  | .shared _ => setStoreToken token
  | .alone .. =>
    let usable := usableToken token
    if usable = ((← get).client handle).token then return false
    setFetcherToken usable
    tokenChanged handle usable
    return true

/-- Clears the caches of all clients of the store. -/
def invalidateAll : Lookup Unit := do
  (← get).shared.forM invalidate

end ManifestLint.Lookup
