import ManifestLint.Registry.Reading

/-!
# Lookups

What can be asked of a client.  Names of authors and packages are compared in lower case.  Whether a
name exists has three answers: an index that could not be read leaves the question open, unless
another one of the chain lists the name.

A lookup walks along a chain: the client's own index, then the fall-back indexes that its
configuration names, in that order and each once.  The fall-backs' own configurations do not count,
so the chain is one step deep.  If the configuration cannot be read the chain is the client alone.

* `chain` finds the chain, `search` walks along it until something is found.
-/

namespace ManifestLint

/-- Whether something exists. -/
inductive Validity where
  | valid
  | invalid
  | indeterminate
  deriving DecidableEq, Repr

/-- The name of a validity. -/
def Validity.name : Validity → String
  | valid => "valid"
  | invalid => "invalid"
  | indeterminate => "indeterminate"

namespace Lookup

/-! ## The chain of indexes -/

/-- The chain with the clients of further URLs behind it, unsupported ones and repetitions left
out. -/
def extend (chain : List Handle) : List String → Lookup (List Handle)
  | [] => return chain
  | url :: rest => do
    match ← find? url with
    | none => extend chain rest
    | some handle =>
      if chain.any (·.url = handle.url) then extend chain rest
      else extend (chain ++ [handle]) rest

/-- The chain of a client.  A client that stands alone has no fall-backs. -/
def chain (handle : Handle) : Lookup (List Handle) := do
  match handle with
  | .alone .. => return [handle]
  | .shared _ =>
    match ← attempt handle (Read.config handle) with
    | some (some config) => extend [handle] config.fallbacks
    | _ => return [handle]

/-- What was found along a chain, and whether the search passed an index that could not be read. -/
structure Found (α : Type) where
  value : Option α
  failed : Bool

/-- Walks along a chain until something is found.  The read of an index gives nothing if it failed;
`pick` takes what is looked for out of what was read. -/
def searchFrom {α β : Type} (read : Handle → Read α) (pick : α → Option β) (failed : Bool) :
    List Handle → Lookup (Found β)
  | [] => return ⟨none, failed⟩
  | handle :: rest => do
    match ← attempt handle (read handle) with
    | none => searchFrom read pick true rest
    | some level =>
      match pick level with
      | some value => return ⟨some value, failed⟩
      | none => searchFrom read pick failed rest

/-- Walks along the chain of a client until something is found. -/
def search {α β : Type} (handle : Handle) (read : Handle → Read α) (pick : α → Option β) :
    Lookup (Found β) := do
  searchFrom read pick false (← chain handle)

/-! ## Questions -/

/-- The validity of what was looked for along a chain. -/
def Found.validity {α : Type} (found : Found α) : Validity :=
  match found.value with
  | some _ => .valid
  | none => if found.failed then .indeterminate else .invalid

/-- A list with the names behind it that are not in it yet. -/
def addNames (names : List String) (more : List String) : List String :=
  more.foldl (fun names name => if name ∈ names then names else names ++ [name]) names

/-- The authors of a chain, or nothing if no index could be read. -/
def namesAlong (names : Option (List String)) : List Handle → Lookup (Option (List String))
  | [] => return names
  | handle :: rest => do
    match ← attempt handle (Read.root handle) with
    | none => namesAlong names rest
    | some root => namesAlong (some (addNames (names.getD []) root.names)) rest

/-- The authors of a client's chain, or nothing if no index could be read. -/
def authorNames (handle : Handle) : Lookup (Option (List String)) := do
  namesAlong none (← chain handle)

/-- The packages of an author, in the first index that lists the author. -/
def packageNames (handle : Handle) (author : String) : Lookup (Option (List String)) := do
  let found ← search handle (Read.author · author) id
  return found.value.map (·.names)

/-- A package, in the first index that lists it. -/
def package (handle : Handle) (author name : String) : Lookup (Found Index.Package) :=
  search handle (Read.package · author name) id

/-- The versions of a package, newest first. -/
def versions (handle : Handle) (author name : String) : Lookup (Option (List String)) := do
  match (← package handle author name).value with
  | some package => return some (← ofVersions package.newestFirst)
  | none => return none

/-- The record of the newest version that satisfies a requirement. -/
def bestRecord (handle : Handle) (author name requirement : String) : Lookup (Option Record) := do
  match (← package handle author name).value with
  | some package => ofVersions (package.findSatisfying? requirement)
  | none => return none

/-- The newest version of a package. -/
def latest (handle : Handle) (author name : String) : Lookup (Option String) := do
  return (← versions handle author name).bind (·.head?)

/-- The newest version that satisfies a requirement. -/
def latestSatisfying (handle : Handle) (author name requirement : String) :
    Lookup (Option String) := do
  return (← bestRecord handle author name requirement).map (·.version)

/-- What is shown of the newest version that satisfies a requirement. -/
def describe (handle : Handle) (author name requirement : String) :
    Lookup (Option Index.Overview) := do
  match (← package handle author name).value with
  | none => return none
  | some package =>
    match ← ofVersions (package.findSatisfying? requirement) with
    | none => return none
    | some record =>
      let newest ← ofVersions package.newestFirst
      return some {
        record
        latest := newest.head?.getD ""
        latestSatisfying := record.version
        indexUrl := handle.url }

/-- The configuration of a client's own index. -/
def config (handle : Handle) : Lookup (Option Index.Config) := do
  return (← attempt handle (Read.config handle)).join

/-- Whether an author exists. -/
def authorValidity (handle : Handle) (author : String) : Lookup Validity := do
  return (← search handle Read.root (·.idOf? (Text.lower author))).validity

/-- Whether a package exists. -/
def packageValidity (handle : Handle) (author name : String) : Lookup Validity := do
  let lowered := Text.lower name
  let pick (found : Option Index.Author) : Option Index.Author :=
    found.filter fun listed => lowered ∈ listed.names
  return (← search handle (Read.author · author) pick).validity

/-- Whether a version of a package exists that satisfies a requirement. -/
def versionValidity (handle : Handle) (author name requirement : String) : Lookup Validity := do
  let found ← package handle author name
  match found.value with
  | none => return found.validity
  | some package =>
    let versions ← ofVersions package.newestFirst
    let satisfied ← ofVersions (Version.anySatisfies requirement versions)
    return if satisfied then .valid else .invalid

/-- Whether a client's own index exists. -/
def reachable (handle : Handle) : Lookup Validity := do
  match ← attempt handle (Read.root handle) with
  | some _ => return .valid
  | none =>
    let client := (← get).client handle
    return if client.lastFailure = some 404 then .invalid else .indeterminate

end Lookup

end ManifestLint
