import ManifestLint.Checking.Suggestions
import ManifestLint.Finding.Basic
import ManifestLint.Manifest.Basic
import ManifestLint.Version.Requirement
import ManifestLint.Version.Strict

/-!
# Rules

Each rule looks at one thing of a manifest and finds at most one problem.  A dependency is checked
in a fixed order: author, name, version, realm, upgrade; the first problem counts, and a question
that an unreadable index leaves open ends the check without one.

* `missingFields` needs the manifest alone, `checks` are the rules that may have to wait for
  replies.
* `sorted` puts the findings of a manifest in order.
-/

namespace ManifestLint.Rule

/-- The name and version of a package are missing once there is a table for them. -/
def missingFields (manifest : Manifest) : List Finding :=
  match manifest.tables.get? "package" with
  | none => []
  | some heading =>
    (if manifest.package.name.placeholder then [Finding.of .missingName heading []] else [])
      ++ (if manifest.package.version.placeholder then [Finding.of .missingVersion heading []]
        else [])

/-- The realm of a package has to be one. -/
def realm (manifest : Manifest) : Option Finding :=
  let field := manifest.package.realm
  if field.placeholder || field.text ∈ Realm.names then none
  else
    some (.of .invalidRealm field.valueSpan [("REALM_NAME", some (closestRealm field.text))])

/-- The version of a package has to be in full form. -/
def version (manifest : Manifest) : Option Finding :=
  let field := manifest.package.version
  if field.placeholder || Version.isStrict field.text then none
  else some (.of .invalidVersion field.valueSpan [])

/-- The index of a package has to exist, as far as can be told. -/
def index (manifest : Manifest) : Lookup (Option Finding) := do
  let field := manifest.package.registry
  if field.placeholder then return none
  let exists? ←
    match ← Lookup.find? field.text with
    | some handle => Lookup.reachable handle
    | none => pure .invalid
  if exists? ≠ .invalid then return none
  return some (.of .invalidRegistry field.valueSpan
    [("REGISTRY_NAME", closestIndex? field.text)])

/-- A dependency in the wrong realm, if it is. -/
def misplacement? (dependency : Dependency) (listed : Realm) (record : Record) :
    Option Finding :=
  (listed.correction? record.realmKind?).map fun correction =>
    .of .misplaced dependency.valueSpan [
      ("REALM_NAME", some record.realm),
      ("REALM_CURRENT", some listed.table),
      ("REALM_SECTION", some correction.table)]

/-- The version that a dependency asks for at least, if it asks for any. -/
def desiredVersion? (specifier : Specifier) : Option Version :=
  (Version.anchor? specifier.requirement).or (Version.parse? specifier.coerced)

/-- The author of a dependency has to exist; the answer of the rule, if it settles the check. -/
def author (handle : Handle) (dependency : Dependency) : Lookup (Option (Option Finding)) := do
  let specifier := dependency.specifier
  match ← Lookup.authorValidity handle specifier.author with
  | .valid => return none
  | .indeterminate => return some none
  | .invalid =>
    if !specifier.fullAuthor then return some (some (.of .missingAuthor dependency.valueSpan []))
    let suggestion ← Lookup.closestAuthor handle specifier.author
    return some (some (.of .invalidAuthor dependency.valueSpan [("PACKAGE_AUTHOR", suggestion)]))

/-- The package of a dependency has to exist; the answer of the rule, if it settles the check. -/
def package (handle : Handle) (dependency : Dependency) : Lookup (Option (Option Finding)) := do
  let specifier := dependency.specifier
  match ← Lookup.packageValidity handle specifier.author specifier.name with
  | .valid => return none
  | .indeterminate => return some none
  | .invalid =>
    if !specifier.fullName then return some (some (.of .missingName dependency.valueSpan []))
    let suggestion ← Lookup.closestPackage handle specifier.author specifier.name
    return some (some (.of .invalidName dependency.valueSpan [("PACKAGE_NAME", suggestion)]))

/-- The version of a dependency has to exist; the answer of the rule, if it settles the check. -/
def requirement (handle : Handle) (dependency : Dependency) :
    Lookup (Option (Option Finding)) := do
  let specifier := dependency.specifier
  let text := specifier.requirement
  if text = "" then return some (some (.of .missingVersion dependency.valueSpan []))
  match ← Lookup.versionValidity handle specifier.author specifier.name text with
  | .valid => return none
  | .indeterminate => return some none
  | .invalid =>
    let suggestion ← Lookup.closestVersion handle specifier.author specifier.name text
    return some (some (.of .invalidVersion dependency.valueSpan
      [("VERSION_IDENTIFIER", suggestion)]))

/-- A dependency should be listed in its realm; the answer of the rule, if it settles the check. -/
def placement (handle : Handle) (dependency : Dependency) (listed : Realm) :
    Lookup (Option (Option Finding)) := do
  let specifier := dependency.specifier
  let record? ←
    Lookup.bestRecord handle specifier.author specifier.name specifier.requirement
  return (record?.bind (misplacement? dependency listed)).map some

/-- A dependency should not ask for less than the latest version. -/
def upgrade (handle : Handle) (dependency : Dependency) : Lookup (Option Finding) := do
  let specifier := dependency.specifier
  match ← Lookup.latest handle specifier.author specifier.name, desiredVersion? specifier with
  | some latest, some desired =>
    if latest = "" then return none
    match ← Lookup.ofVersions (Version.compareOptions (Version.parse? latest) (some desired)) with
    | .gt =>
      return some (.of .newerVersion dependency.valueSpan [("PACKAGE_VERSION", some latest)])
    | _ => return none
  | _, _ => return none

/-- The first problem of a dependency. -/
def dependency (handle : Handle) (listed : Realm) (dependency : Dependency) :
    Lookup (Option Finding) := do
  if let some answer ← author handle dependency then return answer
  if let some answer ← package handle dependency then return answer
  if let some answer ← requirement handle dependency then return answer
  if let some answer ← placement handle dependency listed then return answer
  upgrade handle dependency

/-- The checks of a manifest, given the client of its index if it has one. -/
def checks (manifest : Manifest) (handle : Option Handle) : List (Lookup (Option Finding)) :=
  let ofFields := [pure (realm manifest), index manifest, pure (version manifest)]
  match handle with
  | none => ofFields
  | some handle =>
    ofFields ++ manifest.dependencies.items.map fun item => Rule.dependency handle item.1 item.2

/-- The findings of a manifest by their starts; of those at one place the missing fields come first,
then the others in the order of the checks. -/
def sorted (manifest : Manifest) (found : List (Option Finding)) : List Finding :=
  (missingFields manifest ++ found.filterMap id).mergeSort fun a b => a.span.start ≤ b.span.start

end ManifestLint.Rule
