import ManifestLint.Manifest.Basic
import ManifestLint.Registry.Lookup

/-!
# Completion

What could be typed next at a position of a manifest.  The author of a dependency is completed until
its slash is typed, then the name until its at sign is typed, then the version.  Versions come
newest first, are sorted by their place in the list, and only what is still missing of them is
inserted.
-/

namespace ManifestLint

/-- The kinds of candidates. -/
inductive CandidateKind where
  | author
  | package
  | version
  deriving DecidableEq, Repr

/-- The kinds of candidates. -/
def CandidateKind.all : List CandidateKind := [author, package, version]

/-- The name of a kind. -/
def CandidateKind.name : CandidateKind → String
  | author => "author"
  | package => "package"
  | version => "version"

/-- Something that could be typed next: what users see, what is inserted, and what candidates are
sorted by. -/
structure Candidate where
  label : String
  kind : CandidateKind
  insertion : String := label
  sortKey : String := label
  deriving DecidableEq, Repr

namespace Candidate

/-- A place in a list, in five digits or more. -/
def placeKey (place : Nat) : String :=
  let digits := Nat.toDigits 10 place
  .ofList (List.replicate (5 - digits.length) '0' ++ digits)

/-- The names that start with what was typed. -/
def startingWith (typed : String) (names : List String) : List String :=
  names.filter fun name => typed.toList.isPrefixOf name.toList

/-- The candidates for names that start with what was typed. -/
def ofNames (kind : CandidateKind) (typed : String) (names : List String) : List Candidate :=
  (startingWith typed names).map fun label => { label, kind }

/-- The candidates for versions that start with what was typed. -/
def ofVersions (typed : String) (versions : List String) : List Candidate :=
  (startingWith typed versions).zipIdx.map fun (label, place) =>
    { label
      kind := .version
      insertion := .ofList (label.toList.drop typed.length)
      sortKey := placeKey place }

end Candidate

namespace Lookup

/-- The candidates for a dependency. -/
def candidatesFor (handle : Handle) (specifier : Specifier) : Lookup (List Candidate) := do
  if !specifier.fullAuthor then
    return Candidate.ofNames .author specifier.author ((← authorNames handle).getD [])
  else if !specifier.fullName then
    let names ← packageNames handle specifier.author
    return Candidate.ofNames .package specifier.name (names.getD [])
  else
    let versions ← versions handle specifier.author specifier.name
    return Candidate.ofVersions specifier.requirement (versions.getD [])

/-- The candidates at a position of a manifest. -/
def candidatesAt (manifest : Manifest) (position : Toml.Position) : Lookup (List Candidate) := do
  match manifest.dependencyAt? position with
  | none => return []
  | some (_, dependency) =>
    match ← find? manifest.indexUrl with
    | none => return []
    | some handle => candidatesFor handle dependency.specifier

end Lookup

end ManifestLint
