import ManifestLint.Defaults
import ManifestLint.Index.Record
import ManifestLint.Version.Requirement

/-!
# Packages and what users see of them

A package is the history of its published versions.  If a version was published twice the later
record counts.

* `Package.newestFirst` lists the versions, `Package.findSatisfying?` picks a record for a
  requirement.
* `Overview` is what is shown of a package.
-/

namespace ManifestLint.Index

/-- A package with its published versions, oldest first. -/
structure Package where
  author : String
  name : String
  records : List Record
  deriving DecidableEq, Repr

namespace Package

/-- The texts of the published versions, newest first. -/
def newestFirst (package : Package) : Except Version.NotANumber (List String) :=
  Version.sortTexts true (package.records.map (·.version))

/-- The last record with a version text. -/
def get? (package : Package) (version : String) : Option Record :=
  package.records.reverse.find? (·.version = version)

/-- The record of the newest version that satisfies a requirement. -/
def findSatisfying? (package : Package) (requirement : String) :
    Except Version.NotANumber (Option Record) := do
  match ← Version.latestSatisfying? requirement (← package.newestFirst) with
  | some version => return if version = "" then none else package.get? version
  | none => return none

end Package

/-- What is shown of a package: one of its records, its latest version, the latest one that was
asked for, and the index it was found in. -/
structure Overview where
  record : Record
  latest : String := ""
  latestSatisfying : String := ""
  indexUrl : String := ""
  deriving DecidableEq, Repr

namespace Overview

/-- Whether another version than the shown one is the latest. -/
def isOutdated (overview : Overview) : Bool :=
  overview.latest ≠ "" && overview.latest ≠ overview.record.version

/-- The page of a package of the public index. -/
def webUrl (overview : Overview) : String :=
  let url := Text.trimEnd (· = '/') (Text.lowerChars overview.indexUrl.toList)
  if url = Text.lowerChars publicIndexUrl.toList then
    "https://wally.run/package/" ++ overview.record.name
  else ""

end Overview

end ManifestLint.Index
