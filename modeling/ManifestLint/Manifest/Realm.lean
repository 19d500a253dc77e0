/-!
# Realms

A package is meant for one of three realms, and a manifest has a table of dependencies for each.
-/

namespace ManifestLint

/-- Where a package is meant to run. -/
inductive Realm where
  | shared
  | server
  | dev
  deriving DecidableEq, Repr

namespace Realm

/-- The realms, in the order in which they are searched. -/
def all : List Realm := [shared, server, dev]

/-- The name of a realm. -/
def name : Realm → String
  | shared => "shared"
  | server => "server"
  | dev => "dev"

/-- The table of a manifest that lists the dependencies of a realm. -/
def table : Realm → String
  | shared => "dependencies"
  | server => "server-dependencies"
  | dev => "dev-dependencies"

/-- The realm with a name. -/
def ofName? (text : String) : Option Realm := all.find? fun realm => realm.name = text

/-- The realm whose dependencies a table lists. -/
def ofTable? (text : String) : Option Realm := all.find? fun realm => realm.table = text

/-- The names of all realms. -/
def names : List String := all.map name

/-- The realm that a dependency should be listed under, if it is of realm `actual` and is listed
under `listed`.  Shared packages may be listed anywhere; server packages may not be listed as
shared ones, and packages for development not as server ones. -/
def correction? (listed : Realm) (actual : Option Realm) : Option Realm :=
  match listed, actual with
  | shared, some server => some server
  | server, some dev => some dev
  | _, _ => none

end Realm

end ManifestLint
