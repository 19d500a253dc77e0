import ManifestLint.Collections.Entries
import ManifestLint.Defaults
import ManifestLint.Manifest.Realm
import ManifestLint.Specifier
import ManifestLint.Toml.Position

/-!
# Manifests

What is read from a manifest: the four fields of its package table, the dependencies of each realm,
and the tables it has.  Every field knows where it stands.  A field that the manifest does not
declare, or declares with a template such as `<REALM>`, is a placeholder with a default text.
-/

namespace ManifestLint

open ManifestLint.Toml

/-- An assignment of a string to a key.  The raw text is the string with its quotes, the text is
without them; one span reaches from key to value, the other is that of the value alone. -/
structure Field where
  key : String
  raw : String := ""
  text : String := ""
  span : Span := .empty
  valueSpan : Span := .empty
  placeholder : Bool := false
  deriving DecidableEq, Repr

/-- A dependency: the field it stands in, and its text taken apart. -/
structure Dependency extends Field where
  specifier : Specifier
  deriving DecidableEq, Repr

/-- The field that stands for an undeclared key. -/
def Field.undeclared (key text : String) : Field := { key, text, placeholder := true }

/-- Whether a text is a template that still has to be filled in. -/
def isTemplate (text : List Char) : Bool :=
  2 < text.length && text.head? = some '<' && text.getLast? = some '>'

/-- The keys of the package table that matter. -/
inductive PackageKey where
  | name
  | version
  | realm
  | registry
  deriving DecidableEq, Repr

namespace PackageKey

/-- The keys of the package table that matter. -/
def all : List PackageKey := [name, version, realm, registry]

/-- The spelling of a key. -/
def text : PackageKey → String
  | name => "name"
  | version => "version"
  | realm => "realm"
  | registry => "registry"

/-- The key with a spelling. -/
def ofText? (text : String) : Option PackageKey := all.find? fun key => key.text = text

/-- The text that a key has where the manifest gives none. -/
def fallback : PackageKey → String
  | name => ""
  | version => ""
  | realm => Realm.shared.name
  | registry => publicIndexUrl

/-- The field that stands for a key while it is undeclared. -/
def undeclared (key : PackageKey) : Field := .undeclared key.text key.fallback

end PackageKey

/-- The package table. -/
structure Package where
  name : Field := PackageKey.name.undeclared
  version : Field := PackageKey.version.undeclared
  realm : Field := PackageKey.realm.undeclared
  registry : Field := PackageKey.registry.undeclared
  deriving DecidableEq, Repr

/-- The field under a key. -/
def Package.get (package : Package) : PackageKey → Field
  | .name => package.name
  | .version => package.version
  | .realm => package.realm
  | .registry => package.registry

/-- The package table with another field under a key. -/
def Package.set (package : Package) (key : PackageKey) (field : Field) : Package :=
  match key with
  | .name => { package with name := field }
  | .version => { package with version := field }
  | .realm => { package with realm := field }
  | .registry => { package with registry := field }

/-- The dependencies of each realm, in the order of the manifest. -/
structure DependencyLists where
  shared : List Dependency := []
  server : List Dependency := []
  dev : List Dependency := []
  deriving DecidableEq, Repr

namespace DependencyLists

/-- The dependencies of a realm. -/
def get (lists : DependencyLists) : Realm → List Dependency
  | .shared => lists.shared
  | .server => lists.server
  | .dev => lists.dev

/-- The lists with one more dependency of a realm. -/
def add (lists : DependencyLists) (realm : Realm) (dependency : Dependency) : DependencyLists :=
  match realm with
  | .shared => { lists with shared := lists.shared ++ [dependency] }
  | .server => { lists with server := lists.server ++ [dependency] }
  | .dev => { lists with dev := lists.dev ++ [dependency] }

/-- All dependencies with their realms, realm by realm. -/
def items (lists : DependencyLists) : List (Realm × Dependency) :=
  Realm.all.flatMap fun realm => (lists.get realm).map (realm, ·)

end DependencyLists

/-- A manifest: its package table, its dependencies, and the name of every table with the span of
its first heading. -/
structure Manifest where
  package : Package := {}
  dependencies : DependencyLists := {}
  tables : Entries String Span := []
  deriving DecidableEq, Repr

/-- The address of the index that a manifest asks for its dependencies. -/
def Manifest.indexUrl (manifest : Manifest) : String := manifest.package.registry.text

/-- The dependency at a position. -/
def Manifest.dependencyAt? (manifest : Manifest) (position : Position) :
    Option (Realm × Dependency) :=
  manifest.dependencies.items.find? fun item => item.2.span.contains position

end ManifestLint
