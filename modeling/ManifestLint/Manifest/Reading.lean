import ManifestLint.Manifest.Basic
import ManifestLint.Toml.Scan

/-!
# Reading manifests

A manifest is read from the tokens that carry meaning, three neighbours at a time.  A bare key
between square brackets is a heading; a key, an equals sign and a string are an assignment, which
belongs to the table of the last heading.  Everything else is passed over, so that a manifest that
is still being written can be checked line by line.  Only a text with lexical errors, or without
any token, is refused.
-/

namespace ManifestLint

open ManifestLint.Toml

/-- Why a text is no manifest yet. -/
inductive ParseFailure where
  | lexical (first : LexicalError) (others : List LexicalError)
  | empty
  deriving DecidableEq, Repr

/-- The wording of a failure. -/
def ParseFailure.reason : ParseFailure → String
  | lexical first _ =>
    s!"{first.problem.message} at {first.position.line + 1}:{first.position.column + 1}"
  | empty => "Document is empty"

/-- All lexical errors of a failure. -/
def ParseFailure.errors : ParseFailure → List LexicalError
  | lexical first others => first :: others
  | empty => []

/-- The quotes of strings, longer ones first. -/
def quotes : List (List Char) := [['"', '"', '"'], ['\'', '\'', '\''], ['"'], ['\'']]

/-- A text without the quotes around it, if it starts and ends with the same ones. -/
def stripQuotes (text : List Char) : List Char :=
  match quotes.find? fun quote =>
    2 * quote.length ≤ text.length && quote.isPrefixOf text && quote.isSuffixOf text with
  | some quote => (text.drop quote.length).take (text.length - 2 * quote.length)
  | none => text

namespace Manifest

/-- The span of a value.  On one line it reaches back from its end by its length. -/
def valueSpan (value : Token) : Span :=
  if value.start.line = value.stop.line then
    ⟨⟨value.stop.line, value.stop.column - value.text.length⟩, value.stop⟩
  else value.span

/-- The field of an assignment. -/
def field (key value : Token) : Field where
  key := .ofList (stripQuotes key.text)
  raw := .ofList value.text
  text := .ofList (stripQuotes value.text)
  span := ⟨key.start, value.stop⟩
  valueSpan := valueSpan value

/-- The field of an assignment in the package table: a template is a placeholder for the default. -/
def packageField (slot : PackageKey) (key value : Token) : Field :=
  let declared := field key value
  if isTemplate declared.text.toList then
    { declared with text := slot.fallback, placeholder := true }
  else declared

/-- The dependency of an assignment in a table of dependencies. -/
def dependency (key value : Token) : Dependency :=
  let declared := field key value
  { declared with specifier := .parse declared.text }

/-- What has been read so far, and the table that assignments belong to. -/
structure Progress where
  manifest : Manifest := {}
  table : String := ""

/-- Whether the middle one of three tokens is a heading. -/
def isHeading (before token after : Token) : Bool :=
  token.kind = .unquotedKey && before.category = .leftSquare && after.category = .rightSquare

/-- Whether three tokens are an assignment of a string. -/
def isAssignment (before token after : Token) : Bool :=
  token.category = .equals && before.category = .key && after.category = .string

/-- What has been read after a heading. -/
def Progress.heading (progress : Progress) (token : Token) : Progress :=
  let name := String.ofList token.text
  let tables := progress.manifest.tables
  { manifest := { progress.manifest with
      tables := if tables.has name then tables else tables.put name token.span }
    table := name }

/-- What has been read after an assignment. -/
def Progress.assignment (progress : Progress) (key value : Token) : Progress :=
  let manifest := progress.manifest
  if progress.table = "package" then
    match PackageKey.ofText? (.ofList (stripQuotes key.text)) with
    | some slot =>
      let package := manifest.package.set slot (packageField slot key value)
      { progress with manifest := { manifest with package } }
    | none => progress
  else
    match Realm.ofTable? progress.table with
    | some realm =>
      let dependencies := manifest.dependencies.add realm (dependency key value)
      { progress with manifest := { manifest with dependencies } }
    | none => progress

/-- What has been read after three neighbouring tokens. -/
def Progress.step (progress : Progress) (before token after : Token) : Progress :=
  if isHeading before token after then progress.heading token
  else if isAssignment before token after then progress.assignment before after
  else progress

/-- What has been read at the end of a list of tokens. -/
def Progress.read (progress : Progress) : List Token → Progress
  | before :: token :: after :: rest =>
    (progress.step before token after).read (token :: after :: rest)
  | _ => progress

/-- The manifest that a list of tokens makes. -/
def ofTokens (tokens : List Token) : Manifest :=
  (Progress.read {} (significant tokens)).manifest

/-- Reads a manifest. -/
def ofChars (text : List Char) : Except ParseFailure Manifest :=
  let scanned := scan text
  match scanned.errors with
  | first :: others => .error (.lexical first others)
  | [] => if scanned.tokens.isEmpty then .error .empty else .ok (ofTokens scanned.tokens)

/-- Reads a manifest. -/
def parse (text : String) : Except ParseFailure Manifest := ofChars text.toList

/-- Reads a manifest, if the text is one already. -/
def parse? (text : String) : Option Manifest := (parse text).toOption

end Manifest

end ManifestLint
