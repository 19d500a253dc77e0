import ManifestLint.Yaml.Feed
import ManifestLint.Yaml.Spelling

/-!
# YAML documents

A document is one node, perhaps between marks that divide it from others and behind directives.  A
node is a scalar, a list or a table, in blocks told apart by their indentation or in flow
collections between brackets, or a reference to a named node before it.

* `readGraph` reads a text that has to be one document; it may be empty.
-/

namespace ManifestLint.Yaml

/-- What a tag may be abbreviated by, and what the abbreviations stand for. -/
abbrev Abbreviations := List (List Char × List Char)

/-- The abbreviations that no directive has to declare. -/
def commonAbbreviations : Abbreviations :=
  [(['!'], ['!']), (['!', '!'], Tag.commonStart.toList)]

/-- What has been read of a document: the nodes, the names of some, and what is left. -/
structure Progress where
  feed : Feed
  graph : Graph := {}
  names : List (List Char × Nat) := []
  abbreviations : Abbreviations := commonAbbreviations

/-- A reading of a part of a document. -/
abbrev Reading := StateT Progress (Except Fault)

/-- Where a node stands: behind a key of a block, where the elements of a list need no indentation;
elsewhere in a block; or in a flow collection, where there are no blocks. -/
inductive Surrounding where
  | member
  | block
  | flow
  deriving DecidableEq

/-- The next token. -/
def peekToken : Reading Token := do
  let (token, feed) ← (← get).feed.peek
  modify fun progress => { progress with feed }
  return token

/-- Passes over the next token. -/
def dropToken : Reading Unit := modify fun progress => { progress with feed := progress.feed.drop }

/-- Passes over a token that has to be next. -/
def expectToken (token : Token) : Reading Unit := do
  if (← peekToken) = token then dropToken else throw .malformed

/-- Adds a node, perhaps with a name, and gives its number. -/
def addVertex (name : Option (List Char)) (vertex : Vertex) : Reading Nat := do
  let progress ← get
  let number := progress.graph.size
  let names := (name.map fun name => (name, number)).toList ++ progress.names
  set { progress with graph := progress.graph.push vertex, names }
  return number

/-- Adds a collection with a name and a tag, lets its content be read, and gives its number.  In its
content it can already be referred to. -/
def addCollection (name : Option (List Char)) (tag : Tag) (content : Reading Content) :
    Reading Nat := do
  let number ← addVertex name ⟨tag, .list []⟩
  let content ← content
  modify fun progress =>
    { progress with graph := progress.graph.update number ({ · with content }) }
  return number

/-- Adds the scalar that stands for a node that is left out. -/
def addNothing : Reading Nat := addVertex none ⟨.null, .scalar []⟩

/-- The name and the tag before a node, in either order. -/
def readProperties : Reading (Option (List Char) × Option WrittenTag) := do
  match ← peekToken with
  | .anchor name =>
    dropToken
    match ← peekToken with
    | .tag written =>
      dropToken
      return (some name, some written)
    | _ => return (some name, none)
  | .tag written =>
    dropToken
    match ← peekToken with
    | .anchor name =>
      dropToken
      return (some name, some written)
    | _ => return (none, some written)
  | _ => return (none, none)

/-- The full name of a tag, if it is written and more than a mark. -/
def fullName (written : Option WrittenTag) : Reading (Option (List Char)) := do
  match written with
  | none => return none
  | some written =>
    match written.abbreviation with
    | none => return some written.rest
    | some short =>
      match (← get).abbreviations.lookup short with
      | some full => return some (full ++ written.rest)
      | none => throw .malformed

/-- The mark that is written instead of a tag where a scalar is to be read like a plain one. -/
def plainMark : List Char := ['!']

/-- The tag of a collection. -/
def collectionTag (name : Option (List Char)) (usual : Tag) : Tag :=
  match name with
  | none => usual
  | some name => if name = plainMark then usual else .ofName (.ofList name)

/-- The tag of a scalar. -/
def scalarTag (name : Option (List Char)) (text : List Char) (isPlain : Bool) : Tag :=
  match name with
  | none => if isPlain then spelledTag text else .text
  | some name => if name = plainMark then spelledTag text else .ofName (.ofList name)

mutual

/-- Reads a node and gives its number. -/
def readNode : (steps : Nat) → Surrounding → Reading Nat
  | 0, _ => throw .malformed
  | steps + 1, surrounding => do
    match ← peekToken with
    | .alias name =>
      dropToken
      match (← get).names.lookup name with
      | some number => return number
      | none => throw .malformed
    | _ =>
      let (name, written) ← readProperties
      let tagName ← fullName written
      let token ← peekToken
      let known := (← get).names
      if name.any fun name => (known.lookup name).isSome then throw .malformed
      let listTag := collectionTag tagName .list
      let tableTag := collectionTag tagName .table
      match token, surrounding with
      | .hyphen, .member =>
        addCollection name listTag (.list <$> readElements steps false)
      | .scalar text isPlain, _ =>
        dropToken
        addVertex name ⟨scalarTag tagName text isPlain, .scalar text⟩
      | .openList, _ =>
        addCollection name listTag do
          dropToken
          .list <$> readItems steps true
      | .openTable, _ =>
        addCollection name tableTag do
          dropToken
          .table <$> readPairs steps true
      | .listBlock, .member | .listBlock, .block =>
        addCollection name listTag do
          dropToken
          .list <$> readElements steps true
      | .tableBlock, .member | .tableBlock, .block =>
        addCollection name tableTag do
          dropToken
          .table <$> readMembers steps
      | _, _ =>
        if name.isSome || written.isSome then
          addVertex name ⟨scalarTag tagName [] true, .scalar []⟩
        else throw .malformed

/-- Reads a node, or nothing if a token follows that cannot start one here. -/
def readOptional : (steps : Nat) → Surrounding → (ends : List Token) → Reading Nat
  | 0, _, _ => throw .malformed
  | steps + 1, surrounding, ends => do
    if (← peekToken) ∈ ends then addNothing else readNode steps surrounding

/-- Reads the elements of a list in a block, which ends with the block or, if it has none of its
own, before a token of another kind. -/
def readElements : (steps : Nat) → (hasBlock : Bool) → Reading (List Nat)
  | 0, _ => throw .malformed
  | steps + 1, hasBlock => do
    match ← peekToken with
    | .hyphen =>
      dropToken
      let ends := .hyphen :: .blockEnd :: if hasBlock then [] else [.key, .value]
      let item ← readOptional steps .block ends
      return item :: (← readElements steps hasBlock)
    | _ =>
      if hasBlock then expectToken .blockEnd
      return []

/-- Reads the pairs of a table in a block. -/
def readMembers : (steps : Nat) → Reading (List (Nat × Nat))
  | 0 => throw .malformed
  | steps + 1 => do
    match ← peekToken with
    | .key =>
      dropToken
      let ends := [.key, .value, .blockEnd]
      let key ← readOptional steps .member ends
      let value ← readValue steps .member ends
      return (key, value) :: (← readMembers steps)
    | _ =>
      expectToken .blockEnd
      return []

/-- Reads the value behind a key, which may be left out, and the colon with it. -/
def readValue : (steps : Nat) → Surrounding → (ends : List Token) → Reading Nat
  | 0, _, _ => throw .malformed
  | steps + 1, surrounding, ends => do
    if (← peekToken) = .value then
      dropToken
      readOptional steps surrounding ends
    else addNothing

/-- Reads the items of a list in a flow collection, with a comma before each but the first.  An item
may be a single pair. -/
def readItems : (steps : Nat) → (isFirst : Bool) → Reading (List Nat)
  | 0, _ => throw .malformed
  | steps + 1, isFirst => do
    if (← peekToken) = .closeList then
      dropToken
      return []
    else
      if !isFirst then expectToken .comma
      match ← peekToken with
      | .closeList =>
        dropToken
        return []
      | .key =>
        let item ← addCollection none .table do
          dropToken
          let key ← readOptional steps .flow [.value, .comma, .closeList]
          let value ← readValue steps .flow [.comma, .closeList]
          return .table [(key, value)]
        return item :: (← readItems steps false)
      | _ =>
        let item ← readNode steps .flow
        return item :: (← readItems steps false)

/-- Reads the pairs of a table in a flow collection, with a comma before each but the first. -/
def readPairs : (steps : Nat) → (isFirst : Bool) → Reading (List (Nat × Nat))
  | 0, _ => throw .malformed
  | steps + 1, isFirst => do
    if (← peekToken) = .closeTable then
      dropToken
      return []
    else
      if !isFirst then expectToken .comma
      match ← peekToken with
      | .closeTable =>
        dropToken
        return []
      | .key =>
        dropToken
        let key ← readOptional steps .flow [.value, .comma, .closeTable]
        let value ← readValue steps .flow [.comma, .closeTable]
        return (key, value) :: (← readPairs steps false)
      | _ =>
        let key ← readNode steps .flow
        let value ← addNothing
        return (key, value) :: (← readPairs steps false)

end

/-- Reads the directives before a document.  There is at most one version, whose major number is 1,
and every abbreviation is declared once. -/
def readDirectives : (steps : Nat) → (hasVersion : Bool) → Abbreviations → Reading Abbreviations
  | 0, _, declared => return declared
  | steps + 1, hasVersion, declared => do
    match ← peekToken with
    | .directive (.version major) =>
      if hasVersion || major ≠ 1 then throw .malformed
      dropToken
      readDirectives steps true declared
    | .directive (.abbreviation short full) =>
      if (declared.lookup short).isSome then throw .malformed
      dropToken
      readDirectives steps hasVersion ((short, full) :: declared)
    | .directive .other =>
      dropToken
      readDirectives steps hasVersion declared
    | _ => return declared

/-- Passes over the marks at the end of a document, behind which the text has to end. -/
def readEnding : (steps : Nat) → Reading Unit
  | 0 => throw .malformed
  | steps + 1 => do
    match ← peekToken with
    | .documentEnd =>
      dropToken
      readEnding steps
    | .textEnd => return
    | _ => throw .malformed

/-- Reads the root of a text that has one, and gives its number. -/
def readRoot (steps : Nat) : Reading (Option Nat) := do
  let root ←
    match ← peekToken with
    | .textEnd => return none
    | .documentStart | .directive _ =>
      let declared ← readDirectives steps false []
      modify ({ · with abbreviations := declared ++ commonAbbreviations })
      expectToken .documentStart
      match ← peekToken with
      | .directive _ | .documentStart | .documentEnd | .textEnd => addNothing
      | _ => readNode steps .block
    | _ => readNode steps .block
  readEnding steps
  return some root

/-- Whether a character may stand in a text at all. -/
def isAllowed (c : Char) : Bool :=
  let code := c.toNat
  code ∈ [0x09, 0x0A, 0x0D, 0x85] || (0x20 ≤ code && code ≤ 0x7E) || (0xA0 ≤ code && code ≤ 0xFFFD)
    || 0x10000 ≤ code

/-- The graph of a document, and the number of its root unless it is empty. -/
def readGraph (text : List Char) : Except Fault (Graph × Option Nat) := do
  if !text.all isAllowed then throw .malformed
  let steps := 8 * text.length + 16
  let (root, progress) ← (readRoot steps).run { feed := .start text }
  return (progress.graph, root)

end ManifestLint.Yaml
