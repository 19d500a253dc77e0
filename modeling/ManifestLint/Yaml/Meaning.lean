import ManifestLint.Yaml.Document
import ManifestLint.Yaml.Node
import ManifestLint.Yaml.ScalarValue

/-!
# Meaning of YAML documents

Every node of a graph has a value.  Scalars are read where they are met, while what is in a
collection is looked at only after everything around it, so of two faults the outer one shows.  The
keys of tables are scalars; a later value of a key replaces an earlier one, and the pairs of merged
tables count as earlier ones.

* `decode` reads a text that has to be one document; an empty one is null.
-/

namespace ManifestLint.Yaml

/-- The value of a node, with the numbers of the nodes that it consists of. -/
inductive Part where
  | scalar (value : Scalar)
  | list (items : List Nat)
  | table (pairs : List (Scalar × Nat))
  | set (members : List Scalar)
  | pairs (pairs : List (Nat × Nat))

/-- What is known of a document: its graph, the values of some nodes, and the collections that are
still to be looked into. -/
structure Evaluation where
  graph : Graph
  parts : List (Nat × Part) := []
  pending : List Nat := []

/-- A step in finding the values of nodes. -/
abbrev Evaluating := StateT Evaluation (Except Fault)

/-- The content of a node. -/
def contentOf (number : Nat) : Evaluating Content := return (← get).graph.content number

/-- The pairs of a node that has to be a table. -/
def pairsOf (number : Nat) : Evaluating (List (Nat × Nat)) := do
  match ← contentOf number with
  | .table pairs => return pairs
  | _ => throw .malformed

/-- Gives a table other pairs. -/
def setPairs (number : Nat) (pairs : List (Nat × Nat)) : Evaluating Unit :=
  modify fun evaluation =>
    { evaluation with graph := evaluation.graph.update number ({ · with content := .table pairs }) }

/-- The tables that a table is merged with: one, or several of which the last one comes first. -/
def mergedTables (number : Nat) : Evaluating (List Nat) := do
  match ← contentOf number with
  | .table _ => return [number]
  | .list items => return items
  | .scalar _ => throw .malformed

mutual

/-- Puts the pairs of merged tables before the other pairs of a table. -/
def mergeInto : (steps : Nat) → (number : Nat) → Evaluating Unit
  | 0, _ => throw .malformed
  | steps + 1, number => do
    let pairs ← pairsOf number
    let graph := (← get).graph
    let isMerge (pair : Nat × Nat) : Bool := graph.tag pair.1 = .merge
    setPairs number (pairs.filter (!isMerge ·))
    let merged ← mergeAll steps ((pairs.filter isMerge).map Prod.snd)
    for (key, _) in pairs do
      if graph.tag key = .principal then
        modify fun evaluation =>
          { evaluation with graph := evaluation.graph.update key ({ · with tag := .text }) }
    setPairs number (merged ++ (← pairsOf number))

/-- The pairs of the tables that the values of merge keys are or hold. -/
def mergeAll : (steps : Nat) → (values : List Nat) → Evaluating (List (Nat × Nat))
  | 0, _ => throw .malformed
  | _, [] => return []
  | steps + 1, value :: rest => do
    let merged ← (← mergedTables value).mapM fun table => do
      mergeInto steps table
      pairsOf table
    return merged.reverse.flatten ++ (← mergeAll steps rest)

end

/-- The characters of a scalar.  A table stands for the scalar that its principal key has. -/
def scalarText : (steps : Nat) → (number : Nat) → Evaluating (List Char)
  | 0, _ => throw .malformed
  | steps + 1, number => do
    let graph := (← get).graph
    match graph.content number with
    | .scalar text => return text
    | .list _ => throw .malformed
    | .table pairs =>
      match pairs.find? fun (key, _) => graph.tag key = .principal with
      | some (_, value) => scalarText steps value
      | none => throw .malformed

/-- A value without what is inside of it, for a node with a collection's tag. -/
def emptyPart? : Tag → Option Part
  | .list => some (.list [])
  | .table => some (.table [])
  | .set => some (.set [])
  | .pairs => some (.pairs [])
  | _ => none

/-- Notes the value of a node. -/
def notePart (number : Nat) (part : Part) : Evaluating Unit :=
  modify fun evaluation => { evaluation with parts := (number, part) :: evaluation.parts }

/-- The value of a node, which is found if it is not known.  A collection is put off. -/
def valueOf (number : Nat) : Evaluating Part := do
  let evaluation ← get
  match evaluation.parts.lookup number with
  | some part => return part
  | none =>
    let tag := evaluation.graph.tag number
    match emptyPart? tag with
    | some part =>
      notePart number part
      modify fun evaluation => { evaluation with pending := evaluation.pending ++ [number] }
      return part
    | none =>
      let text ← scalarText (evaluation.graph.size + 1) number
      let part := Part.scalar (← scalarValue tag text)
      notePart number part
      return part

/-- The key that a node is. -/
def keyOf (number : Nat) : Evaluating Scalar := do
  match ← valueOf number with
  | .scalar value => return value
  | _ => throw .malformed

/-- Pairs with one more put in, behind the others or in the place of its key. -/
def putPair (pairs : List (Scalar × Nat)) (key : Scalar) (value : Nat) : List (Scalar × Nat) :=
  match pairs with
  | [] => [(key, value)]
  | (k, v) :: rest => if k.isSame key then (k, value) :: rest else (k, v) :: putPair rest key value

/-- The pairs of a table, with its merge keys replaced. -/
def tablePairs (number : Nat) : Evaluating (List (Scalar × Nat)) := do
  let _ ← pairsOf number
  let graph := (← get).graph
  mergeInto (4 * graph.size + 4) number
  let mut pairs := []
  for (keyNumber, value) in ← pairsOf number do
    let key ← keyOf keyNumber
    let _ ← valueOf value
    pairs := putPair pairs key value
  return pairs

/-- The single pair of a table. -/
def singlePair (number : Nat) : Evaluating (Nat × Nat) := do
  match ← pairsOf number with
  | [(key, value)] =>
    let _ ← valueOf key
    let _ ← valueOf value
    return (key, value)
  | _ => throw .malformed

/-- The items of a node that has to be a list. -/
def itemsOf (number : Nat) : Evaluating (List Nat) := do
  match ← contentOf number with
  | .list items => return items
  | _ => throw .malformed

/-- Looks into a collection. -/
def lookInto (number : Nat) : Evaluating Unit := do
  let part ←
    match (← get).graph.tag number with
    | .list =>
      let items ← itemsOf number
      for item in items do
        let _ ← valueOf item
      pure (.list items)
    | .table => .table <$> tablePairs number
    | .set => do pure (.set ((← tablePairs number).map Prod.fst))
    | _ => .pairs <$> (← itemsOf number).mapM singlePair
  notePart number part

/-- Looks into all collections that were put off. -/
def lookIntoAll : (steps : Nat) → Evaluating Unit
  | 0 => return
  | steps + 1 => do
    let evaluation ← get
    match evaluation.pending with
    | [] => return
    | number :: pending =>
      set { evaluation with pending }
      lookInto number
      lookIntoAll steps

/-- The node that has a number, below the nodes with the numbers `around`. -/
def nodeOf (parts : List (Nat × Part)) : (steps : Nat) → (around : List Nat) → Nat → Node
  | 0, _, _ => .scalar .null
  | steps + 1, around, number =>
    let inside := nodeOf parts steps (number :: around)
    let isInside := number ∈ around
    match parts.lookup number with
    | none => .scalar .null
    | some (.scalar value) => .scalar value
    | some (.list items) => if isInside then .outerList else .list (items.map inside)
    | some (.table pairs) =>
      if isInside then .outerTable
      else .table (pairs.map fun (key, value) => (key, inside value))
    | some (.set members) => .set members
    | some (.pairs pairs) =>
      if isInside then .outerList
      else .list (pairs.map fun (first, second) => .pair (inside first) (inside second))

/-- The document that a graph with a root is.  What the pairs of the root hold is taken by itself,
as if it was not inside of the root. -/
def nodeOfRoot (parts : List (Nat × Part)) (steps root : Nat) : Node :=
  match parts.lookup root with
  | some (.table pairs) =>
    .table (pairs.map fun (key, value) => (key, nodeOf parts steps [] value))
  | _ => nodeOf parts steps [] root

/-- Reads a document. -/
def decode (text : List Char) : Except Fault Node := do
  match ← readGraph text with
  | (_, none) => return .scalar .null
  | (graph, some root) =>
    let finding : Evaluating Unit := do
      let _ ← valueOf root
      lookIntoAll (graph.size + 1)
    let (_, evaluation) ← finding.run { graph }
    return nodeOfRoot evaluation.parts (graph.size + 2) root

end ManifestLint.Yaml
