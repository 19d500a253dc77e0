import ManifestLint.Yaml.Scalar

/-!
# Nodes of YAML documents

A node is a scalar, a list of nodes, or a table from scalars to nodes.  Unlike the members of a
JSON object, the pairs of a table may have keys that are no texts.  Beside these there are sets of
scalars and pairs of nodes, and where a node is inside of itself a mark stands for it.

* `Node.shown` is a node as messages show it, in the manner of JSON values, if `Node.isWritable`;
  `Node.ofJson` takes a JSON value for a node, and `Node.shown_ofJson` says that it is shown in the
  same way.
-/

namespace ManifestLint.Yaml

/-- A node. -/
inductive Node where
  | scalar (value : Scalar)
  | list (items : List Node)
  | table (pairs : List (Scalar × Node))
  | set (members : List Scalar)
  | pair (first second : Node)
  /-- A list around this place. -/
  | outerList
  /-- A table around this place. -/
  | outerTable
  deriving Inhabited

namespace Node

mutual

/-- A node as it is shown inside another one. -/
def shown : Node → String
  | scalar value => value.shown
  | list items => "[" ++ shownItems items ++ "]"
  | table pairs => "\x7b" ++ shownPairs pairs ++ "\x7d"
  | set members =>
    if members.isEmpty then "set()"
    else "\x7b" ++ ", ".intercalate (members.map Scalar.shown) ++ "\x7d"
  | pair first second => "(" ++ shown first ++ ", " ++ shown second ++ ")"
  | outerList => "[...]"
  | outerTable => "\x7b...\x7d"

/-- The items of a list, separated by commas. -/
def shownItems : List Node → String
  | [] => ""
  | [item] => shown item
  | item :: rest => shown item ++ ", " ++ shownItems rest

/-- The pairs of a table, separated by commas. -/
def shownPairs : List (Scalar × Node) → String
  | [] => ""
  | [(key, value)] => key.shown ++ ": " ++ shown value
  | (key, value) :: rest => key.shown ++ ": " ++ shown value ++ ", " ++ shownPairs rest

end

mutual

/-- Whether a node can be written: all scalars in it can. -/
def isWritable : Node → Bool
  | scalar value => value.isWritable
  | list items => areWritable items
  | table pairs => arePairsWritable pairs
  | set members => members.all Scalar.isWritable
  | pair first second => first.isWritable && second.isWritable
  | outerList => true
  | outerTable => true

/-- Whether the items of a list can be written. -/
def areWritable : List Node → Bool
  | [] => true
  | item :: rest => item.isWritable && areWritable rest

/-- Whether the pairs of a table can be written. -/
def arePairsWritable : List (Scalar × Node) → Bool
  | [] => true
  | (key, value) :: rest => key.isWritable && value.isWritable && arePairsWritable rest

end

/-- A node as text. -/
def display : Node → String
  | scalar value => value.display
  | other => other.shown

/-- The node of a text. -/
def text (value : String) : Node := scalar (.text value)

mutual

/-- The node that a JSON value is. -/
def ofJson : Json → Node
  | .null => scalar .null
  | .bool value => scalar (.bool value)
  | .int value => scalar (.int value)
  | .float value => scalar (.float value)
  | .string value => text value
  | .array items => list (ofItems items)
  | .object members => table (ofMembers members)

/-- The nodes that the items of an array are. -/
def ofItems : List Json → List Node
  | [] => []
  | item :: rest => ofJson item :: ofItems rest

/-- The pairs that the members of an object are. -/
def ofMembers : List (String × Json) → List (Scalar × Node)
  | [] => []
  | (key, value) :: rest => (.text key, ofJson value) :: ofMembers rest

end

mutual

/-- A JSON value and the node that it is are shown in the same way. -/
theorem shown_ofJson : (json : Json) → (ofJson json).shown = json.shown
  | .null | .bool _ | .int _ | .float _ | .string _ => rfl
  | .array items => by
    rw [ofJson, shown, Json.shown, shown_ofItems items]
  | .object members => by
    rw [ofJson, shown, Json.shown, shown_ofMembers members]

theorem shown_ofItems : (items : List Json) → shownItems (ofItems items) = Json.shownItems items
  | [] => rfl
  | [item] => by
    simp only [ofItems, shownItems, Json.shownItems]
    exact shown_ofJson item
  | item :: next :: rest => by
    have later := shown_ofItems (next :: rest)
    simp only [ofItems] at later
    simp only [ofItems, shownItems, Json.shownItems, shown_ofJson item, later]

theorem shown_ofMembers :
    (members : List (String × Json)) → shownPairs (ofMembers members) = Json.shownMembers members
  | [] => rfl
  | [(key, value)] => by
    simp only [ofMembers, shownPairs, Json.shownMembers, shown_ofJson value]
    rfl
  | (key, value) :: next :: rest => by
    have later := shown_ofMembers (next :: rest)
    simp only [ofMembers] at later
    simp only [ofMembers, shownPairs, Json.shownMembers, shown_ofJson value, later]
    rfl

end

/-- A JSON value and the node that it is stand for the same text. -/
theorem display_ofJson (json : Json) : (ofJson json).display = json.display := by
  cases json with
  | string value => rfl
  | array items => exact shown_ofJson (.array items)
  | object members => exact shown_ofJson (.object members)
  | _ => rfl

end Node

end ManifestLint.Yaml
