/-!
# Graphs of YAML documents

A document is a graph: its nodes are numbered in the order in which they start, and where a node is
referred to again its number stands once more, perhaps inside of the node itself.  A tag says what
kind of value a node is.
-/

namespace ManifestLint.Yaml

/-- What kind of value a node is. -/
inductive Tag where
  | null
  | boolean
  | whole
  | double
  | text
  | bytes
  | moment
  | list
  | table
  /-- A table of which only the keys count. -/
  | set
  /-- A list of tables with one pair each, kept as a list of pairs. -/
  | pairs
  /-- A key whose value is a table, or a list of tables, to be merged in. -/
  | merge
  /-- A key whose value stands for the whole table. -/
  | principal
  /-- Any other kind, of which nothing can be made. -/
  | other
  deriving DecidableEq, Repr

namespace Tag

/-- What the names of the known tags start with. -/
def commonStart : String := "tag:yaml.org,2002:"

/-- The known tags and the ends of their names. -/
def names : List (String × Tag) := [
  ("null", null), ("bool", boolean), ("int", whole), ("float", double), ("str", text),
  ("binary", bytes), ("timestamp", moment), ("seq", list), ("map", table), ("set", set),
  ("pairs", pairs), ("omap", pairs), ("merge", merge), ("value", principal)]

/-- The tag with a full name. -/
def ofName (name : String) : Tag :=
  ((names.find? fun (last, _) => commonStart ++ last = name).map Prod.snd).getD other

end Tag

/-- What a node consists of: the characters of a scalar, or the numbers of other nodes. -/
inductive Content where
  | scalar (text : List Char)
  | list (items : List Nat)
  | table (pairs : List (Nat × Nat))
  deriving DecidableEq, Inhabited

/-- A node of a graph. -/
structure Vertex where
  tag : Tag
  content : Content
  deriving DecidableEq

/-- The nodes of a document, by their numbers. -/
structure Graph where
  vertices : Array Vertex := #[]

namespace Graph

/-- How many nodes there are. -/
def size (graph : Graph) : Nat := graph.vertices.size

/-- The tag of a node. -/
def tag (graph : Graph) (number : Nat) : Tag :=
  (graph.vertices[number]?.map Vertex.tag).getD .other

/-- The content of a node. -/
def content (graph : Graph) (number : Nat) : Content :=
  (graph.vertices[number]?.map Vertex.content).getD (.scalar [])

/-- The graph with one more node. -/
def push (graph : Graph) (vertex : Vertex) : Graph := ⟨graph.vertices.push vertex⟩

/-- The graph with a node changed. -/
def update (graph : Graph) (number : Nat) (change : Vertex → Vertex) : Graph :=
  ⟨graph.vertices.modify number change⟩

end Graph

end ManifestLint.Yaml
