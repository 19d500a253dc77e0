import ManifestLint.Collections.Entries

/-!
# JSON values

The values that an index, a host or a settings file may hold.  Whole numbers are unbounded and
kept apart from doubles, and the members of an object keep their order.  A value of the wrong shape
is no reason to stop: `ShapeError` says what was tried on which kind of value, and the caller
decides what that means.
-/

namespace ManifestLint

/-- A JSON value. -/
inductive Json where
  | null
  | bool (value : Bool)
  | int (value : Int)
  | float (value : Float)
  | string (value : String)
  | array (items : List Json)
  | object (members : List (String × Json))
  deriving Inhabited

namespace Json

/-- The kinds of JSON values. -/
inductive Kind where
  | null
  | bool
  | int
  | float
  | string
  | array
  | object
  deriving DecidableEq, Repr

/-- The kind of a value. -/
def kind : Json → Kind
  | null => .null
  | bool _ => .bool
  | int _ => .int
  | float _ => .float
  | string _ => .string
  | array _ => .array
  | object _ => .object

/-- The name of a kind in messages. -/
def Kind.name : Kind → String
  | null => "NoneType"
  | bool => "bool"
  | int => "int"
  | float => "float"
  | string => "str"
  | array => "list"
  | object => "dict"

/-- Whether a value counts as present: neither null, false, zero nor empty. -/
def isPresent : Json → Bool
  | null => false
  | bool value => value
  | int value => value ≠ 0
  | float value => !(value == 0.0)
  | string value => value ≠ ""
  | array items => !items.isEmpty
  | object members => !members.isEmpty

/-- What was asked of a value whose kind cannot give it. -/
inductive ShapeError where
  /-- Its elements were asked for. -/
  | notIterable (found : Kind)
  /-- An operation that only another kind has was applied to it. -/
  | lacks (found : Kind) (operation : String)
  /-- It was to be read as a JSON document. -/
  | notDocument (found : Kind)
  /-- It was to be read as base64 text. -/
  | notEncoded (found : Kind)
  /-- It was used as the id of an object. -/
  | notKey (found : Kind)
  deriving DecidableEq, Repr

/-- The wording of a shape error. -/
def ShapeError.message : ShapeError → String
  | notIterable found => s!"'{found.name}' object is not iterable"
  | lacks found operation => s!"'{found.name}' object has no attribute '{operation}'"
  | notDocument found =>
    s!"the JSON object must be str, bytes or bytearray, not {found.name}"
  | notEncoded found =>
    s!"argument should be a bytes-like object or ASCII string, not '{found.name}'"
  | notKey found => s!"unhashable type: '{found.name}'"

/-- The elements of a value: the items of an array, the characters of a string, the keys of an
object. -/
def elements : Json → Except ShapeError (List Json)
  | array items => .ok items
  | string value => .ok (value.toList.map fun c => string (.singleton c))
  | object members => .ok (members.map fun member => string member.1)
  | other => .error (.notIterable other.kind)

/-- The members of an object, for a look-up by key. -/
def members : Json → Except ShapeError (Entries String Json)
  | object members => .ok members
  | other => .error (.lacks other.kind "get")

end Json

end ManifestLint
