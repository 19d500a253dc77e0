import ManifestLint.Decimal.Shortest
import ManifestLint.Json.Basic
import ManifestLint.Text.Quoted

/-!
# Values in messages

How a JSON value is shown to the user: a string by itself stands as it is, inside a list or a table
it is quoted; null, true and false have names with a capital, doubles their shortest text.
-/

namespace ManifestLint.Json

mutual

/-- A value as it is shown inside another one. -/
def shown : Json → String
  | null => "None"
  | bool value => if value then "True" else "False"
  | int value => toString value
  | float value => Decimal.floatText value
  | string value => Text.quoted value
  | array items => "[" ++ shownItems items ++ "]"
  | object members => "\x7b" ++ shownMembers members ++ "\x7d"

/-- The items of a list, separated by commas. -/
def shownItems : List Json → String
  | [] => ""
  | [item] => shown item
  | item :: rest => shown item ++ ", " ++ shownItems rest

/-- The members of a table, separated by commas. -/
def shownMembers : List (String × Json) → String
  | [] => ""
  | [(key, value)] => Text.quoted key ++ ": " ++ shown value
  | (key, value) :: rest => Text.quoted key ++ ": " ++ shown value ++ ", " ++ shownMembers rest

end

/-- A value as text: a string stands for itself. -/
def display : Json → String
  | string value => value
  | other => other.shown

end ManifestLint.Json
