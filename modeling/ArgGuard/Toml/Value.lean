import ArgGuard.Json.Basic

/-!
# Values of configuration files

A configuration file is a table of values. As a document it has its tables' keys in ascending order;
a double that is no number has no place in a document and becomes `null`, and a date or time is
wrapped under a key of its own.
-/

namespace ArgGuard.Toml

/-- A value of a configuration file. -/
inductive Value
  | string (text : String)
  | integer (value : Int)
  | float (value : Float)
  | boolean (value : Bool)
  /-- A date, a time, or both, as it is written. -/
  | datetime (text : String)
  | array (items : List Value)
  | table (entries : List (String × Value))

abbrev Table := List (String × Value)

namespace Value

/-- The key that wraps a date or time in a document. -/
def datetimeKey : String := "$__toml_private_datetime"

/-- The document of a double. -/
def floatToJson (x : Float) : Json :=
  if x.isNaN || x.isInf then .null else .number (.real x)

/-- Members in ascending order of their names. -/
def sorted (members : Members Json) : Members Json := members.mergeSort fun a b => a.1 ≤ b.1

mutual

/-- The document of a value. -/
def toJson : Value → Json
  | string text => .string text
  | integer n => .ofInt n
  | float x => floatToJson x
  | boolean b => .bool b
  | datetime text => .object [(datetimeKey, .string text)]
  | array items => .array (itemsToJson items)
  | table entries => .object (sorted (entriesToJson entries))

/-- The documents of items. -/
def itemsToJson : List Value → List Json
  | [] => []
  | item :: rest => toJson item :: itemsToJson rest

/-- The documents of entries. -/
def entriesToJson : List (String × Value) → Members Json
  | [] => []
  | (key, value) :: rest => (key, toJson value) :: entriesToJson rest

end

end Value

end ArgGuard.Toml
