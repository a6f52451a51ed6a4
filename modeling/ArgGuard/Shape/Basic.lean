import ArgGuard.Json.Basic
import ArgGuard.Shape.Format

/-!
# Shapes

A shape says which values stand at a position: their kind, whether `null` is admitted, constraints
on scalars, and the shapes of items and properties. A reference stands for the shape of another
unit. A shape without a kind admits every value that its constraints allow.
-/

namespace ArgGuard

/-- The kinds of values that a shape tells apart. -/
inductive ShapeKind
  | string | integer | float | boolean | id | array | object | ref
deriving DecidableEq, Repr

namespace ShapeKind

def name : ShapeKind → String
  | string => "string"
  | integer => "integer"
  | float => "float"
  | boolean => "boolean"
  | id => "id"
  | array => "array"
  | object => "object"
  | ref => "ref"

def ofName? (name : String) : Option ShapeKind :=
  if name = "string" then some string
  else if name = "integer" then some integer
  else if name = "float" then some float
  else if name = "boolean" then some boolean
  else if name = "id" then some id
  else if name = "array" then some array
  else if name = "object" then some object
  else if name = "ref" then some ref
  else none

end ShapeKind

/-- A pattern together with the text it was read from. -/
structure NamedPattern where
  text : String
  pattern : Pattern

/-- What values may stand at a position. -/
structure Shape where
  kind : Option ShapeKind := none
  nullable : Bool := false
  /-- The unit that a reference stands for. -/
  target : Option String := none
  items : Option Shape := none
  properties : List (String × Shape) := []
  required : List String := []
  /-- Whether other properties are refused. -/
  closed : Bool := false
  minLength : Option Nat := none
  maxLength : Option Nat := none
  pattern : Option NamedPattern := none
  format : Option TextFormat := none
  minimum : Option Float := none
  maximum : Option Float := none
  exclusiveMinimum : Option Float := none
  exclusiveMaximum : Option Float := none
  multipleOf : Option Float := none
  /-- The only values allowed. -/
  allowed : Option (List Json) := none
  minItems : Option Nat := none
  maxItems : Option Nat := none
  uniqueItems : Bool := false

/-- The shapes of the registered units. -/
abbrev UnitTable := Members Shape

end ArgGuard
