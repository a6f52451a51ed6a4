/-!
# Positions

A position is where a typed value stands: an argument, an input field, or the result of a field.
Its type is a named leaf below any number of lists, and every level says whether `null` may stand
there. The leaf carries what the schema knows about its name.
-/

namespace ArgGuard

/-- The scalars that every schema has. -/
inductive Builtin
  | int | float | string | boolean | id
deriving DecidableEq, Repr

namespace Builtin

def name : Builtin → String
  | int => "Int"
  | float => "Float"
  | string => "String"
  | boolean => "Boolean"
  | id => "ID"

def ofName? (name : String) : Option Builtin :=
  if name = "Int" then some int
  else if name = "Float" then some float
  else if name = "String" then some string
  else if name = "Boolean" then some boolean
  else if name = "ID" then some id
  else none

@[simp] theorem ofName?_name (scalar : Builtin) : ofName? scalar.name = some scalar := by
  cases scalar <;> rfl

theorem name_of_ofName? {name : String} {scalar : Builtin} (h : ofName? name = some scalar) :
    scalar.name = name := by
  unfold ofName? at h
  repeat' split at h
  all_goals first | (cases h; simp_all [Builtin.name]) | cases h

end Builtin

/-- What the name at the leaf of a position refers to. -/
inductive Leaf
  | builtin (scalar : Builtin)
  | enumeration
  | customScalar
  | inputObject
  | output
  | unknown
deriving DecidableEq, Repr

/-- The type of a position. -/
inductive Position
  | named (name : String) (leaf : Leaf) (nonNull : Bool)
  | list (item : Position) (nonNull : Bool)
deriving DecidableEq, Repr

namespace Position

def leafName : Position → String
  | named name _ _ => name
  | list item _ => item.leafName

def leaf : Position → Leaf
  | named _ leaf _ => leaf
  | list item _ => item.leaf

/-- Whether `null` is refused at the outermost level. -/
def nonNull : Position → Bool
  | named _ _ nonNull => nonNull
  | list _ nonNull => nonNull

/-- Whether `null` is admitted at the outermost level. -/
def nullable (position : Position) : Bool := !position.nonNull

def item? : Position → Option Position
  | named .. => none
  | list item _ => some item

def isList (position : Position) : Bool := position.item?.isSome

/-- Whether the leaf is an input object, which has a unit of its own. -/
def isComposite (position : Position) : Bool := position.leaf = .inputObject

def builtin? (position : Position) : Option Builtin :=
  match position.leaf with
  | .builtin scalar => some scalar
  | _ => none

/-- The type as the schema language writes it. -/
def text : Position → String
  | named name _ nonNull => name ++ if nonNull then "!" else ""
  | list item nonNull => "[" ++ item.text ++ "]" ++ if nonNull then "!" else ""

end Position

end ArgGuard
