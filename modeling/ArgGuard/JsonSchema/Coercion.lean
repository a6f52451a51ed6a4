import ArgGuard.Json.Conversion
import ArgGuard.JsonSchema.Draft

/-!
# Coercion

Before a document is validated, its scalars are converted to the types that the schema declares for
them, where they stand for a value of such a type. Coercion knows the keywords on types, references,
items and properties, and the first branch of `anyOf` that is not for `null`; it reads them from the
schema's document itself. What it cannot convert it leaves for validation to refuse.

A reference and a branch each take a step, and there are 64 steps on the way to any place in the
document, its ancestors' steps included. `coerceHere` takes the steps at one place and hands the
parts of the document to `below`; `coerceDeep` goes down level by level.
-/

namespace ArgGuard.JsonSchema

namespace Coercion

/-- Coerces a document that is under a schema, with some steps left. -/
abbrev Coercer := Nat → Json → Json → Json

/-- The definition that a schema refers to, if it refers to one that is there. -/
def definition? (definitions : Members Json) (schema : Members Json) : Option Json := do
  let reference ← (← Members.get? schema "$ref").string?
  let name ← afterText? definitionsPath reference
  Members.get? definitions name

/-- Whether a schema is for `null` alone. -/
def isForNull (schema : Json) : Bool := (schema.get? "type").bind Json.string? = some "null"

/-- The types that a schema declares, `null` in a list left out. -/
def declaredTypes (schema : Members Json) : List String :=
  match Members.get? schema "type" with
  | some (.string type) => [type]
  | some (.array types) => (types.filterMap Json.string?).filter (· ≠ "null")
  | _ => []

def hasType (value : Json) (type : String) : Bool :=
  match TypeName.ofWord? type, value with
  | some .array, .array _ => true
  | some .boolean, .bool _ => true
  | some .integer, .number n => n.isIntegral
  | some .number, .number _ => true
  | some .object, .object _ => true
  | some .string, .string _ => true
  | _, _ => false

/-- A double that is whole and fits 64 bits becomes an integer, so that it is of both types. -/
def integerForm (x : Float) : Number :=
  match (Binary64.ofFloat x).bind Binary64.toInt? with
  | some n => if n.natAbs < Nat.pow 2 63 then .integer n else .real x
  | none => .real x

/-- A scalar as a value of a type. -/
def convert? (value : Json) (type : String) : Option Json :=
  match TypeName.ofWord? type with
  | some .string => value.toText?
  | some .integer => value.toInteger?
  | some .number => value.toNumber? integerForm
  | some .boolean => value.toBoolean?
  | _ => none

/-- Converts a document that has none of the declared types to the first one it stands for. -/
def coerceScalar (types : List String) (value : Json) : Json :=
  if types.isEmpty || types.any (hasType value) then value
  else (types.findSome? (convert? value)).getD value

/-- The branch of `anyOf` that coercion takes. -/
def chosenBranch? (schema : Members Json) : Option Json := do
  let branches ← (← Members.get? schema "anyOf").array?
  branches.find? (!isForNull ·)

def allBranches (schema : Members Json) : List Json :=
  ((Members.get? schema "allOf").bind Json.array?).getD []

def coerceMember (coerce : Json → Json → Json) (properties : Members Json)
    (member : String × Json) : String × Json :=
  match Members.get? properties member.1 with
  | some schema => (member.1, coerce schema member.2)
  | none => member

def coerceParts (coerce : Json → Json → Json) (schema : Members Json) : Json → Json
  | .array items =>
    match Members.get? schema "items" with
    | some itemSchema => .array (items.map (coerce itemSchema))
    | none => .array items
  | .object members =>
    match (Members.get? schema "properties").bind Json.object? with
    | some properties => .object (members.map (coerceMember coerce properties))
    | none => .object members
  | value => value

/-- Coerces a document at one place. -/
def coerceHere (below : Coercer) (definitions : Members Json) : Coercer
  | 0, _, value => value
  | steps + 1, .object schema, value =>
    if value.isNull then value
    else
      match definition? definitions schema with
      | some target => coerceHere below definitions steps target value
      | none =>
        let value := match chosenBranch? schema with
          | some branch => coerceHere below definitions steps branch value
          | none => value
        let value := (allBranches schema).foldl
          (fun value branch => coerceHere below definitions steps branch value) value
        coerceParts (below (steps + 1)) schema (coerceScalar (declaredTypes schema) value)
  | _, _, value => value

/-- Goes down at most so many levels. -/
def coerceDeep (definitions : Members Json) : Nat → Coercer
  | 0 => fun _ _ value => value
  | depth + 1 => coerceHere (coerceDeep definitions depth) definitions

/-- The steps that there are from the start: one for the schema itself, and 64 more. -/
def stepLimit : Nat := 65

def coerce (definitions : Members Json) (schema value : Json) : Json :=
  coerceDeep definitions value.height stepLimit schema value

end Coercion

end ArgGuard.JsonSchema
