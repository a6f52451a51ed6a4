import ArgGuard.Override.Basic
import ArgGuard.Shape.Basic

/-!
# Reading shapes

A shape is read from a fragment key by key, in the fragment's order. An unknown key means nothing;
a known key with a value of the wrong form is an error, and the first error of the fragment is the
answer. At the end the kind and the target of a reference have to fit together.
-/

namespace ArgGuard

/-- What the value of a key can be asked to be. -/
inductive ValueForm
  | string | boolean | number | count | array | object
deriving DecidableEq, Repr

/-- The form as a sentence names it. -/
def ValueForm.phrase : ValueForm → String
  | string => "a string"
  | boolean => "a boolean"
  | number => "a number"
  | count => "a non-negative integer"
  | array => "an array"
  | object => "an object"

/-- Why a fragment is no shape. -/
inductive ShapeError
  | wrongForm (key : String) (form : ValueForm)
  | unknownKind (name : String)
  | unknownFormat (name : String)
  | invalidPattern
  | notPositive (key : String)
  | missingTarget
  | targetForKind (kind : ShapeKind)
  | inItems (error : ShapeError)
  | inProperty (name : String) (error : ShapeError)
deriving DecidableEq, Repr

/-- The text of an error. -/
def ShapeError.message : ShapeError → String
  | wrongForm key form => s!"'{key}' must be {form.phrase}"
  | unknownKind name => s!"unknown kind '{name}'"
  | unknownFormat name => s!"unknown format '{name}'"
  | invalidPattern => "invalid pattern"
  | notPositive key => s!"'{key}' must be greater than 0"
  | missingTarget => "kind 'ref' without a 'ref' target"
  | targetForKind kind => s!"'ref' given for kind '{kind.name}'"
  | inItems error => "items: " ++ error.message
  | inProperty name error => name ++ ": " ++ error.message

namespace Shape

/-- A value of the expected form, or the error that it is not. -/
def expect (key : String) (form : ValueForm) (value : Option α) : Except ShapeError α :=
  match value with
  | some value => .ok value
  | none => .error (.wrongForm key form)

def requiredNames (key : String) (items : List Json) : Except ShapeError (List String) :=
  items.mapM fun item => expect key .string item.string?

/-- Takes a key that holds no further shape. -/
def setScalar (shape : Shape) (key : String) (value : Json) : Except ShapeError Shape :=
  let string := expect key .string value.string?
  let boolean := expect key .boolean value.bool?
  let number := expect key .number (value.number?.map Number.toFloat)
  let count := expect key .count (value.number?.bind Number.nat?)
  let array := expect key .array value.array?
  match key with
  | "kind" => do
    let name ← string
    match ShapeKind.ofName? name with
    | some kind => return { shape with kind := some kind }
    | none => throw (.unknownKind name)
  | "nullable" => return { shape with nullable := ← boolean }
  | "ref" => return { shape with target := some (← string) }
  | "required" => return { shape with required := ← requiredNames key (← array) }
  | "additionalProperties" => return { shape with closed := !(← boolean) }
  | "minLength" => return { shape with minLength := some (← count) }
  | "maxLength" => return { shape with maxLength := some (← count) }
  | "pattern" => do
    let text ← string
    match Pattern.parse? text with
    | some pattern => return { shape with pattern := some ⟨text, pattern⟩ }
    | none => throw .invalidPattern
  | "format" => do
    let name ← string
    match TextFormat.ofName? name with
    | some format => return { shape with format := some format }
    | none => throw (.unknownFormat name)
  | "minimum" => return { shape with minimum := some (← number) }
  | "maximum" => return { shape with maximum := some (← number) }
  | "exclusiveMinimum" => return { shape with exclusiveMinimum := some (← number) }
  | "exclusiveMaximum" => return { shape with exclusiveMaximum := some (← number) }
  | "multipleOf" => do
    let divisor ← number
    if divisor ≤ 0 then throw (.notPositive key)
    return { shape with multipleOf := some divisor }
  | "enum" => return { shape with allowed := some (← array) }
  | "minItems" => return { shape with minItems := some (← count) }
  | "maxItems" => return { shape with maxItems := some (← count) }
  | "uniqueItems" => return { shape with uniqueItems := ← boolean }
  | _ => return shape

/-- Makes the kind and the target fit together: a target alone makes a reference. -/
def settleTarget (shape : Shape) : Except ShapeError Shape :=
  match shape.kind, shape.target with
  | none, some _ => .ok { shape with kind := some .ref }
  | some .ref, none => .error .missingTarget
  | some kind, some _ => if kind = .ref then .ok shape else .error (.targetForKind kind)
  | _, none => .ok shape

mutual

def takeKeys : List (String × Json) → Shape → Except ShapeError Shape
  | [], shape => .ok shape
  | (key, value) :: rest, shape => do
    let shape ←
      if key = "items" then do
        match ← ofValue key value with
        | .ok items => pure { shape with items := some items }
        | .error error => throw (.inItems error)
      else if key = "properties" then takeProperties key value shape
      else setScalar shape key value
    takeKeys rest shape

/-- The shape of a value that has to be an object. The outer error says that it is none. -/
def ofValue (key : String) : Json → Except ShapeError (Except ShapeError Shape)
  | .object members => .ok (do settleTarget (← takeKeys members {}))
  | _ => .error (.wrongForm key .object)

def takeProperties (key : String) : Json → Shape → Except ShapeError Shape
  | .object members, shape => takeMembers members shape
  | _, _ => .error (.wrongForm key .object)

/-- Takes one property after the other. -/
def takeMembers : List (String × Json) → Shape → Except ShapeError Shape
  | [], shape => .ok shape
  | (name, value) :: rest, shape => do
    match ← ofValue name value with
    | .ok property =>
      takeMembers rest { shape with properties := Members.set shape.properties name property }
    | .error error => throw (.inProperty name error)

end

def ofFragment (fragment : Fragment) : Except ShapeError Shape := do
  settleTarget (← takeKeys fragment {})

end Shape

end ArgGuard
