import ArgGuard.Json.Conversion
import ArgGuard.Json.Pointer
import ArgGuard.Shape.Basic

/-!
# Checking values against shapes

`check` answers the value, with its scalars converted to the kinds that the shape asks for, and
everything that is wrong with it. It is composed from the parts of the value: the failures of an
item or property are those that it has on its own, with its place put in front. Only the shape of a
reference is not part of the shape; `resolve` follows references, at most 64 in a row, before the
value is looked at, and starts afresh at every item and property.
-/

namespace ArgGuard

/-- What is wrong with a value. -/
inductive CheckCause
  | isNull
  | unresolved (target : String)
  | tooDeep (target : String)
  | wrongKind (expected : ShapeKind) (found : Json.Kind)
  | tooShort (least : Nat)
  | tooLong (most : Nat)
  | noMatch (pattern : String)
  | notOfFormat (format : TextFormat)
  | belowMinimum (limit : Float)
  | aboveMaximum (limit : Float)
  | notAbove (limit : Float)
  | notBelow (limit : Float)
  | notMultiple (divisor : Float)
  | notAllowed (values : List Json)
  | tooFewItems (least : Nat)
  | tooManyItems (most : Nat)
  | repeatedItem
  | missingProperty (name : String)
  | unexpectedProperty

/-- The text of a cause. -/
def CheckCause.message : CheckCause → String
  | isNull => "must not be null"
  | unresolved target => s!"unresolved reference '{target}'"
  | tooDeep target => s!"reference chain through '{target}' is too deep"
  | wrongKind expected found => s!"expected {expected.name}, found {found.name}"
  | tooShort least => s!"must be at least {least} characters long"
  | tooLong most => s!"must be at most {most} characters long"
  | noMatch pattern => s!"must match the pattern '{pattern}'"
  | notOfFormat format => s!"must be a valid {format.name}"
  | belowMinimum limit => s!"must be at least {RealLayout.plain.text limit}"
  | aboveMaximum limit => s!"must be at most {RealLayout.plain.text limit}"
  | notAbove limit => s!"must be greater than {RealLayout.plain.text limit}"
  | notBelow limit => s!"must be less than {RealLayout.plain.text limit}"
  | notMultiple divisor => s!"must be a multiple of {RealLayout.plain.text divisor}"
  | notAllowed values => "must be one of " ++ ", ".intercalate (values.map Json.compact)
  | tooFewItems least => s!"must have at least {least} items"
  | tooManyItems most => s!"must have at most {most} items"
  | repeatedItem => "items must be unique"
  | missingProperty name => s!"missing required property '{name}'"
  | unexpectedProperty => "unexpected property"

/-- A cause and its place inside the value. -/
structure CheckFailure where
  path : Pointer
  cause : CheckCause

namespace CheckFailure

/-- A failure of the value itself. -/
def here (cause : CheckCause) : CheckFailure := ⟨[], cause⟩

/-- The failure seen from the container: one step further out. -/
def under (step : String) (failure : CheckFailure) : CheckFailure :=
  { failure with path := step :: failure.path }

def report (failure : CheckFailure) : ValueFailure := ⟨failure.path, failure.cause.message⟩

end CheckFailure

/-- The value after conversion, and what is wrong with it. -/
structure Checked where
  value : Json
  failures : List CheckFailure

namespace Checked

/-- The value, if nothing is wrong with it. -/
def result (checked : Checked) : Except (List CheckFailure) Json :=
  if checked.failures.isEmpty then .ok checked.value else .error checked.failures

end Checked

/-- What a check needs beside the shape: the units, and whether scalars are converted. -/
structure CheckRules where
  table : UnitTable
  coercing : Bool

namespace Shape

/-- How many references may follow one another. -/
def referenceLimit : Nat := 64

/-- The shape that a shape stands for: itself, or what a chain of references leads to. -/
def resolve (table : UnitTable) : Nat → Shape → Except CheckCause Shape
  | hops, shape =>
    if shape.kind ≠ some .ref then .ok shape
    else
      let target := shape.target.getD ""
      match Members.get? table target, hops with
      | none, _ => .error (.unresolved target)
      | some _, 0 => .error (.tooDeep target)
      | some next, hops + 1 => resolve table hops next

/-- Converts a value that is not of the kind. Only scalars are converted, to scalars. -/
def convert : ShapeKind → Json → Option Json
  | .string, value => value.toText?
  | .integer, value => value.toInteger?
  | .float, value => value.toNumber? .real
  | .boolean, value => value.toBoolean?
  | _, _ => none

/-- The value as one of the kind: itself, or converted if conversion is on. A whole number is an
identifier even without conversion; with it, it becomes the text that writes it. -/
def coerce (coercing : Bool) : ShapeKind → Json → Option Json
  | .string, value@(.string _) => some value
  | .float, value@(.number _) => some value
  | .boolean, value@(.bool _) => some value
  | .id, value@(.string _) => some value
  | .array, value@(.array _) => some value
  | .object, value@(.object _) => some value
  | .integer, value@(.number n) =>
    if n.isIntegral then some value else if coercing then convert .integer value else none
  | .id, value@(.number n) =>
    if n.isIntegral then some (if coercing then .string (Json.numberText n) else value) else none
  | kind, value => if coercing then convert kind value else none

def causeIf (condition : Bool) (cause : CheckCause) : List CheckCause :=
  if condition then [cause] else []

/-- A cause where a limit is set and the test says that it is broken. -/
def causeAt (limit : Option α) (broken : α → Bool) (cause : α → CheckCause) : List CheckCause :=
  match limit with
  | some limit => causeIf (broken limit) (cause limit)
  | none => []

/-- Whether a double is further from every multiple of the divisor than rounding explains. -/
def missesMultiple (x divisor : Float) : Bool :=
  let quotient := x / divisor
  match Binary64.ofFloat quotient with
  | some exact => (quotient - Float.ofInt exact.nearestInt).abs > 1e-9
  | none => false

/-- What is wrong with a text. -/
def stringCauses (shape : Shape) (text : String) : List CheckCause :=
  causeAt shape.minLength (text.length < ·) .tooShort
    ++ causeAt shape.maxLength (· < text.length) .tooLong
    ++ causeAt shape.pattern (fun p => !p.pattern.search text) (fun p => .noMatch p.text)
    ++ causeAt shape.format (fun f => !f.holds text) .notOfFormat

/-- What is wrong with a number. -/
def numberCauses (shape : Shape) (n : Number) : List CheckCause :=
  let x := n.toFloat
  causeAt shape.minimum (x < ·) .belowMinimum
    ++ causeAt shape.maximum (x > ·) .aboveMaximum
    ++ causeAt shape.exclusiveMinimum (x ≤ ·) .notAbove
    ++ causeAt shape.exclusiveMaximum (x ≥ ·) .notBelow
    ++ causeAt shape.multipleOf (missesMultiple x) .notMultiple

/-- What is wrong with a scalar. -/
def scalarCauses (shape : Shape) : Json → List CheckCause
  | .string text => stringCauses shape text
  | .number n => numberCauses shape n
  | _ => []

/-- What is wrong if the value is not among those allowed. -/
def allowedCauses (shape : Shape) (value : Json) : List CheckCause :=
  causeAt shape.allowed (fun values => !values.any (·.same value)) .notAllowed

/-- Whether a document stands twice among items. -/
def hasRepetition : List Json → Bool
  | [] => false
  | item :: rest => rest.any (·.same item) || hasRepetition rest

/-- What is wrong with an array as a whole. -/
def arrayCauses (shape : Shape) (items : List Json) : List CheckCause :=
  causeAt shape.minItems (items.length < ·) .tooFewItems
    ++ causeAt shape.maxItems (· < items.length) .tooManyItems
    ++ causeIf (shape.uniqueItems && hasRepetition items) .repeatedItem

/-- The required properties that an object lacks. -/
def missingCauses (shape : Shape) (members : Members Json) : List CheckCause :=
  (shape.required.filter fun name => !Members.contains members name).map .missingProperty

/-- The members that a closed shape does not know. -/
def unexpectedFailures (shape : Shape) (members : Members Json) : List CheckFailure :=
  if shape.closed then
    ((Members.names members).filter fun name => !Members.contains shape.properties name).map
      fun name => ⟨[name], .unexpectedProperty⟩
  else []

def checkNull (shape : Shape) : Checked :=
  ⟨.null, (causeIf (!shape.nullable && shape.kind.isSome) .isNull).map .here⟩

/-- Goes on with the shape that the shape stands for and with the value as one of its kind. -/
def withTarget (rules : CheckRules) (shape : Shape) (value : Json)
    (proceed : Shape → Json → Checked) : Checked :=
  match resolve rules.table referenceLimit shape with
  | .error cause => ⟨value, [.here cause]⟩
  | .ok target =>
    match target.kind with
    | none => proceed target value
    | some kind =>
      match coerce rules.coercing kind value with
      | some converted => proceed target converted
      | none => ⟨value, [.here (.wrongKind kind value.kind)]⟩

/-- The check of a scalar that has the right kind. -/
def checkScalar (shape : Shape) (value : Json) : Checked :=
  ⟨value, (scalarCauses shape value ++ allowedCauses shape value).map .here⟩

/-- The failures of the members in the order of the shape's properties. -/
def propertyFailures (properties : Members Shape) (checked : Members Checked) :
    List CheckFailure :=
  properties.flatMap fun (name, _) =>
    match Members.get? checked name with
    | some checked => checked.failures.map (.under name)
    | none => []

mutual

def check (rules : CheckRules) (shape : Shape) : Json → Checked
  | .null => checkNull shape
  | .array items =>
    withTarget rules shape (.array items) fun target value =>
      let own := (allowedCauses target value ++ arrayCauses target items).map CheckFailure.here
      match target.items with
      | some itemShape =>
        let (converted, failures) := checkItems rules itemShape 0 items
        ⟨.array converted, own ++ failures⟩
      | none => ⟨value, own⟩
  | .object members =>
    withTarget rules shape (.object members) fun target value =>
      let own := (allowedCauses target value ++ missingCauses target members).map CheckFailure.here
      let checked := checkMembers rules target.properties members
      ⟨.object (Members.mapValues Checked.value checked),
        own ++ propertyFailures target.properties checked ++ unexpectedFailures target members⟩
  | .bool b => withTarget rules shape (.bool b) checkScalar
  | .number n => withTarget rules shape (.number n) checkScalar
  | .string s => withTarget rules shape (.string s) checkScalar

def checkItems (rules : CheckRules) (shape : Shape) :
    Nat → List Json → List Json × List CheckFailure
  | _, [] => ([], [])
  | index, item :: rest =>
    let checked := check rules shape item
    let (converted, failures) := checkItems rules shape (index + 1) rest
    (checked.value :: converted, checked.failures.map (.under (toString index)) ++ failures)

/-- Checks members, each against its property; a member without one stays as it is. -/
def checkMembers (rules : CheckRules) (properties : Members Shape) :
    List (String × Json) → List (String × Checked)
  | [] => []
  | (name, value) :: rest =>
    let checked := match Members.get? properties name with
      | some shape => check rules shape value
      | none => ⟨value, []⟩
    (name, checked) :: checkMembers rules properties rest

end

end Shape

end ArgGuard
