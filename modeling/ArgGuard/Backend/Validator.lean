import ArgGuard.JsonSchema.Coercion
import ArgGuard.Override.Basic
import ArgGuard.Shape.Checker

/-!
# Validators

A validator is one compiled unit. It holds everything that a check needs, so it goes on answering by
the units that were there when it was compiled. Its answer is the value with its scalars converted,
or all that is wrong with it.
-/

namespace ArgGuard

/-- A compiled unit. -/
inductive Validator
  /-- A unit of the native dialect, with the shapes of all units. -/
  | native (id : String) (rules : CheckRules)
  /-- A unit of JSON Schema: its document and all definitions if scalars are converted, and what the
  engine finds wrong with a value. -/
  | jsonSchema (coercion : Option (Json × Members Json)) (errors : Json → List ValueFailure)

namespace Validator

/-- The value or what is wrong with it. -/
abbrev Outcome := Except (List ValueFailure) Json

def checkUnit (id : String) (rules : CheckRules) (value : Json) : Outcome :=
  match Members.get? rules.table id with
  | none => .error [⟨[], s!"unknown unit '{id}'"⟩]
  | some shape =>
    match (shape.check rules value).result with
    | .ok converted => .ok converted
    | .error failures => .error (failures.map CheckFailure.report)

/-- The validation by a unit of JSON Schema. -/
def checkSchema (coercion : Option (Json × Members Json)) (errors : Json → List ValueFailure)
    (value : Json) : Outcome :=
  let value := match coercion with
    | some (schema, definitions) => JsonSchema.Coercion.coerce definitions schema value
    | none => value
  let failures := errors value
  if failures.isEmpty then .ok value else .error failures

/-- Checks a value. -/
def validate : Validator → Json → Outcome
  | native id rules => checkUnit id rules
  | jsonSchema coercion errors => checkSchema coercion errors

end Validator

end ArgGuard
