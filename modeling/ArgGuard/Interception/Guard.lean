import ArgGuard.Interception.Failure
import ArgGuard.Registry.Basic

/-!
# The validation of a call

`FieldValidator.validateArguments` decides whether a call may reach its resolver, and with which
arguments. The validator of the argument object speaks first. Every function whose argument is there
speaks after it, even if the validator has refused the call already, so that one answer lists all
that is wrong. Functions see the converted arguments if the validator passed, and the supplied ones
if it did not.
-/

namespace ArgGuard

/-- A call of a field. -/
structure ResolverCall where
  arguments : Members Json
  context : RequestContext
  info : ResolveInfo

namespace ArgumentFunction

/-- The rejection of an argument, if it is there and its function rejects it. -/
def failure? (function : ArgumentFunction) (call : ResolverCall) : Option ArgumentFailure :=
  let argument := function.site.coordinate.argumentName
  match Members.get? call.arguments argument with
  | none => none
  | some value =>
    match function.function.judge
        ⟨function.site, value, call.arguments, call.context, call.info⟩ with
    | .ok () => none
    | .error rejection => some (.ofRejection argument rejection)

end ArgumentFunction

namespace FieldValidator

/-- The arguments after the validator has seen them, and what it found. -/
def checkArguments (field : FieldValidator) (arguments : Members Json) :
    Members Json × List ArgumentFailure :=
  match field.validator.validate (.object arguments) with
  | .ok (.object converted) => (converted, [])
  | .ok _ => (arguments, [])
  | .error failures => (arguments, failures.map .ofSchema)

/-- The arguments to resolve a call with, or all that is wrong with them. -/
def validateArguments (field : FieldValidator) (call : ResolverCall) :
    Except ValidationFailure (Members Json) :=
  let (arguments, schemaFailures) := field.checkArguments call.arguments
  let rejections := field.functions.filterMap fun function =>
    function.failure? { call with arguments }
  match schemaFailures ++ rejections with
  | [] => .ok arguments
  | failures => .error ⟨field.coordinate, failures⟩

end FieldValidator

namespace Registry

/-- The arguments to resolve a call of a field with; a field that is not validated keeps them. -/
def admitted (registry : Registry) (coordinate : Coordinate) (call : ResolverCall) :
    Except ValidationFailure (Members Json) :=
  match registry.field? coordinate with
  | some field => field.validateArguments call
  | none => .ok call.arguments

end Registry

end ArgGuard
