import ArgGuard.Backend.Options
import ArgGuard.Backend.Validator
import ArgGuard.JsonSchema.Engine
import ArgGuard.Shape.Parser

/-!
# Backends

A backend holds fragments by the names of their units and compiles a unit into a validator. A
registration or compilation that fails leaves the backend as it was. A fragment of JSON Schema is
checked when it is registered; a native fragment is read when some unit is compiled, and then the
first fragment that is no shape is the error, whichever unit was asked for.
-/

namespace ArgGuard

/-- Why a unit or a registry cannot be compiled. -/
inductive CompileError
  | backend (id : String) (reason : String)
  | wrongPlace (id : String)
  | illFormed (id : String)
  | invalidShape (id : String) (error : ShapeError)
  | untypedField (coordinate : Coordinate)
  | unresolvedReference (source target : String)
  | duplicate (id : String)
  | unknownUnit (id : String)
deriving DecidableEq, Repr

namespace CompileError

/-- The text of a fault in a fragment. -/
def invalidFragment (id reason : String) : String := s!"Invalid fragment in '{id}': {reason}"

/-- The text of an error. -/
def message : CompileError → String
  | backend id reason => s!"Backend failed to compile '{id}': {reason}"
  | wrongPlace id =>
    invalidFragment id s!"reference id must start with '{JsonSchema.definitionsPath}'"
  | illFormed id => invalidFragment id "not a well-formed schema"
  | invalidShape id error => invalidFragment id error.message
  | untypedField coordinate =>
    s!"Could not determine a shape for '{coordinate.text}', but an override was supplied for it"
  | unresolvedReference source target =>
    s!"'{source}' refers to '{target}', which was never registered"
  | duplicate id => s!"'{id}' was registered more than once"
  | unknownUnit id => s!"Nothing registered under '{id}'"

end CompileError

/-- Registered fragments by the names of their units, in order of registration. -/
structure Backend where
  options : BackendOptions
  units : Members Fragment := []

namespace Backend

/-- A backend without units. -/
def empty (options : BackendOptions) : Backend := { options }

def dialect (backend : Backend) : Dialect := backend.options.dialect

/-- Puts a fragment under a name that is not taken. -/
def add (backend : Backend) (id : String) (fragment : Fragment) : Backend :=
  { backend with units := backend.units ++ [(id, fragment)] }

section
variable [JsonSchema.Engine]

/-- What is wrong with a fragment before it is registered. -/
def fault? (backend : Backend) (id : String) (fragment : Fragment) : Option CompileError :=
  let taken := Members.contains backend.units id
  match backend.options with
  | .native _ => if taken then some (.duplicate id) else none
  | .jsonSchema options =>
    if (JsonSchema.afterText? JsonSchema.definitionsPath id).isNone then some (.wrongPlace id)
    else if taken then some (.duplicate id)
    else if JsonSchema.Engine.admits options.draft (.object fragment) then none
    else some (.illFormed id)

def register (backend : Backend) (id : String) (fragment : Fragment) :
    Except CompileError Backend :=
  match backend.fault? id fragment with
  | some error => .error error
  | none => .ok (backend.add id fragment)

end

def readShape (unit : String × Fragment) : Except CompileError (String × Shape) :=
  match Shape.ofFragment unit.2 with
  | .ok shape => .ok (unit.1, shape)
  | .error error => .error (.invalidShape unit.1 error)

def shapes (backend : Backend) : Except CompileError UnitTable :=
  backend.units.mapM readShape

/-- The definitions of the document in which all units stand. -/
def definitions (backend : Backend) : Members Json :=
  backend.units.map fun (id, fragment) =>
    ((JsonSchema.afterText? JsonSchema.definitionsPath id).getD id, .object fragment)

def document (backend : Backend) : Json :=
  .object [("definitions", .object backend.definitions)]

section
variable [JsonSchema.Engine]

/-- Compiles a unit of JSON Schema. -/
def linkUnit (backend : Backend) (options : JsonSchemaOptions) (id : String)
    (fragment : Fragment) : Except CompileError Validator := do
  let loaded ← (JsonSchema.Engine.load options.draft backend.document).mapError (.backend id)
  let errors ← (JsonSchema.Engine.prepare options.draft options.reading loaded id).mapError
    (.backend id)
  let coercion :=
    if options.coercing then some (.object fragment, backend.definitions) else none
  return .jsonSchema coercion errors

def compile (backend : Backend) (id : String) : Except CompileError Validator :=
  match Members.get? backend.units id with
  | none => .error (.unknownUnit id)
  | some fragment =>
    match backend.options with
    | .native options =>
      return .native id ⟨← backend.shapes, options.coercing⟩
    | .jsonSchema options => backend.linkUnit options id fragment

end

end Backend

end ArgGuard
