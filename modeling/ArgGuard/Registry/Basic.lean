import ArgGuard.Override.Directive
import ArgGuard.Override.Store
import ArgGuard.Registry.Blueprint

/-!
# Registries

A registry is a compiled blueprint: every unit with its fragment and validator, and for every
validated field the validator of its argument object and the functions that judge arguments. All
fragments are registered before any unit is compiled, since a unit may refer to a type that is
declared later.
-/

namespace ArgGuard

/-- A unit with its validator. -/
structure CompiledUnit where
  id : String
  fragment : Fragment
  validator : Validator

/-- The validation of a field's arguments. -/
structure FieldValidator where
  coordinate : Coordinate
  unitId : String
  validator : Validator
  functions : List ArgumentFunction

/-- The validators of a schema; the generation numbers the schemas that replace one another. -/
structure Registry where
  generation : Nat := 0
  units : List CompiledUnit := []
  fields : List FieldValidator := []

namespace Registry

def unit? (registry : Registry) (id : String) : Option CompiledUnit :=
  registry.units.find? (·.id = id)

def field? (registry : Registry) (coordinate : Coordinate) : Option FieldValidator :=
  registry.fields.find? (·.coordinate = coordinate)

/-- Whether the arguments of a field are validated. -/
def intercepts (registry : Registry) (coordinate : Coordinate) : Bool :=
  (registry.field? coordinate).isSome

section
variable [JsonSchema.Engine]

def registerUnits (options : BackendOptions) (blueprint : Blueprint) :
    Except CompileError Backend :=
  blueprint.units.foldlM (fun backend (id, fragment) => backend.register id fragment)
    (Backend.empty options)

def compileUnit (backend : Backend) (unit : String × Fragment) :
    Except CompileError CompiledUnit :=
  return ⟨unit.1, unit.2, ← backend.compile unit.1⟩

end

/-- Gives a field the validator of its unit. -/
def compileField (units : List CompiledUnit) (field : PlannedField) :
    Except CompileError FieldValidator :=
  match units.find? (·.id = field.unitId) with
  | some unit => .ok ⟨field.coordinate, field.unitId, unit.validator, field.functions⟩
  | none => .error (.unknownUnit field.unitId)

section
variable [JsonSchema.Engine]

def ofBlueprint (options : BackendOptions) (blueprint : Blueprint) :
    Except CompileError Registry := do
  match blueprint.danglingReference? options.dialect with
  | some (source, target) => throw (.unresolvedReference source target)
  | none =>
    let backend ← registerUnits options blueprint
    let units ← blueprint.units.mapM (compileUnit backend)
    let fields ← blueprint.fields.mapM (compileField units)
    return { units, fields }

def compile (options : BackendOptions) (hook : Option InferenceHook) (overrides : Overrides)
    (graph : TypeGraph) : Except CompileError Registry := do
  let inference : Inference := ⟨options.dialect, hook, graph.enumerations⟩
  let blueprint ← Blueprint.ofGraph ⟨inference, overrides⟩ graph
  ofBlueprint options blueprint

end

end Registry

/-- All that a registry is compiled from, apart from the schema. -/
structure ValidationConfig where
  dialect : Dialect := .jsonSchema
  overrides : OverrideStore := {}
  /-- Whether constraints in the schema count as overrides. -/
  usesDirectives : Bool := true
  hook : Option InferenceHook := none
  options : Json := .null

/-- Why a configuration does not fit a schema. -/
inductive LoadError
  | overrides (error : OverrideError)
  | options (error : DecodeError)
  | compile (error : CompileError)

namespace LoadError

/-- The cause of an error, if its own text is shorter than what is known. -/
def cause? : LoadError → Option String
  | options error => some error.message
  | overrides _ | compile _ => none

/-- The text of an error. -/
def message : LoadError → String
  | overrides error => error.message
  | options error => "Invalid backend options: " ++ error.message
  | compile error => error.message

end LoadError

namespace ValidationConfig

/-- The overrides in force for a schema: the declared ones, over those in the schema itself. -/
def effectiveOverrides (config : ValidationConfig) (graph : TypeGraph) :
    Except OverrideError Overrides := do
  let explicit ← config.overrides.resolve graph
  return if config.usesDirectives then explicit.laidOver (.ofDirectives graph) else explicit

/-- Compiles the registry of a schema. Overrides are checked first, then the options. -/
def load (config : ValidationConfig) (graph : TypeGraph) : Except LoadError Registry := do
  let overrides ← (config.effectiveOverrides graph).mapError .overrides
  let options ← (BackendOptions.ofJson config.dialect config.options).mapError .options
  (Registry.compile options config.hook overrides graph).mapError .compile

end ValidationConfig

end ArgGuard
