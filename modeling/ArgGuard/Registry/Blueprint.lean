import ArgGuard.Backend.Basic
import ArgGuard.Graph.Basic
import ArgGuard.Schema.Synthesis

/-!
# Blueprints

A blueprint is what a schema and its overrides ask to be compiled: the fragments of all units, and
the fields that are validated. Every field with arguments has a unit for its argument object; every
input object has a unit, and one for each of its fields that has a shape. Types are taken in their
order, and a name that two units claim is an error.

An argument that a function judges has no property in the unit of its field, but one that refuses
`null` stays required, since a function sees only the arguments that are there. An argument of which
nothing is known is left out; a field of an input object likewise, unless an override was declared
for it, which then has nothing to refine.
-/

namespace ArgGuard

/-- A function and the argument that it judges. -/
structure ArgumentFunction where
  site : ArgumentSite
  function : ValidationFunction

/-- A validated field before its unit is compiled. -/
structure PlannedField where
  coordinate : Coordinate
  unitId : String
  functions : List ArgumentFunction

/-- The units and fields to compile. -/
structure Blueprint where
  units : Members Fragment := []
  fields : List PlannedField := []

/-- What blueprints are drawn from, beside the graph. -/
structure Drafting where
  inference : Inference
  overrides : Overrides

/-- The content of an object's unit, collected property by property. -/
structure ObjectPlan where
  properties : Members Fragment := []
  required : List String := []
  functions : List ArgumentFunction := []

namespace ObjectPlan

/-- Marks a name as required if its position refuses `null`. -/
def requireIf (plan : ObjectPlan) (position : Position) (name : String) : ObjectPlan :=
  if position.nonNull then { plan with required := plan.required ++ [name] } else plan

def addProperty (plan : ObjectPlan) (position : Position) (name : String) (fragment : Fragment) :
    ObjectPlan :=
  { plan.requireIf position name with properties := Members.set plan.properties name fragment }

def addFunction (plan : ObjectPlan) (function : ArgumentFunction) : ObjectPlan :=
  let site := function.site
  { plan.requireIf site.position site.coordinate.argumentName with
    functions := plan.functions ++ [function] }

end ObjectPlan

namespace Drafting

def dialect (drafting : Drafting) : Dialect := drafting.inference.dialect

/-- Adds what an argument asks for. -/
def planArgument (drafting : Drafting) (type : GraphType) (field : GraphField) (plan : ObjectPlan)
    (argument : GraphArgument) : ObjectPlan :=
  let coordinate : ArgumentCoordinate := ⟨type.name, field.name, argument.name⟩
  let id := drafting.dialect.referenceId type.name (some field.name) (some argument.name)
  match drafting.overrides.argument? coordinate with
  | some (.function function) => plan.addFunction ⟨⟨coordinate, argument.position⟩, function⟩
  | some (.fragment override) =>
    plan.addProperty argument.position argument.name
      (drafting.inference.synthesize argument.position (some override) id)
  | none =>
    let fragment := drafting.inference.synthesize argument.position none id
    if drafting.dialect.hasShape fragment then
      plan.addProperty argument.position argument.name fragment
    else plan

/-- What a field's arguments ask for. -/
def planArguments (drafting : Drafting) (type : GraphType) (field : GraphField) : ObjectPlan :=
  field.arguments.foldl (drafting.planArgument type field) {}

def fieldId (drafting : Drafting) (type : GraphType) (field : GraphField) : String :=
  drafting.dialect.referenceId type.name (some field.name) none

def argumentsFragment (drafting : Drafting) (id : String) (plan : ObjectPlan) : Fragment :=
  drafting.dialect.tag (drafting.dialect.object plan.properties plan.required) id

/-- The fragment of a field of an input object. -/
def inputFragment (drafting : Drafting) (type : GraphType) (field : GraphField) : Fragment :=
  drafting.inference.synthesize field.position
    (drafting.overrides.inputField? ⟨type.name, field.name⟩) (drafting.fieldId type field)

/-- The fragment of an input object. -/
def typeFragment (drafting : Drafting) (type : GraphType) (plan : ObjectPlan) : Fragment :=
  let id := drafting.dialect.referenceId type.name none none
  let base := drafting.dialect.typeUnit plan.properties plan.required
  let merged := match drafting.overrides.type? type.name with
    | some override => drafting.dialect.merge [] base override
    | none => base
  drafting.dialect.tag merged id

end Drafting

namespace Blueprint

/-- Adds a unit under a name that is not taken. -/
def addUnit (blueprint : Blueprint) (id : String) (fragment : Fragment) :
    Except CompileError Blueprint :=
  if Members.contains blueprint.units id then .error (.duplicate id)
  else .ok { blueprint with units := blueprint.units ++ [(id, fragment)] }

/-- Adds a field that takes arguments; one that takes none is not validated. -/
def addField (drafting : Drafting) (type : GraphType) (blueprint : Blueprint)
    (field : GraphField) : Except CompileError Blueprint := do
  if field.arguments.isEmpty then return blueprint
  let id := drafting.fieldId type field
  let plan := drafting.planArguments type field
  let blueprint ← blueprint.addUnit id (drafting.argumentsFragment id plan)
  return { blueprint with
    fields := blueprint.fields ++ [⟨⟨type.name, field.name⟩, id, plan.functions⟩] }

/-- Adds a field of an input object, and its property to the plan of the type. -/
def addInputField (drafting : Drafting) (type : GraphType) (state : Blueprint × ObjectPlan)
    (field : GraphField) : Except CompileError (Blueprint × ObjectPlan) := do
  let (blueprint, plan) := state
  let fragment := drafting.inputFragment type field
  let coordinate : Coordinate := ⟨type.name, field.name⟩
  if drafting.dialect.hasShape fragment then
    let blueprint ← blueprint.addUnit (drafting.fieldId type field) fragment
    return (blueprint, plan.addProperty field.position field.name fragment)
  else if (drafting.overrides.inputField? coordinate).isSome then throw (.untypedField coordinate)
  else return state

/-- Adds an input object after its fields. -/
def addInputType (drafting : Drafting) (blueprint : Blueprint) (type : GraphType) :
    Except CompileError Blueprint := do
  let (blueprint, plan) ← type.fields.foldlM (addInputField drafting type) (blueprint, {})
  blueprint.addUnit (drafting.dialect.referenceId type.name none none)
    (drafting.typeFragment type plan)

def addType (drafting : Drafting) (blueprint : Blueprint) (type : GraphType) :
    Except CompileError Blueprint :=
  if type.isIntrospection then .ok blueprint
  else if type.isInputObject then addInputType drafting blueprint type
  else if type.isOutputObject then type.fields.foldlM (addField drafting type) blueprint
  else .ok blueprint

def ofGraph (drafting : Drafting) (graph : TypeGraph) : Except CompileError Blueprint :=
  graph.types.foldlM (addType drafting) {}

/-- The first reference that leads to no unit, with the unit it stands in. -/
def danglingReference? (dialect : Dialect) (blueprint : Blueprint) : Option (String × String) :=
  blueprint.units.findSome? fun (id, fragment) =>
    ((dialect.references fragment).find? fun target =>
      !Members.contains blueprint.units target).map fun target => (id, target)

end Blueprint

end ArgGuard
