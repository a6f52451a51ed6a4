import ArgGuard.Interception.ResolverMap

/-!
# Validation layers

A layer keeps the registry of a schema in force and replaces it when the schema is replaced. A
schema that its configuration does not fit changes nothing. A gateway is a number of layers and the
resolvers that they are installed before.
-/

namespace ArgGuard

/-- A configuration with the registry that is in force under it. -/
structure ValidationLayer where
  config : ValidationConfig
  registry : Registry

namespace ValidationLayer

/-- The layer of a first schema. -/
def ofGraph (config : ValidationConfig) (graph : TypeGraph) : Except LoadError ValidationLayer :=
  (config.load graph).map fun registry => ⟨config, { registry with generation := 1 }⟩

/-- The layer after its schema was replaced. -/
def reload (layer : ValidationLayer) (graph : TypeGraph) : Except LoadError ValidationLayer :=
  (layer.config.load graph).map fun registry =>
    { layer with registry := { registry with generation := layer.registry.generation + 1 } }

end ValidationLayer

/-- Layers, and the resolvers that they may stand before. -/
structure Gateway (m : Type → Type) where
  layers : List ValidationLayer := []
  resolvers : ResolverMap m := {}

namespace Gateway

variable {m : Type → Type}

/-- The registries in force; a number without a layer has the empty one, which admits all calls. -/
def inForce (gateway : Gateway m) : InForce := fun layer =>
  ((gateway.layers[layer]?).map ValidationLayer.registry).getD {}

/-- Adds a layer; its number is the count of those before it. -/
def addLayer (gateway : Gateway m) (config : ValidationConfig) (graph : TypeGraph) :
    Except LoadError (Gateway m) :=
  (ValidationLayer.ofGraph config graph).map fun layer =>
    { gateway with layers := gateway.layers ++ [layer] }

/-- Replaces the schema of a layer. A number without a layer changes nothing. -/
def reload (gateway : Gateway m) (layer : LayerId) (graph : TypeGraph) :
    Except LoadError (Gateway m) :=
  match gateway.layers[layer]? with
  | none => .ok gateway
  | some old =>
    (old.reload graph).map fun fresh =>
      { gateway with layers := gateway.layers.set layer fresh }

/-- Enters a resolver. -/
def insert (gateway : Gateway m) (coordinate : Coordinate) (resolver : Resolver m) : Gateway m :=
  { gateway with resolvers := gateway.resolvers.insert coordinate resolver }

/-- Puts a wrapper before all resolvers and answers how many it came to stand before. -/
def wrapAll (gateway : Gateway m) (wrapper : ResolverWrapper m) : Gateway m × Nat :=
  let (resolvers, count) := gateway.resolvers.wrapAll wrapper
  ({ gateway with resolvers }, count)

/-- Puts the guard of a layer before all resolvers. -/
def install (gateway : Gateway m) (layer : LayerId) : Gateway m × Nat :=
  gateway.wrapAll (Resolver.guardOf layer)

/-- Answers a call of a field by the registries in force. -/
def call [Pure m] (gateway : Gateway m) (coordinate : Coordinate) (call : ResolverCall) :
    m Resolution :=
  gateway.resolvers.resolve gateway.inForce coordinate call

end Gateway

end ArgGuard
