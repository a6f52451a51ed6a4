import ArgGuard.Proofs.Interception.Runs

/-!
# The integrity of guards

Whatever steps a gateway has taken, its guards are in place. Before a layer is installed no resolver
stands behind a guard, and from then on every resolver stands behind one guard, that of the layer that
was installed first; layers that are installed later are turned away. A layer decides by the last
schema that it could take, and an attempt to replace the schema by one that does not fit cannot be
told from no attempt.
-/

namespace ArgGuard.Gateway

variable {m : Type → Type} {layers : List ValidationLayer} {steps : List (Step m)} {gateway : Gateway m}

def inForceAfter (layers : List ValidationLayer) (steps : List (Step m)) : InForce := fun layer =>
  (layers[layer]?.map fun old : ValidationLayer => (old.after (reloads layer steps)).registry).getD {}

/-- The answer to a call of a field: that of the host's resolver, after the registry of the layer that
is installed, if one is, has admitted the arguments. -/
def decided [Pure m] (installed : Option LayerId) (inForce : InForce) (coordinate : Coordinate)
    (run : ResolverCall → m Resolution) (call : ResolverCall) : m Resolution :=
  match installed with
  | none => run call
  | some layer =>
    match (inForce layer).admitted coordinate call with
    | .ok arguments => run { call with arguments }
    | .error failure => pure (.error (.validation failure))

/-- A gateway whose guards are in place after some steps. -/
structure Intact [Pure m] (layers : List ValidationLayer) (steps : List (Step m)) (gateway : Gateway m) :
    Prop where
  /-- No field has two resolvers. -/
  distinct : (Members.names gateway.resolvers.resolvers).Nodup
  /-- Without a layer installed no resolver is wrapped. -/
  bare : firstInstalled steps = none → ∀ coordinate resolver,
    gateway.resolvers.get? coordinate = some resolver →
      gateway.resolvers.isWrapped coordinate = false ∧ resolver.guards = []
  /-- Once a layer is installed its guard, and no other, stands before every resolver. -/
  guarded : ∀ layer, firstInstalled steps = some layer → ∀ coordinate resolver,
    gateway.resolvers.get? coordinate = some resolver →
      gateway.resolvers.isWrapped coordinate = true ∧
        ∃ run, resolver = .guarded layer coordinate (.host run)
  /-- The first layer that is installed comes to stand before all resolvers. -/
  installFirst : firstInstalled steps = none → ∀ layer,
    (gateway.install layer).2 = gateway.resolvers.resolvers.length
  /-- No other layer can be installed after it. -/
  installAgain : firstInstalled steps ≠ none → ∀ layer, gateway.install layer = (gateway, 0)
  /-- A layer has counted the schemas that it took, and has the registry of the last one. -/
  layer : ∀ number (old : ValidationLayer), layers[number]? = some old →
    ∃ current : ValidationLayer, gateway.layers[number]? = some current ∧ current.config = old.config ∧
      current.registry.generation = 1 + (old.config.loads (reloads number steps)).length ∧
      current.registry = { (old.config.loads (reloads number steps)).getLastD old.registry with
        generation := current.registry.generation }
  /-- A schema that does not fit leaves no trace in what follows. -/
  reloadFailed : ∀ number graph error, gateway.reload number graph = .error error → ∀ rest,
    gateway.run (.reload number graph :: rest) =
      ((gateway.run rest).1, .refused error :: (gateway.run rest).2)
  /-- A call is decided by the registry that the installed layer has in force. -/
  call : ∀ coordinate, (gateway.resolvers.get? coordinate).isSome = true →
    ∃ run, lastInserted coordinate steps = some run ∧ ∀ call, gateway.call coordinate call =
      decided (firstInstalled steps) (inForceAfter layers steps) coordinate run call

namespace Records

variable (h : Records layers steps gateway)
include h

theorem inForce_eq : gateway.inForce = inForceAfter layers steps := by
  funext layer
  rw [inForce, inForceAfter, h.layers, Option.map_map]
  rfl

theorem resolver_of_get? {coordinate : Coordinate} {resolver : Resolver m}
    (hget : gateway.resolvers.get? coordinate = some resolver) :
    ∃ run, lastInserted coordinate steps = some run ∧
      resolver = behind (firstInstalled steps) coordinate run := by
  rw [h.resolvers, Option.map_eq_some_iff] at hget
  obtain ⟨run, hrun, rfl⟩ := hget
  exact ⟨run, hrun, rfl⟩

theorem isWrapped_eq {coordinate : Coordinate} {resolver : Resolver m}
    (hget : gateway.resolvers.get? coordinate = some resolver) :
    gateway.resolvers.isWrapped coordinate = (firstInstalled steps).isSome := by
  obtain ⟨run, hrun, -⟩ := h.resolver_of_get? hget
  rw [h.wrapped, hrun, Option.isSome_some, Bool.and_true]

theorem call_eq [Pure m] {coordinate : Coordinate} {run : ResolverCall → m Resolution}
    (hrun : lastInserted coordinate steps = some run) (call : ResolverCall) :
    gateway.call coordinate call =
      decided (firstInstalled steps) (inForceAfter layers steps) coordinate run call := by
  rw [Gateway.call, ResolverMap.resolve, h.resolvers, hrun, h.inForce_eq]
  cases firstInstalled steps <;> rfl

end Records

theorem run_reload_error [Pure m] {number : LayerId} {graph : TypeGraph} {error : LoadError}
    (h : gateway.reload number graph = .error error) (rest : List (Step m)) :
    gateway.run (.reload number graph :: rest) =
      ((gateway.run rest).1, .refused error :: (gateway.run rest).2) := by
  have hstep : gateway.step (.reload number graph) = (gateway, .refused error) := by
    unfold step
    simp only [h]
  rw [run, hstep]

theorem of_ofGraph {config : ValidationConfig} {graph : TypeGraph} {layer : ValidationLayer}
    (h : ValidationLayer.ofGraph config graph = .ok layer) :
    layer.config = config ∧ layer.registry.generation = 1 := by
  unfold ValidationLayer.ofGraph at h
  cases hload : config.load graph with
  | error error => rw [hload] at h; cases h
  | ok registry => rw [hload] at h; cases h; exact ⟨rfl, rfl⟩

/-- After every run of a gateway over new layers the guards are `Intact`. -/
theorem intact_run [Pure m] (layers : List ValidationLayer)
    (hlayers : ∀ layer ∈ layers, ∃ graph, ValidationLayer.ofGraph layer.config graph = .ok layer)
    (steps : List (Step m)) : Intact layers steps (({ layers } : Gateway m).run steps).1 := by
  have h : Records layers steps (({ layers } : Gateway m).run steps).1 := (Records.nil layers).run steps
  revert h
  generalize (({ layers } : Gateway m).run steps).1 = gateway
  intro h
  constructor
  case distinct => exact h.distinct
  case bare =>
    intro hnone coordinate resolver hget
    obtain ⟨run, -, rfl⟩ := h.resolver_of_get? hget
    refine ⟨by rw [h.isWrapped_eq hget, hnone]; rfl, ?_⟩
    rw [hnone]; rfl
  case guarded =>
    intro layer hfirst coordinate resolver hget
    obtain ⟨run, -, rfl⟩ := h.resolver_of_get? hget
    refine ⟨by rw [h.isWrapped_eq hget, hfirst]; rfl, run, ?_⟩
    rw [hfirst]; rfl
  case installFirst =>
    intro hnone layer
    rw [h.install_first hnone]
  case installAgain =>
    intro hsome layer
    obtain ⟨first, hfirst⟩ := Option.ne_none_iff_exists'.1 hsome
    exact h.install_again hfirst layer
  case layer =>
    intro number old hold
    obtain ⟨graph, hgraph⟩ := hlayers old (List.mem_of_getElem? hold)
    refine ⟨old.after (reloads number steps), by rw [h.layers, hold]; rfl, rfl, ?_, rfl⟩
    rw [← (of_ofGraph hgraph).2]
    rfl
  case reloadFailed => exact fun number graph error herror rest => run_reload_error herror rest
  case call =>
    intro coordinate hsome
    obtain ⟨resolver, hget⟩ := Option.isSome_iff_exists.1 hsome
    obtain ⟨run, hrun, -⟩ := h.resolver_of_get? hget
    exact ⟨run, hrun, h.call_eq hrun⟩

/-- The schema of a field that is looked up by a name of some length at least. -/
def lookupGraph (least : Int) : TypeGraph :=
  .ofDefinitions [⟨"Query", [], .object [⟨"lookup",
    [⟨"id", .named "ID" true, [⟨"constraint", [("minLength", .ofInt least)]⟩]⟩],
    .named "String" false, []⟩]⟩]

/-- Two layers are installed between two resolvers of one field, and the schema of the first layer is
replaced, at first by one that does not fit. -/
def lookupSteps : List (Step Id) :=
  [.insert ⟨"Query", "lookup"⟩ fun call => .ok (.object call.arguments), .install 0, .install 1,
    .insert ⟨"Query", "lookup"⟩ fun _ => .ok .null, .reload 0 (lookupGraph (-1)),
    .reload 0 (lookupGraph 8)]

theorem intact_run_lookupSteps :
    ∃ layer, ValidationLayer.ofGraph { dialect := .native } (lookupGraph 4) = .ok layer ∧
      Intact [layer, layer] lookupSteps
        (({ layers := [layer, layer] } : Gateway Id).run lookupSteps).1 := by
  have hfits : (ValidationLayer.ofGraph { dialect := .native } (lookupGraph 4)).isOk = true := by
    decide +kernel
  cases h : ValidationLayer.ofGraph { dialect := .native } (lookupGraph 4) with
  | error error => rw [h] at hfits; cases hfits
  | ok layer =>
    refine ⟨layer, rfl, intact_run [layer, layer] (fun other hother => ⟨lookupGraph 4, ?_⟩) lookupSteps⟩
    have hsame : other = layer := by simpa using hother
    rw [hsame, (of_ofGraph h).1, h]

end ArgGuard.Gateway
