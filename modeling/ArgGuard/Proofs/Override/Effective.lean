import ArgGuard.Proofs.Graph.Folding
import ArgGuard.Proofs.Override.Directive
import ArgGuard.Proofs.Override.Store
import ArgGuard.Registry.Basic

/-!
# The overrides in force

A position may be overridden by the configuration and by directives in the schema, and the registry
is compiled from the two laid over one another. `InForce` tells the outcome position by position,
without the tables: the declaration of the configuration as it stands, or else what the directives of
the position declare one after the other. `effectiveOverrides_inForce` says that this is what the
registry of a schema is compiled from whenever the configuration fits the schema.
-/

namespace ArgGuard

namespace Overrides

/-- Overrides that hold what a store declares for a position, as a whole, and what the directives of
the position declare where the store declares nothing; and hold nothing else. -/
structure InForce (store : OverrideStore) (graph : TypeGraph) (overrides : Overrides) : Prop where
  type : ∀ type ∈ graph.types, type.isIntrospection = false → type.isInputObject = true →
    overrides.type? type.name =
      (store.type? type.name).or (type.directives.foldl addDirective none)
  inputField : ∀ type ∈ graph.types, type.isIntrospection = false → type.isInputObject = true →
    ∀ field ∈ type.fields, overrides.inputField? ⟨type.name, field.name⟩ =
      (store.inputField? ⟨type.name, field.name⟩).or (field.directives.foldl addDirective none)
  argument : ∀ type ∈ graph.types, type.isIntrospection = false → type.isOutputObject = true →
    ∀ field ∈ type.fields, ∀ argument ∈ field.arguments,
      overrides.argument? ⟨type.name, field.name, argument.name⟩ =
        (store.argument? ⟨type.name, field.name, argument.name⟩).or
          ((argument.directives.foldl addDirective none).map .fragment)
  placed : Placed graph overrides

variable {store : OverrideStore} {graph : TypeGraph} {explicit : Overrides}

theorem inForce_laidOver (hgraph : graph.Separates) (hstore : store.Distinct)
    (h : store.resolve graph = .ok explicit) :
    InForce store graph (explicit.laidOver (ofDirectives graph)) := by
  obtain ⟨hplaced, hdistinct⟩ := OverrideStore.placed_resolve h
  constructor
  case type =>
    intro type htype hmeta hkind
    rw [hdistinct.type?_laidOver, OverrideStore.type?_resolve hstore h htype hkind,
      type?_ofDirectives htype hmeta hkind, constraintFragment_eq_foldl]
  case inputField =>
    intro type htype hmeta hkind field hfield
    rw [hdistinct.inputField?_laidOver, OverrideStore.inputField?_resolve hstore h htype hkind,
      inputField?_ofDirectives hgraph htype hmeta hkind hfield, constraintFragment_eq_foldl]
  case argument =>
    intro type htype hmeta hkind field hfield argument hargument
    rw [hdistinct.argument?_laidOver, OverrideStore.argument?_resolve hstore h htype hkind,
      argument?_ofDirectives hgraph htype hmeta hkind hfield hargument, constraintFragment_eq_foldl]
  case placed => exact hplaced.laidOver hdistinct (placed_ofDirectives graph)

end Overrides

namespace ValidationConfig

variable {config : ValidationConfig} {graph : TypeGraph} {overrides : Overrides}

theorem load_eq (h : config.effectiveOverrides graph = .ok overrides) :
    config.load graph = ((BackendOptions.ofJson config.dialect config.options).mapError .options).bind
      fun options => (Registry.compile options config.hook overrides graph).mapError .compile := by
  rw [load, h]
  rfl

theorem load_eq_ok_iff (h : config.effectiveOverrides graph = .ok overrides) {registry : Registry} :
    config.load graph = .ok registry ↔ ∃ options, BackendOptions.ofJson config.dialect config.options = .ok options ∧
      Registry.compile options config.hook overrides graph = .ok registry := by
  have hbind : config.load graph = ((BackendOptions.ofJson config.dialect config.options).mapError .options) >>=
      fun options => (Registry.compile options config.hook overrides graph).mapError .compile := load_eq h
  simp only [hbind, bind_eq_ok_iff, mapError_eq_ok_iff]

/-- `load` compiles the overrides that are `InForce` position by position, where a type carries the
directives of all its definitions. -/
theorem effectiveOverrides_inForce (config : ValidationConfig) (graph : TypeGraph)
    (hdirectives : config.usesDirectives = true) (hgraph : graph.Separates)
    (hstore : config.overrides.Distinct) (hfits : (config.overrides.resolve graph).isOk = true) :
    (∃ overrides, config.effectiveOverrides graph = .ok overrides ∧
      overrides.InForce config.overrides graph ∧
      config.load graph =
        ((BackendOptions.ofJson config.dialect config.options).mapError .options).bind fun options =>
          (Registry.compile options config.hook overrides graph).mapError .compile) ∧
    ∀ definitions, graph = .ofDefinitions definitions → ∀ type ∈ graph.types,
      type.directives = TypeGraph.directivesOf definitions type.name := by
  constructor
  · obtain ⟨explicit, h⟩ := exists_ok_of_isOk hfits
    have heffective : config.effectiveOverrides graph =
        .ok (explicit.laidOver (.ofDirectives graph)) := by
      rw [effectiveOverrides, h, hdirectives]
      rfl
    exact ⟨_, heffective, Overrides.inForce_laidOver hgraph hstore h, load_eq heffective⟩
  · rintro definitions rfl type htype
    exact TypeGraph.directives_ofDefinitions htype

/-- A query with constraints on two arguments, and an input object that is constrained twice, by its
definition and by an extension. -/
def notesDefinitions : List TypeDefinition :=
  [⟨"Query", [], .object [⟨"notes",
      [⟨"filter", .named "NoteFilter" false, []⟩,
        ⟨"limit", .named "Int" false, [⟨"constraint", [("maximum", .ofInt 50)]⟩]⟩,
        ⟨"token", .named "String" false, [⟨"constraint", []⟩]⟩],
      .list (.named "String" false) false, []⟩]⟩,
    ⟨"NoteFilter", [⟨"constraint", [("minProperties", .ofInt 1)]⟩],
      .inputObject [⟨"text", .named "String" false,
        [⟨"constraint", [("minLength", .ofInt 3)]⟩, ⟨"constraint", [("maxLength", .ofInt 20)]⟩]⟩]⟩,
    ⟨"NoteFilter", [⟨"constraint", [("maxProperties", .ofInt 2), ("minProperties", .ofInt 2)]⟩],
      .inputObject [⟨"author", .named "ID" false, [⟨"deprecated", []⟩]⟩]⟩]

/-- Overrides that leave the input object itself to the schema, and take over one of its fields and an
argument. -/
def notesDocument : Json :=
  .object [("NoteFilter", .object [("$type", .null), ("text", .object [("pattern", .string "[a-z]+")])]),
    ("Query", .object [("notes", .object [("limit", .object [("minimum", .ofInt 1)])])])]

/-- A third argument is left to a function that admits everything. -/
def notesConfig (store : OverrideStore) : ValidationConfig where
  overrides := store.argumentFunction ⟨"Query", "notes", "token"⟩ ⟨fun _ => .ok ()⟩

theorem effectiveOverrides_inForce_notes :
    ∃ store, OverrideStore.ofJson notesDocument = .ok store ∧
      ∃ overrides, (notesConfig store).effectiveOverrides (.ofDefinitions notesDefinitions) =
          .ok overrides ∧
        overrides.InForce (notesConfig store).overrides (.ofDefinitions notesDefinitions) := by
  have hfits : ((OverrideStore.ofJson notesDocument).toOption.any fun store =>
      ((notesConfig store).overrides.resolve (.ofDefinitions notesDefinitions)).isOk) = true := by
    decide +kernel
  obtain ⟨store, h, hfits⟩ := exists_ok_of_any hfits
  have hstore : store.Distinct := OverrideStore.distinct_ofJson (by decide +kernel) h
  obtain ⟨⟨overrides, hok, hforce, -⟩, -⟩ := effectiveOverrides_inForce (notesConfig store)
    (.ofDefinitions notesDefinitions) rfl ⟨by decide +kernel, by decide +kernel⟩
    (hstore.declareArgument _ _) hfits
  exact ⟨store, h, overrides, hok, hforce⟩

end ValidationConfig

end ArgGuard
