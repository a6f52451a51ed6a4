import ArgGuard.Proofs.Override.Effective
import ArgGuard.Proofs.Registry.Coverage
import ArgGuard.Proofs.Registry.Success
import ArgGuard.Proofs.Schema.Misfits

/-!
# No constraint is dropped for its form

All fragments are read before a native registry is there, those of arguments within the unit of their field.
So a schema is not loaded under an override that does not fit its position, be it declared or written into
the schema (`misfit_refused`).
-/

namespace ArgGuard

variable {drafting : Drafting} {graph : TypeGraph} {overrides : Overrides} {type : GraphType}
  {field : GraphField} {argument : GraphArgument} {position : Position} {override : Fragment} {name : String}

/-- The last argument of a name, which is the one that the unit of the field describes. -/
def GraphField.lastArgument? (field : GraphField) (name : String) : Option GraphArgument :=
  field.arguments.reverse.find? (·.name = name)

/-- A fragment that is laid over the position of an argument or of a field of an input object. -/
inductive Overrides.Refines (overrides : Overrides) (graph : TypeGraph) : Position → Fragment → Prop
  | argument {type : GraphType} {field : GraphField} {argument : GraphArgument} {override : Fragment}
      (htakes : graph.TakesArguments type field) (hlast : field.lastArgument? argument.name = some argument)
      (hoverride : overrides.argument? ⟨type.name, field.name, argument.name⟩ = some (.fragment override)) :
      Refines overrides graph argument.position override
  | inputField {type : GraphType} {field : GraphField} {override : Fragment} (htype : graph.HasInput type)
      (hfield : field ∈ type.fields)
      (hoverride : overrides.inputField? ⟨type.name, field.name⟩ = some override) :
      Refines overrides graph field.position override

namespace Drafting

theorem get?_planArguments (hlast : field.lastArgument? name = some argument)
    (hoverride : drafting.overrides.argument? ⟨type.name, field.name, name⟩ = some (.fragment override)) :
    Members.get? (drafting.planArguments type field).properties name =
      some (drafting.argumentFragment type field argument) := by
  obtain ⟨hname, after, before, heq, hafter⟩ := List.find?_eq_some_iff_append.1 hlast
  obtain rfl : argument.name = name := of_decide_eq_true hname
  have harguments : field.arguments = before.reverse ++ argument :: after.reverse := by
    rw [← List.reverse_reverse field.arguments, heq]
    simp
  have hstep : ∀ plan : ObjectPlan, Members.get? (drafting.planArgument type field plan argument).properties
      argument.name = some (drafting.argumentFragment type field argument) := by
    intro plan
    have hcoordinate : drafting.overrides.argument? (argumentCoordinate type field argument) =
        some (.fragment override) := hoverride
    rw [planArgument_eq, hcoordinate]
    exact ObjectPlan.asks_addProperty.property
  rw [planArguments, harguments, List.foldl_append, List.foldl_cons]
  -- the arguments after it have other names
  refine List.foldlRecOn (motive := fun plan : ObjectPlan => Members.get? plan.properties argument.name =
    some (drafting.argumentFragment type field argument)) after.reverse _ (hstep _)
    fun plan hplan other hother => ?_
  have hne : other.name ≠ argument.name := by simpa using hafter other (List.mem_reverse.1 hother)
  exact (touches_planArgument.properties argument.name hne.symm).trans hplan

variable (h : drafting.Compilable graph) (hdialect : drafting.dialect = .native)
include h hdialect

/-- Where a graph is `Compilable`, the fragment of a position that an override `Refines` is read as a shape.
-/
theorem Compilable.refined_readable (hrefines : drafting.overrides.Refines graph position override) :
    ∃ id shape, Shape.ofFragment (drafting.inference.synthesize position (some override) id) = .ok shape := by
  cases hrefines with
  | @argument type field argument _ htakes hlast hoverride =>
    have hunit : drafting.argumentsUnit type field ∈ drafting.units graph :=
      List.mem_flatMap.2 ⟨type, htakes.declared, mem_typeUnits_iff.2
        ⟨htakes.plain, .inr (.inr ⟨htakes.output, field, htakes.callable, rfl⟩)⟩⟩
    obtain ⟨shape, hread⟩ := h.readable _ hunit
    rw [argumentsUnit_eq hdialect, Shape.ofFragment_tag] at hread
    obtain ⟨final, hadded, -⟩ := Shape.ofFragment_object hread
    have hproperty := get?_planArguments hlast hoverride
    have hnames : (Members.names ((drafting.planArguments type field).properties.map
        fun entry => (entry.1, Json.object entry.2))).Nodup := by
      rw [Members.names_mapEntries fun _ fragment => Json.object fragment]
      exact nodup_planArguments
    obtain ⟨inner, property, heq, hinner, -⟩ := hadded.get?_of_mem hnames
      (List.mem_map.2 ⟨_, Members.mem_of_get? hproperty, rfl⟩)
    cases heq
    rw [argumentFragment, argumentOverride, argumentCoordinate, hoverride] at hinner
    exact ⟨_, property, hinner⟩
  | @inputField type field _ htype hfield hoverride =>
    have htyped := h.typed type htype.declared htype.plain htype.input field hfield
    rw [isUntyped, hoverride, Option.isSome_some, Bool.and_true, Bool.not_eq_false'] at htyped
    have hunit : drafting.inputUnit type field ∈ drafting.units graph :=
      List.mem_flatMap.2 ⟨type, htype.declared, mem_typeUnits_iff.2
        ⟨htype.plain, .inl ⟨htype.input, field, List.mem_filter.2 ⟨hfield, htyped⟩, rfl⟩⟩⟩
    obtain ⟨shape, hread⟩ := h.readable _ hunit
    rw [inputUnit, inputFragment, hoverride] at hread
    exact ⟨_, shape, hread⟩

end Drafting

namespace ValidationConfig

theorem native_of_ofJson {document : Json} {options : BackendOptions}
    (h : BackendOptions.ofJson .native document = .ok options) : ∃ native, options = .native native := by
  unfold BackendOptions.ofJson at h
  split at h
  · cases h
    exact ⟨{}, rfl⟩
  · cases hread : NativeOptions.ofJson document with
    | error error => rw [hread] at h; cases h
    | ok native => rw [hread] at h; cases h; exact ⟨native, rfl⟩

/-- In the native dialect `load` fails under an override that `Misfits` its position. -/
theorem misfit_refused (config : ValidationConfig) (graph : TypeGraph) (hdialect : config.dialect = .native)
    {overrides : Overrides} (heffective : config.effectiveOverrides graph = .ok overrides)
    {position : Position} {override : Fragment} (hrefines : overrides.Refines graph position override)
    (hleaf : position.leaf ≠ .inputObject) (hmisfits : Misfits position override) :
    ∃ error, config.load graph = .error error := by
  cases hload : config.load graph with
  | error error => exact ⟨error, rfl⟩
  | ok registry =>
    obtain ⟨options, hoptions, hcompile⟩ := (load_eq_ok_iff heffective).1 hload
    rw [hdialect] at hoptions
    obtain ⟨native, rfl⟩ := native_of_ofJson hoptions
    have hcompilable := Registry.compile_total_iff.1 ⟨registry, hcompile⟩
    obtain ⟨id, shape, hread⟩ := hcompilable.refined_readable rfl hrefines
    exact absurd hread (Inference.synthesize_unreadable rfl hleaf hmisfits id shape)

/-- A query over lists of lists of terms, with a constraint on them in the schema. -/
def termsDocument (constraint : Fragment) : List TypeDefinition :=
  [⟨"Query", [], .object [⟨"search",
    [⟨"terms", .list (.list (.named "String" true) false) true, [⟨"constraint", constraint⟩]⟩],
    .named "Int" false, []⟩]⟩]

def termsPosition : Position := .list (.list (.named "String" (.builtin .string) true) false) true

theorem termsDocument_refines (constraint override : Fragment)
    (h : (Overrides.ofDirectives (.ofDefinitions (termsDocument constraint))).argument?
      ⟨"Query", "search", "terms"⟩ = some (.fragment override)) :
    (Overrides.ofDirectives (.ofDefinitions (termsDocument constraint))).Refines
      (.ofDefinitions (termsDocument constraint)) termsPosition override := by
  have hplain : "__".toList.isPrefixOf "Query".toList = false := by decide
  have htakes : (TypeGraph.ofDefinitions (termsDocument constraint)).TakesArguments
      ⟨"Query", .object, [⟨"search", .named "Int" (.builtin .int) false,
        [⟨"terms", termsPosition, [⟨"constraint", constraint⟩]⟩], []⟩], [], []⟩
      ⟨"search", .named "Int" (.builtin .int) false,
        [⟨"terms", termsPosition, [⟨"constraint", constraint⟩]⟩], []⟩ :=
    ⟨List.mem_singleton.2 rfl, hplain, rfl, List.mem_singleton.2 rfl⟩
  exact .argument htakes (List.find?_cons_of_pos (decide_eq_true rfl)) h

/-- A constraint with a negative length, two lists further in. -/
def negativeLength : Fragment :=
  [("minItems", .ofInt 1), ("items", .object [("items", .object [("minLength", .ofInt (-1))])])]

theorem misfit_refused_terms :
    Misfits termsPosition negativeLength ∧
      ∃ overrides, effectiveOverrides { dialect := .native } (.ofDefinitions (termsDocument negativeLength)) =
          .ok overrides ∧
        overrides.Refines (.ofDefinitions (termsDocument negativeLength)) termsPosition negativeLength ∧
        ∃ error, load { dialect := .native } (.ofDefinitions (termsDocument negativeLength)) = .error error := by
  have hmisfits : Misfits termsPosition negativeLength := by
    refine .items rfl (.items rfl (.here (by decide) (by decide) List.mem_cons_self ?_))
    intro value hvalue
    obtain rfl : value = .ofInt (-1) := by simpa using hvalue
    rfl
  have hrefines := termsDocument_refines negativeLength negativeLength rfl
  exact ⟨hmisfits, _, rfl, hrefines,
    misfit_refused { dialect := .native } _ rfl rfl hrefines (by decide) hmisfits⟩

/-- At a list, `items` that is no object is dropped instead of refused. -/
theorem misfit_items_ignored :
    Shape.reads "items" (.ofInt 5) = false ∧
      ∃ overrides, effectiveOverrides { dialect := .native }
          (.ofDefinitions (termsDocument [("items", .ofInt 5)])) = .ok overrides ∧
        overrides.Refines (.ofDefinitions (termsDocument [("items", .ofInt 5)])) termsPosition
          [("items", .ofInt 5)] ∧
        ∃ registry, load { dialect := .native } (.ofDefinitions (termsDocument [("items", .ofInt 5)])) =
          .ok registry := by
  refine ⟨rfl, _, rfl, termsDocument_refines _ _ rfl, exists_ok_of_isOk ?_⟩
  decide +kernel

end ValidationConfig

end ArgGuard
