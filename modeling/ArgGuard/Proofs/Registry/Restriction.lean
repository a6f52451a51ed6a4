import ArgGuard.Proofs.Registry.Compiled
import ArgGuard.Proofs.Registry.Plans
import ArgGuard.Proofs.Schema.Restriction

/-!
# Overrides that only restrict

Fragments laid over built-in scalars, and over lists of them, cannot make a field accept more. Two
registries are compared: one is drawn with the overrides and one is `bare`. Their units have the same
names in the same order and narrow each other (`Refining.typeUnits_paired`), so the shapes of one table
restrict those of the other, and what a validator with overrides answers the one without answers too
(`overrides_restrict`).
-/

namespace ArgGuard

/-- Overrides that are fragments, for arguments and fields of which the leaf is a built-in scalar. -/
structure Overrides.RefineScalars (overrides : Overrides) (graph : TypeGraph) : Prop where
  types : overrides.types = []
  arguments : ∀ type ∈ graph.types, ∀ field ∈ type.fields, ∀ argument ∈ field.arguments, ∀ override,
    overrides.argument? ⟨type.name, field.name, argument.name⟩ = some override →
      (∃ fragment, override = .fragment fragment) ∧ ∃ scalar, argument.position.leaf = .builtin scalar
  inputFields : ∀ type ∈ graph.types, type.isInputObject = true → ∀ field ∈ type.fields, ∀ fragment,
    overrides.inputField? ⟨type.name, field.name⟩ = some fragment →
      ∃ scalar, field.position.leaf = .builtin scalar

/-- Of two plans the properties of the first narrow those of the second, and all else is the same. -/
structure ObjectPlan.Narrows (plan other : ObjectPlan) : Prop where
  properties : Members.Paired ArgGuard.Narrows plan.properties other.properties
  required : plan.required = other.required
  functions : plan.functions = other.functions

namespace ObjectPlan.Narrows

variable {plan other : ObjectPlan} {fragment plain : Fragment}

theorem addProperty (h : plan.Narrows other) (position : Position) (name : String)
    (hfragment : ArgGuard.Narrows fragment plain) :
    (plan.addProperty position name fragment).Narrows (other.addProperty position name plain) where
  properties := h.properties.set name hfragment
  required := by simp only [addProperty_required, requireIf_required, h.required]
  functions := by simp only [addProperty_functions, h.functions]

end ObjectPlan.Narrows

namespace Drafting

/-- The same without overrides. -/
def bare (drafting : Drafting) : Drafting := ⟨drafting.inference, {}⟩

/-- A drafting by plain inference whose overrides only refine scalars. -/
structure Refining (drafting : Drafting) (graph : TypeGraph) : Prop where
  plain : drafting.inference.IsPlain .native
  overrides : drafting.overrides.RefineScalars graph
  classified : graph.Classified

namespace Refining

variable {drafting : Drafting} {graph : TypeGraph} {type : GraphType} {field : GraphField}
  (h : drafting.Refining graph)
include h

theorem dialect_bare : drafting.bare.dialect = .native := h.plain.dialect

variable (htype : type ∈ graph.types)
include htype

/-! ### Arguments -/

theorem argumentFragment_narrows {argument : GraphArgument} (hfield : field ∈ type.fields)
    (hargument : argument ∈ field.arguments) :
    Narrows (drafting.argumentFragment type field argument)
      (drafting.bare.argumentFragment type field argument) := by
  unfold argumentFragment argumentOverride
  cases ho : drafting.overrides.argument? (argumentCoordinate type field argument) with
  | none => exact .refl _
  | some override =>
    obtain ⟨⟨fragment, rfl⟩, scalar, hleaf⟩ := h.overrides.arguments type htype field hfield argument
      hargument override ho
    have hname := ((h.classified type htype field hfield).2 argument hargument).builtin hleaf
    exact h.plain.synthesize_narrows hname hleaf _ _

theorem planArgument_narrows {argument : GraphArgument} {plan other : ObjectPlan}
    (hfield : field ∈ type.fields) (hargument : argument ∈ field.arguments)
    (hplan : plan.Narrows other) :
    (drafting.planArgument type field plan argument).Narrows
      (drafting.bare.planArgument type field other argument) := by
  have hnarrows := h.argumentFragment_narrows htype hfield hargument
  rw [planArgument_eq, planArgument_eq,
    show drafting.bare.overrides.argument? (argumentCoordinate type field argument) = none from rfl]
  cases ho : drafting.overrides.argument? (argumentCoordinate type field argument) with
  | none =>
    have hsame : drafting.bare.argumentFragment type field argument =
        drafting.argumentFragment type field argument := by
      simp only [argumentFragment, argumentOverride, ho]
      rfl
    rw [hsame, show drafting.bare.dialect = drafting.dialect from rfl]
    by_cases hs : drafting.dialect.hasShape (drafting.argumentFragment type field argument) = true
    · simp only [hs, if_true]
      exact hplan.addProperty _ _ (.refl _)
    · simp only [hs]
      exact hplan
  | some override =>
    obtain ⟨⟨fragment, rfl⟩, scalar, hleaf⟩ := h.overrides.arguments type htype field hfield argument
      hargument override ho
    have hname := ((h.classified type htype field hfield).2 argument hargument).builtin hleaf
    have hshape : drafting.bare.dialect.hasShape
        (drafting.bare.argumentFragment type field argument) = true := by
      rw [h.dialect_bare]
      exact h.plain.hasShape_synthesize hname hleaf _ _
    simp only [hshape, if_true]
    exact hplan.addProperty _ _ hnarrows

theorem planArguments_narrows (hfield : field ∈ type.fields) :
    (drafting.planArguments type field).Narrows (drafting.bare.planArguments type field) := by
  unfold planArguments
  exact List.foldl_rel (⟨.nil, rfl, rfl⟩ : ObjectPlan.Narrows {} {}) fun argument hargument _ _ hplan =>
    h.planArgument_narrows htype hfield hargument hplan

theorem argumentsUnit_narrows (hfield : field ∈ type.fields) :
    (drafting.argumentsUnit type field).1 = (drafting.bare.argumentsUnit type field).1 ∧
      Narrows (drafting.argumentsUnit type field).2 (drafting.bare.argumentsUnit type field).2 := by
  have hplan := h.planArguments_narrows htype hfield
  refine ⟨rfl, ?_⟩
  rw [argumentsUnit_eq h.plain.dialect, argumentsUnit_eq h.dialect_bare, hplan.required]
  exact .object nodup_planArguments nodup_planArguments hplan.properties.get?

/-! ### Fields of input objects -/

section
variable (hinput : type.isInputObject = true) (hfield : field ∈ type.fields)
include hinput hfield

theorem inputFragment_cases :
    drafting.inputFragment type field = drafting.bare.inputFragment type field ∨
      ∃ scalar, field.position.leaf = .builtin scalar ∧
        Builtin.ofName? field.position.leafName = some scalar := by
  cases ho : drafting.overrides.inputField? ⟨type.name, field.name⟩ with
  | none =>
    refine .inl ?_
    rw [inputFragment, ho]
    rfl
  | some fragment =>
    obtain ⟨scalar, hleaf⟩ := h.overrides.inputFields type htype hinput field hfield fragment ho
    exact .inr ⟨scalar, hleaf, (h.classified type htype field hfield).1.builtin hleaf⟩

theorem inputFragment_narrows :
    Narrows (drafting.inputFragment type field) (drafting.bare.inputFragment type field) := by
  rcases h.inputFragment_cases htype hinput hfield with hsame | ⟨scalar, hleaf, hname⟩
  · rw [hsame]; exact .refl _
  · exact h.plain.synthesize_narrows hname hleaf _ _

theorem hasUnit_bare : drafting.bare.hasUnit type field = drafting.hasUnit type field := by
  rw [hasUnit, hasUnit, h.dialect_bare, show drafting.dialect = .native from h.plain.dialect]
  rcases h.inputFragment_cases htype hinput hfield with hsame | ⟨scalar, hleaf, hname⟩
  · rw [hsame]
  · have hshape := fun override => h.plain.hasShape_synthesize hname hleaf override
      (drafting.fieldId type field)
    exact (hshape none).trans (hshape _).symm

end

theorem shapedFields_bare (hinput : type.isInputObject = true) :
    drafting.bare.shapedFields type = drafting.shapedFields type :=
  List.filter_congr fun _ hfield => h.hasUnit_bare htype hinput hfield

theorem inputPlan_narrows (hinput : type.isInputObject = true) :
    (drafting.inputPlan type).Narrows (drafting.bare.inputPlan type) := by
  unfold inputPlan
  rw [h.shapedFields_bare htype hinput]
  exact List.foldl_rel (⟨.nil, rfl, rfl⟩ : ObjectPlan.Narrows {} {}) fun field hfield _ _ hplan =>
    hplan.addProperty _ _ (h.inputFragment_narrows htype hinput (List.mem_filter.1 hfield).1)

theorem typeUnit_narrows (hinput : type.isInputObject = true) :
    Narrows (drafting.typeUnit type).2 (drafting.bare.typeUnit type).2 := by
  have hplan := h.inputPlan_narrows htype hinput
  rw [typeUnit_eq h.plain.dialect h.overrides.types, typeUnit_eq h.dialect_bare rfl, hplan.required]
  exact .object nodup_inputPlan nodup_inputPlan hplan.properties.get?

/-! ### All units -/

theorem typeUnits_paired :
    Members.Paired Narrows (drafting.typeUnits type) (drafting.bare.typeUnits type) := by
  unfold typeUnits
  split
  · exact .nil
  · split
    · rename_i hinput
      rw [h.shapedFields_bare htype hinput]
      refine List.rel_append ?_ ?_
      · refine List.forall₂_map_left_iff.2 (List.forall₂_map_right_iff.2 (List.forall₂_same.2 ?_))
        exact fun field hfield =>
          ⟨rfl, h.inputFragment_narrows htype hinput (List.mem_filter.1 hfield).1⟩
      · exact .cons ⟨rfl, h.typeUnit_narrows htype hinput⟩ .nil
    · split
      · refine List.forall₂_map_left_iff.2 (List.forall₂_map_right_iff.2 (List.forall₂_same.2 ?_))
        exact fun field hfield => h.argumentsUnit_narrows htype (List.mem_filter.1 hfield).1
      · exact .nil

theorem typeFields_bare : drafting.bare.typeFields type = drafting.typeFields type := by
  unfold typeFields
  split
  · rfl
  · split
    · rfl
    · split
      · refine List.map_congr_left fun field hfield => ?_
        rw [plannedField, plannedField,
          (h.planArguments_narrows htype (List.mem_filter.1 hfield).1).functions]
        rfl
      · rfl

end Refining

end Drafting

namespace Registry

variable {options : NativeOptions} {graph : TypeGraph} {drafting : Drafting}
  {blueprint bareBlueprint : Blueprint} {table bareTable : UnitTable} {registry bareRegistry : Registry}

/-- `Narrows` on units becomes `Restricts` on the shapes that are read from them. -/
theorem rel_of_reads {units bareUnits : Members Fragment} (hunits : Members.Paired Narrows units bareUnits)
    (hreads : table.Reads units) (hbare : bareTable.Reads bareUnits) (id : String) :
    Option.Rel Shape.Restricts (Members.get? table id) (Members.get? bareTable id) := by
  refine Members.Paired.get? ?_ id
  induction hunits generalizing table bareTable with
  | nil => cases hreads; cases hbare; exact .nil
  | cons hunit _ ih =>
    cases hreads with
    | cons hread hrest =>
      cases hbare with
      | cons hbareRead hbareRest =>
        refine .cons ⟨?_, hunit.2 _ _ hread.2 hbareRead.2⟩ (ih hrest hbareRest)
        rw [hread.1, hbareRead.1, hunit.1]

/-- What the validator of a field answers under overrides that `RefineScalars`, the one without them answers
as well. -/
theorem overrides_restrict (definitions : List TypeDefinition) (options : NativeOptions)
    (overrides : Overrides) (registry bareRegistry : Registry)
    (hrefine : overrides.RefineScalars (.ofDefinitions definitions))
    (h : compile (.native options) none overrides (.ofDefinitions definitions) = .ok registry)
    (hbare : compile (.native options) none {} (.ofDefinitions definitions) = .ok bareRegistry)
    (coordinate : Coordinate) (validated : FieldValidator)
    (hvalidated : registry.field? coordinate = some validated) :
    ∃ other, bareRegistry.field? coordinate = some other ∧ ∀ value answer,
      validated.validator.validate value = .ok answer → other.validator.validate value = .ok answer := by
  obtain ⟨blueprint, table, hof, hcompiled⟩ := compile_native h
  obtain ⟨bareBlueprint, bareTable, hofBare, hcompiledBare⟩ := compile_native hbare
  have hrefining : Drafting.Refining
      ⟨⟨.native, none, (TypeGraph.ofDefinitions definitions).enumerations⟩, overrides⟩
      (.ofDefinitions definitions) :=
    ⟨⟨rfl, rfl⟩, hrefine, TypeGraph.ofDefinitions_classified definitions⟩
  obtain ⟨hunits, hfields, -⟩ := Blueprint.ofGraph_spec hof
  obtain ⟨hbareUnits, hbareFields, -⟩ := Blueprint.ofGraph_spec hofBare
  -- both plan the same fields, and the units of one table restrict those of the other
  have hsame : bareBlueprint.fields = blueprint.fields := by
    rw [hfields, hbareFields]
    exact List.flatMap_congr fun type htype => hrefining.typeFields_bare htype
  have hloosens : CheckRules.Loosens ⟨bareTable, options.coercing⟩ ⟨table, options.coercing⟩ := by
    refine ⟨rfl, rel_of_reads ?_ hcompiled.reads hcompiledBare.reads⟩
    rw [hunits, hbareUnits]
    exact .flatMap fun type htype => hrefining.typeUnits_paired htype
  rw [hcompiled.field?_eq, Option.map_eq_some_iff] at hvalidated
  obtain ⟨planned, hplanned, rfl⟩ := hvalidated
  refine ⟨fieldValidator options bareTable planned, ?_, fun value answer haccepted => ?_⟩
  · rw [hcompiledBare.field?_eq, hsame, hplanned]
    rfl
  · obtain ⟨shape, other, hshape, hother, hrestricts⟩ :
        ∃ shape other, Members.get? table planned.unitId = some shape ∧
          Members.get? bareTable planned.unitId = some other ∧ shape.Restricts other := by
      rcases hloosens.unit planned.unitId with ⟨hnone, -⟩ | hboth
      · obtain ⟨compiled, -, hname, -⟩ := exists_mem_of_forall₂ hcompiled.fields.flip
          (List.mem_of_find?_eq_some hplanned)
        obtain ⟨shape, hshape⟩ := hcompiled.reads.exists_shape hname
        cases hnone.symm.trans hshape
      · exact hboth
    obtain ⟨hfailures, hvalue⟩ := (nativeValidator_eq_ok_iff hshape).1 haccepted
    obtain ⟨hsameValue, hnone⟩ := hrestricts.check hloosens value
    exact (nativeValidator_eq_ok_iff hother).2 ⟨hnone hfailures, hsameValue.trans hvalue⟩

/-- A document whose field takes limits and a filter, which refers to itself. -/
def ordersDocument : List TypeDefinition :=
  [⟨"Filter", [], .inputObject [⟨"text", .named "String" false, []⟩,
      ⟨"either", .list (.named "Filter" true) false, []⟩]⟩,
    ⟨"Query", [], .object [⟨"orders", [⟨"filter", .named "Filter" false, []⟩,
      ⟨"limits", .list (.named "Int" true) false, []⟩], .named "String" false, []⟩]⟩]

/-- Overrides that bound the list of limits and the text of a filter, name limits one by one, and try
to make other kinds of both. -/
def ordersOverrides : Overrides where
  inputFields := [(⟨"Filter", "text"⟩, [("kind", .string "object"), ("minLength", .ofInt 2)])]
  arguments := [(⟨"Query", "orders", "limits"⟩, .fragment [("maxItems", .ofInt 2),
    ("items", .object [("nullable", .bool true), ("enum", .array [.ofInt 5, .ofInt 7])])])]

/-- Arguments with a number as a text, and a text as a number, one filter inside another. -/
def ordersArguments : Json :=
  .object [("filter", .object [("either", .array [.object [("text", .ofInt 12)]])]),
    ("limits", .array [.string "7", .ofInt 5])]

theorem ordersOverrides_refineScalars :
    ordersOverrides.RefineScalars (.ofDefinitions ordersDocument) where
  types := rfl
  arguments type htype field hfield argument hargument override ho := by
    have hleaf : ∀ type ∈ (TypeGraph.ofDefinitions ordersDocument).types, ∀ field ∈ type.fields,
        ∀ argument ∈ field.arguments,
          (⟨type.name, field.name, argument.name⟩ : ArgumentCoordinate) = ⟨"Query", "orders", "limits"⟩ →
            argument.position.leaf = .builtin .int := by decide
    obtain ⟨hcoordinate, rfl⟩ := Prod.mk.inj (List.mem_singleton.1 (Members.mem_of_get? ho))
    exact ⟨⟨_, rfl⟩, _, hleaf type htype field hfield argument hargument hcoordinate⟩
  inputFields type htype _ field hfield fragment ho := by
    have hleaf : ∀ type ∈ (TypeGraph.ofDefinitions ordersDocument).types, ∀ field ∈ type.fields,
        (⟨type.name, field.name⟩ : Coordinate) = ⟨"Filter", "text"⟩ →
          field.position.leaf = .builtin .string := by decide
    obtain ⟨hcoordinate, rfl⟩ := Prod.mk.inj (List.mem_singleton.1 (Members.mem_of_get? ho))
    exact ⟨_, hleaf type htype field hfield hcoordinate⟩

theorem overrides_restrict_orders :
    ordersOverrides.RefineScalars (.ofDefinitions ordersDocument) ∧ ∃ registry bareRegistry validated,
      compile (.native {}) none ordersOverrides (.ofDefinitions ordersDocument) = .ok registry ∧
      compile (.native {}) none {} (.ofDefinitions ordersDocument) = .ok bareRegistry ∧
      registry.field? ⟨"Query", "orders"⟩ = some validated ∧ ∃ answer,
        validated.validator.validate ordersArguments = .ok answer ∧ ∃ other,
          bareRegistry.field? ⟨"Query", "orders"⟩ = some other ∧
            other.validator.validate ordersArguments = .ok answer := by
  have hrun : ((compile (.native {}) none ordersOverrides (.ofDefinitions ordersDocument)).toOption.any
      fun registry => (registry.field? ⟨"Query", "orders"⟩).any fun validated =>
        (validated.validator.validate ordersArguments).isOk) = true := by decide +kernel
  have hbareRun : (compile (.native {}) none {} (.ofDefinitions ordersDocument)).isOk = true := by
    decide +kernel
  cases h : compile (.native {}) none ordersOverrides (.ofDefinitions ordersDocument) with
  | error error => rw [h] at hrun; cases hrun
  | ok registry =>
    rw [h, Except.toOption, Option.any_some] at hrun
    cases hbare : compile (.native {}) none {} (.ofDefinitions ordersDocument) with
    | error error => rw [hbare] at hbareRun; cases hbareRun
    | ok bareRegistry =>
      obtain ⟨validated, hvalidated, hrun⟩ := (Option.any_eq_true _ _).1 hrun
      cases haccepted : validated.validator.validate ordersArguments with
      | error failures => rw [haccepted] at hrun; cases hrun
      | ok answer =>
        obtain ⟨other, hother, hanswers⟩ := overrides_restrict ordersDocument {} ordersOverrides registry
          bareRegistry ordersOverrides_refineScalars h hbare ⟨"Query", "orders"⟩ validated hvalidated
        exact ⟨ordersOverrides_refineScalars, registry, bareRegistry, validated, rfl, rfl, hvalidated, answer, haccepted, other,
          hother, hanswers _ _ haccepted⟩

end Registry

end ArgGuard
