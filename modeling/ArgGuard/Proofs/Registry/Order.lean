import ArgGuard.Proofs.Registry.Coverage
import ArgGuard.Proofs.Registry.Success
import ArgGuard.Proofs.Shape.Parts
import Mathlib.Data.List.Perm.Basic

/-!
# The order of types

Two graphs with the same types in another order have the same enumerations, so every position has the
same fragment in both and every type the same units (`Drafting.Similar`). Units are registered under
names, and a validator looks them up by these names alone; hence the one graph can be compiled if and only
if the other one can, and the two registries have the same units and fields, whose validators answer the
same (`order_irrelevant`).
-/

namespace ArgGuard

variable {options : NativeOptions} {hook : Option InferenceHook} {overrides : Overrides}
  {graph other : TypeGraph} {drafting similar : Drafting} {inference another : Inference}

theorem find?_perm {α : Type u} {p : α → Bool} {xs ys : List α} (hperm : xs.Perm ys)
    (hunique : ∀ x ∈ xs, ∀ y ∈ xs, p x = true → p y = true → x = y) : xs.find? p = ys.find? p := by
  cases hx : xs.find? p with
  | some x =>
    obtain ⟨y, hy⟩ : ∃ y, ys.find? p = some y :=
      Option.isSome_iff_exists.1 (List.find?_isSome.2
        ⟨x, hperm.mem_iff.1 (List.mem_of_find?_eq_some hx), List.find?_some hx⟩)
    rw [hy, hunique x (List.mem_of_find?_eq_some hx) y (hperm.mem_iff.2 (List.mem_of_find?_eq_some hy))
      (List.find?_some hx) (List.find?_some hy)]
  | none =>
    rw [List.find?_eq_none] at hx
    exact (List.find?_eq_none.2 fun y hy => hx y (hperm.mem_iff.2 hy)).symm

/-! ### Enumerations -/

namespace TypeGraph

theorem get?_enumerations_perm (h : graph.types.Perm other.types) (name : String) :
    Members.get? graph.enumerations name = Members.get? other.enumerations name :=
  Members.get?_perm ((h.filter _).map _) graph.nodup_enumerations name

end TypeGraph

/-! ### Fragments -/

namespace Inference

/-- Inferences that know the same of every name. -/
structure Similar (inference another : Inference) : Prop where
  dialect : inference.dialect = another.dialect
  infer : inference.infer = another.infer

theorem Similar.of_enumerations (hdialect : inference.dialect = another.dialect)
    (hhook : inference.hook = another.hook)
    (henumerations : ∀ name, Members.get? inference.enumerations name =
      Members.get? another.enumerations name) : inference.Similar another where
  dialect := hdialect
  infer := by
    funext name nonNull
    simp only [Inference.infer, hooked?, standard, hhook, hdialect, henumerations]

theorem Similar.overlaid (h : inference.Similar another) : inference.overlaid = another.overlaid := by
  funext skipped base override
  cases override with
  | none => rfl
  | some overlay => exact congrArg (fun dialect : Dialect => dialect.merge skipped base overlay) h.dialect

theorem Similar.shapedFragment (h : inference.Similar another) (position : Position)
    (override : Option Fragment) :
    inference.shapedFragment position override = another.shapedFragment position override := by
  induction position generalizing override with
  | named name leaf nonNull =>
    rw [Inference.shapedFragment, Inference.shapedFragment, h.infer, h.overlaid]
  | list item nonNull ih =>
    rw [Inference.shapedFragment, Inference.shapedFragment, ih, h.overlaid, h.dialect]

theorem Similar.synthesize (h : inference.Similar another) :
    inference.synthesize = another.synthesize := by
  funext position override id
  rw [Inference.synthesize, Inference.synthesize, h.shapedFragment, h.dialect]

end Inference

/-! ### Units -/

namespace Drafting

/-- Draftings that see the same fragment at every position. -/
structure Similar (drafting similar : Drafting) : Prop where
  dialect : drafting.dialect = similar.dialect
  synthesize : drafting.inference.synthesize = similar.inference.synthesize
  overrides : drafting.overrides = similar.overrides

namespace Similar

variable {type : GraphType} {field : GraphField} (h : drafting.Similar similar)
include h

theorem inputFragment : drafting.inputFragment type = similar.inputFragment type := by
  funext field
  rw [Drafting.inputFragment, Drafting.inputFragment, fieldId, fieldId, h.synthesize, h.overrides, h.dialect]

theorem hasUnit : drafting.hasUnit type = similar.hasUnit type := by
  funext field
  rw [Drafting.hasUnit, Drafting.hasUnit, h.inputFragment, h.dialect]

theorem planArguments : drafting.planArguments type field = similar.planArguments type field := by
  rw [Drafting.planArguments, Drafting.planArguments]
  congr 1
  funext plan argument
  rw [planArgument, planArgument]
  simp only [h.synthesize, h.overrides, h.dialect]

theorem inputPlan : drafting.inputPlan type = similar.inputPlan type := by
  rw [Drafting.inputPlan, Drafting.inputPlan, shapedFields, shapedFields, h.hasUnit]
  congr 1
  funext plan field
  rw [planInput, planInput, h.inputFragment]

theorem typeUnits : drafting.typeUnits type = similar.typeUnits type := by
  have hfieldId : drafting.fieldId type = similar.fieldId type := by
    funext field
    rw [fieldId, fieldId, h.dialect]
  have htypeUnit : drafting.typeUnit type = similar.typeUnit type := by
    rw [typeUnit, typeUnit, typeId, typeId, typeFragment, typeFragment, h.inputPlan, h.dialect, h.overrides]
  have hinputUnit : drafting.inputUnit type = similar.inputUnit type := by
    funext field
    rw [inputUnit, inputUnit, hfieldId, h.inputFragment]
  have hargumentsUnit : drafting.argumentsUnit type = similar.argumentsUnit type := by
    funext field
    rw [argumentsUnit, argumentsUnit, hfieldId, argumentsFragment, argumentsFragment, h.planArguments, h.dialect]
  rw [Drafting.typeUnits, Drafting.typeUnits, shapedFields, shapedFields, h.hasUnit, htypeUnit, hinputUnit,
    hargumentsUnit]

theorem typeFields : drafting.typeFields type = similar.typeFields type := by
  have hplannedField : drafting.plannedField type = similar.plannedField type := by
    funext field
    rw [plannedField, plannedField, fieldId, fieldId, h.planArguments, h.dialect]
  rw [Drafting.typeFields, Drafting.typeFields, hplannedField]

theorem isUntyped : drafting.isUntyped type field = similar.isUntyped type field := by
  rw [Drafting.isUntyped, Drafting.isUntyped, h.hasUnit, h.overrides]

theorem units_perm (hperm : graph.types.Perm other.types) :
    (drafting.units graph).Perm (similar.units other) :=
  hperm.flatMap fun _ _ => h.typeUnits ▸ List.Perm.refl _

theorem compilable (hperm : graph.types.Perm other.types) (hgraph : drafting.Compilable graph) :
    similar.Compilable other := by
  have hunits := h.units_perm hperm
  refine ⟨⟨(hunits.map _).nodup_iff.1 hgraph.distinct, fun type htype => ?_⟩, fun unit hunit => ?_,
    fun unit hunit => hgraph.readable unit (hunits.mem_iff.2 hunit)⟩
  · intro hplain hinput field hfield
    rw [← h.isUntyped]
    exact hgraph.typed type (hperm.mem_iff.2 htype) hplain hinput field hfield
  · intro target htarget
    rw [← h.dialect] at htarget
    exact (hunits.map _).mem_iff.1 (hgraph.resolved unit (hunits.mem_iff.2 hunit) target htarget)

end Similar

/-- Only `enumerations` depends on the order of the types, and it is read by names. -/
theorem similar_of_perm (hperm : graph.types.Perm other.types) (dialect : Dialect)
    (hook : Option InferenceHook) (overrides : Overrides) :
    Similar ⟨⟨dialect, hook, graph.enumerations⟩, overrides⟩
      ⟨⟨dialect, hook, other.enumerations⟩, overrides⟩ where
  dialect := rfl
  synthesize := Inference.Similar.synthesize
    (Inference.Similar.of_enumerations rfl rfl (TypeGraph.get?_enumerations_perm hperm))
  overrides := rfl

end Drafting

namespace Registry

/-! ### Registries -/

/-- Units that are told apart by nothing. -/
structure UnitsAlike (unit another : CompiledUnit) : Prop where
  id : unit.id = another.id
  fragment : unit.fragment = another.fragment
  answers : ∀ value, unit.validator.validate value = another.validator.validate value

/-- Fields that are told apart by nothing. -/
structure FieldsAlike (field another : FieldValidator) : Prop where
  coordinate : field.coordinate = another.coordinate
  unitId : field.unitId = another.unitId
  functions : field.functions = another.functions
  answers : ∀ value, field.validator.validate value = another.validator.validate value

/-- Registries with the same units and fields in any order. -/
structure Reorders (registry another : Registry) : Prop where
  unitIds : (registry.units.map (·.id)).Perm (another.units.map (·.id))
  coordinates : (registry.fields.map (·.coordinate)).Perm (another.fields.map (·.coordinate))
  units : ∀ id, Option.Rel UnitsAlike (registry.unit? id) (another.unit? id)
  fields : ∀ coordinate, Option.Rel FieldsAlike (registry.field? coordinate) (another.field? coordinate)

section
variable {table tableAfter : UnitTable} {id : String}

theorem nativeValidator_congr (htable : ∀ id, Members.get? table id = Members.get? tableAfter id)
    (value : Json) : (nativeValidator options table id).validate value =
      (nativeValidator options tableAfter id).validate value := by
  have hcheck : ∀ shape, Shape.check ⟨table, options.coercing⟩ shape value =
      Shape.check ⟨tableAfter, options.coercing⟩ shape value := by
    intro shape
    refine Shape.check_congr ?_ htable shape value
    rfl
  simp only [nativeValidator, Validator.validate, Validator.checkUnit, htable, hcheck]

end

section
variable {blueprint reordered : Blueprint} {table tableAfter : UnitTable} {registry another : Registry}
  (hof : Blueprint.ofGraph drafting graph = .ok blueprint)
  (hafter : Blueprint.ofGraph similar other = .ok reordered)
  (hsimilar : drafting.Similar similar) (hperm : graph.types.Perm other.types)
  (h : Compiled options blueprint table registry) (hanother : Compiled options reordered tableAfter another)
include hof hafter hsimilar hperm

theorem units_perm : blueprint.units.Perm reordered.units := by
  rw [(Blueprint.ofGraph_spec hof).1, (Blueprint.ofGraph_spec hafter).1]
  exact hsimilar.units_perm hperm

theorem fields_perm : blueprint.fields.Perm reordered.fields := by
  rw [(Blueprint.ofGraph_spec hof).2.1, (Blueprint.ofGraph_spec hafter).2.1]
  exact hperm.flatMap fun _ _ => hsimilar.typeFields ▸ List.Perm.refl _

theorem find?_fields_perm (coordinate : Coordinate) :
    blueprint.fields.find? (·.coordinate = coordinate) =
      reordered.fields.find? (·.coordinate = coordinate) := by
  have hfields := fields_perm hof hafter hsimilar hperm
  refine find?_perm hfields fun planned hplanned another hanother hc hc' => ?_
  exact Blueprint.planned_unique hof hplanned hanother
    ((of_decide_eq_true hc).trans (of_decide_eq_true hc').symm)

include h hanother

theorem reorders : Reorders registry another := by
  have hunits := units_perm hof hafter hsimilar hperm
  have hget : ∀ id, Members.get? blueprint.units id = Members.get? reordered.units id :=
    Members.get?_perm hunits (Blueprint.ofGraph_spec hof).2.2
  have htable : ∀ id, Members.get? table id = Members.get? tableAfter id := by
    intro id
    rw [h.reads.get?_eq, hanother.reads.get?_eq, hget]
  refine ⟨?_, ?_, fun id => ?_, fun coordinate => ?_⟩
  · rw [h.names, hanother.names]
    exact hunits.map _
  · rw [h.coordinates, hanother.coordinates]
    exact (fields_perm hof hafter hsimilar hperm).map _
  · rw [h.unit?_eq, hanother.unit?_eq, hget]
    cases Members.get? reordered.units id with
    | none => exact .none
    | some fragment => exact .some ⟨rfl, rfl, fun value => nativeValidator_congr htable value⟩
  · rw [h.field?_eq, hanother.field?_eq, find?_fields_perm hof hafter hsimilar hperm]
    cases reordered.fields.find? (·.coordinate = coordinate) with
    | none => exact .none
    | some planned => exact .some ⟨rfl, rfl, rfl, fun value => nativeValidator_congr htable value⟩

end

/-- The order of `graph.types` has no effect on whether `compile` succeeds, and it `Reorders` the registry:
each name holds the same, and each validator answers the same. -/
theorem order_irrelevant (options : NativeOptions) (hook : Option InferenceHook) (overrides : Overrides)
    (graph other : TypeGraph) (hperm : graph.types.Perm other.types) :
    ((∃ registry, compile (.native options) hook overrides graph = .ok registry) ↔
      ∃ registry, compile (.native options) hook overrides other = .ok registry) ∧
    ∀ registry another, compile (.native options) hook overrides graph = .ok registry →
      compile (.native options) hook overrides other = .ok another → Reorders registry another := by
  have hsimilar := Drafting.similar_of_perm hperm .native hook overrides
  have hback := Drafting.similar_of_perm hperm.symm .native hook overrides
  refine ⟨?_, fun registry another h hanother => ?_⟩
  · rw [compile_total_iff, compile_total_iff]
    exact ⟨hsimilar.compilable hperm, hback.compilable hperm.symm⟩
  · obtain ⟨blueprint, table, hof, hcompiled⟩ := compile_native h
    obtain ⟨reordered, tableAfter, hafter, hcompiledAfter⟩ := compile_native hanother
    exact reorders hof hafter hsimilar hperm hcompiled hcompiledAfter

/-- The graph with its types from the last to the first. -/
def reversedTypes (graph : TypeGraph) : TypeGraph where
  types := graph.types.reverse
  distinct := by
    rw [List.map_reverse]
    exact List.nodup_reverse.2 graph.distinct

/-- A document in which a filter refers to itself and to an enumeration after it. -/
def tagsDocument : List TypeDefinition :=
  [⟨"Query", [], .object [⟨"tags", [⟨"filter", .named "Filter" true, []⟩], .named "String" false, []⟩]⟩,
    ⟨"Filter", [], .inputObject [⟨"kind", .named "Kind" true, []⟩, ⟨"other", .named "Filter" false, []⟩]⟩,
    ⟨"Kind", [], .enumeration ["SMALL", "LARGE"]⟩]

theorem order_irrelevant_tags :
    (TypeGraph.ofDefinitions tagsDocument).types.Perm
        (reversedTypes (.ofDefinitions tagsDocument)).types ∧
      ∃ registry another, compile (.native {}) none {} (.ofDefinitions tagsDocument) = .ok registry ∧
        compile (.native {}) none {} (reversedTypes (.ofDefinitions tagsDocument)) = .ok another ∧
        registry.units.map (·.id) = ["Query.tags", "Filter.kind", "Filter.other", "Filter"] ∧
        another.units.map (·.id) = ["Filter.kind", "Filter.other", "Filter", "Query.tags"] ∧
        Reorders registry another := by
  have hperm : (TypeGraph.ofDefinitions tagsDocument).types.Perm
      (reversedTypes (.ofDefinitions tagsDocument)).types := (List.reverse_perm _).symm
  have hrun : ((compile (.native {}) none {} (.ofDefinitions tagsDocument)).toOption.any fun registry =>
      registry.units.map (·.id) = ["Query.tags", "Filter.kind", "Filter.other", "Filter"]) = true := by
    decide +kernel
  have hreversed : ((compile (.native {}) none {}
      (reversedTypes (.ofDefinitions tagsDocument))).toOption.any fun registry =>
        registry.units.map (·.id) = ["Filter.kind", "Filter.other", "Filter", "Query.tags"]) = true := by
    decide +kernel
  refine ⟨hperm, ?_⟩
  obtain ⟨-, hreorders⟩ := order_irrelevant {} none {} (.ofDefinitions tagsDocument)
    (reversedTypes (.ofDefinitions tagsDocument)) hperm
  obtain ⟨registry, h, hids⟩ := exists_ok_of_any hrun
  obtain ⟨another, hanother, hidsAfter⟩ := exists_ok_of_any hreversed
  exact ⟨registry, another, h, hanother, of_decide_eq_true hids, of_decide_eq_true hidsAfter,
    hreorders registry another h hanother⟩

end Registry

end ArgGuard
