import ArgGuard.Proofs.JsonSchema.DraftSeven
import ArgGuard.Proofs.Registry.Compilability
import ArgGuard.Proofs.Registry.Linked

/-!
# The document of a plain graph

The units of a plain graph can be drawn in either dialect, and all their references lead to units. In JSON
Schema they stand in one document, `TypeGraph.schemaDefinitions`. By the seventh draft the values of a unit
are those that fit: its position (`valid_inputUnit_iff`), or the fields or arguments of which it is the
object (`valid_typeUnit_iff`, `valid_argumentsUnit_iff`).
-/

namespace ArgGuard

open JsonSchema

variable {graph : TypeGraph} {type : GraphType} {field : GraphField} {unit : String × Fragment}
  {name : String} {value : Json}

/-- The definitions of the document in which the units of a graph stand. -/
def TypeGraph.schemaDefinitions (graph : TypeGraph) : Members Json :=
  Backend.definitions ⟨.jsonSchema {}, (Drafting.ofDialect .jsonSchema graph).units graph⟩

def TypeGraph.unitNames (graph : TypeGraph) : List String :=
  graph.types.flatMap fun type => Members.names ((Drafting.ofDialect .native graph).typeUnits type)

theorem TypeGraph.Plain.settled (h : graph.Plain) : graph.Settled where
  callable type htype _ _ := by
    have hd := h.distinctFields type htype
    rw [Members.names, GraphType.slots, List.map_map] at hd
    exact hd.sublist (List.filter_sublist.map _)
  shaped type htype _ _ := by
    have hd := h.distinctFields type htype
    rw [Members.names, GraphType.slots, List.map_map] at hd
    exact hd.sublist (List.filter_sublist.map _)
  arguments _ _ _ _ _ _ _ _ := by
    rintro ⟨target, htarget, hinput, hmeta, -⟩
    rw [(h.inputObjects target htarget (of_decide_eq_true hinput)).1] at hmeta
    cases hmeta
  fields _ _ _ _ _ _ := by
    rintro ⟨target, htarget, hinput, hmeta, -⟩
    rw [(h.inputObjects target htarget (of_decide_eq_true hinput)).1] at hmeta
    cases hmeta

namespace Drafting

theorem names_units_native (graph : TypeGraph) :
    Members.names ((ofDialect .native graph).units graph) = graph.unitNames :=
  List.map_flatMap

theorem names_units_jsonSchema (graph : TypeGraph) :
    Members.names ((ofDialect .jsonSchema graph).units graph) =
      graph.unitNames.map (definitionsPath ++ ·) := by
  rw [units, Members.names, List.map_flatMap, TypeGraph.unitNames, List.map_flatMap]
  exact List.flatMap_congr fun type _ => names_typeUnits graph type

theorem drawable_ofDialect (hplain : graph.Plain) (dialect : Dialect) :
    (ofDialect dialect graph).Drawable graph := by
  have hnative : (ofDialect .native graph).Drawable graph :=
    (drawable_plain_iff graph hplain.names).2 fun type htype hmeta =>
      ⟨hplain.settled.shaped type htype hmeta, hplain.settled.callable type htype hmeta⟩
  refine ⟨?_, fun _ _ _ _ _ _ => isUntyped_plain graph dialect⟩
  cases dialect with
  | native => exact hnative.distinct
  | jsonSchema =>
    have hd := hnative.distinct
    rw [names_units_native] at hd
    rw [names_units_jsonSchema]
    refine hd.map fun name other heq => ?_
    simpa using heq

end Drafting

section
variable (hplain : graph.Plain)
include hplain

theorem get?_schemaDefinitions (htype : type ∈ graph.types)
    (hunit : unit ∈ (Drafting.ofDialect .jsonSchema graph).typeUnits type)
    (hname : unit.1 = definitionsPath ++ name) :
    Members.get? graph.schemaDefinitions name = some (.object unit.2) := by
  have hnames := Drafting.names_units_jsonSchema graph
  have hd := (Drafting.drawable_ofDialect hplain .jsonSchema).distinct
  rw [hnames] at hd
  refine Registry.get?_definitions hnames (hd.of_map _) ?_
  rw [← hname]
  exact Drafting.mem_units_of_mem htype hunit

omit hplain in
theorem exists_name_of_unit (hunit : unit ∈ (Drafting.ofDialect .jsonSchema graph).units graph) :
    ∃ name, unit.1 = definitionsPath ++ name := by
  have hid : unit.1 ∈ Members.names ((Drafting.ofDialect .jsonSchema graph).units graph) :=
    List.mem_map.2 ⟨unit, hunit, rfl⟩
  rw [Drafting.names_units_jsonSchema] at hid
  obtain ⟨name, -, hname⟩ := List.mem_map.1 hid
  exact ⟨name, hname.symm⟩

theorem exists_definition_of_unit (hunit : unit ∈ (Drafting.ofDialect .jsonSchema graph).units graph) :
    ∃ name, unit.1 = definitionsPath ++ name ∧
      Members.get? graph.schemaDefinitions name = some (.object unit.2) := by
  obtain ⟨name, hname⟩ := exists_name_of_unit hunit
  obtain ⟨type, htype, hunit⟩ := List.mem_flatMap.1 hunit
  exact ⟨name, hname, get?_schemaDefinitions hplain htype hunit hname⟩

omit hplain in
theorem exists_unit_of_definition {schema : Json} (h : Members.get? graph.schemaDefinitions name = some schema) :
    ∃ type ∈ graph.types, ∃ unit ∈ (Drafting.ofDialect .jsonSchema graph).typeUnits type,
      unit.1 = definitionsPath ++ name ∧ schema = .object unit.2 := by
  obtain ⟨unit, hunit, heq⟩ := List.mem_map.1 (Members.mem_of_get? h)
  obtain ⟨place, hplace⟩ := exists_name_of_unit hunit
  obtain ⟨type, htype, hunit⟩ := List.mem_flatMap.1 hunit
  obtain ⟨hname, rfl⟩ := Prod.mk.inj heq
  rw [hplace, afterText?_append] at hname
  exact ⟨type, htype, unit, hunit, hname ▸ hplace, rfl⟩

/-! ### Values of the seventh draft -/

open DraftSeven

theorem rules_valid : Fits.Rules graph fun position value => Valid graph.schemaDefinitions
    (.object ((Drafting.ofDialect .jsonSchema graph).inference.bareFragment position)) value := by
  have hinference := Drafting.isPlain_ofDialect .jsonSchema graph
  exact {
    free := fun position value hshape => hinference.valid_free hshape value
    scalar := fun name leaf nonNull scalar value hleaf hname _ => by
      rw [Inference.bareFragment, if_neg hleaf, hinference.infer_eq, Inference.standard, hname,
        ← Bool.not_eq_true']
      exact valid_primitive_iff scalar _
    enumeration := fun name leaf nonNull values value hleaf hname hvalues => by
      have hvalues : Members.get? (Drafting.ofDialect .jsonSchema graph).inference.enumerations name =
        some values := hvalues
      rw [Inference.bareFragment, if_neg hleaf, hinference.infer_eq, Inference.standard, hname, hvalues,
        ← Bool.not_eq_true']
      exact valid_enumeration_iff values _
    list := fun item nonNull value => by
      rw [Inference.bareFragment, ← Bool.not_eq_true']
      exact valid_array_iff _ _
    inputObject := fun type nonNull value htype hinput => by
      have htarget := get?_schemaDefinitions hplain htype (Drafting.typeUnit_mem hplain htype hinput) rfl
      rw [Drafting.typeUnit_bare hinference rfl (hplain.distinctFields type htype)] at htarget
      rw [Inference.bareFragment, if_pos rfl]
      refine (valid_reference_iff (!nonNull) htarget).trans ?_
      rw [Dialect.tag, Dialect.tagKey, valid_comment_iff]
      exact (and_congr_right fun _ => hinference.valid_slotsFragment_iff _ _ true).trans
        TypeName.object_and_iff }

variable (hclassified : graph.Classified)
include hclassified

theorem valid_position_iff {position : Position} (hposition : graph.Settles position) :
    Valid graph.schemaDefinitions
        (.object ((Drafting.ofDialect .jsonSchema graph).inference.bareFragment position)) value ↔
      Fits graph false position value :=
  (rules_valid hplain).iff_fits (hplain.settlesInputs hclassified) hposition

theorem valid_inputUnit_iff (htype : type ∈ graph.types) (hinput : type.kind = .inputObject)
    (hfield : field ∈ type.fields) : Valid graph.schemaDefinitions
        (.object ((Drafting.ofDialect .jsonSchema graph).inputUnit type field).2) value ↔
      Fits graph false field.position value := by
  have hinference := Drafting.isPlain_ofDialect .jsonSchema graph
  have hsettles := (hplain.settlesInputs hclassified type htype hinput).2 _ (List.mem_map.2 ⟨field, hfield, rfl⟩)
  rw [Drafting.inputUnit_bare hinference rfl]
  exact (valid_comment_iff _).trans (valid_position_iff hplain hclassified hsettles)

theorem valid_slots_iff {slots : Members Position} (hslots : ∀ slot ∈ slots, graph.Settles slot.2)
    (idOf : String → String) (nullable : Bool) : Valid graph.schemaDefinitions (.object
        (("type", Dialect.typeValue "object" nullable) :: Dialect.schemaMembers
          ((Drafting.ofDialect .jsonSchema graph).inference.slotProperties idOf
            (shapedSlots graph.enumerations slots)) (requiredSlots (shapedSlots graph.enumerations slots)))) value ↔
      nullable = true ∧ value = .null ∨
        ∃ members, value = .object members ∧ Fills graph.enumerations (Fits graph false) slots members := by
  have hinference := Drafting.isPlain_ofDialect .jsonSchema graph
  refine (hinference.valid_slotsFragment_iff idOf slots nullable).trans ?_
  refine or_congr_right (exists_congr fun members => and_congr_right fun _ => ?_)
  exact Fills.congr fun slot hslot _ _ => valid_position_iff hplain hclassified (hslots slot hslot)

theorem valid_typeUnit_iff (htype : type ∈ graph.types) (hinput : type.kind = .inputObject) :
    Valid graph.schemaDefinitions (.object ((Drafting.ofDialect .jsonSchema graph).typeUnit type).2) value ↔
      value = .null ∨ ∃ members, value = .object members ∧
        Fills graph.enumerations (Fits graph false) type.slots members := by
  have hinference := Drafting.isPlain_ofDialect .jsonSchema graph
  have hslots := (hplain.settlesInputs hclassified type htype hinput).2
  rw [Drafting.typeUnit_bare hinference rfl (hplain.distinctFields type htype)]
  refine (valid_comment_iff _).trans ((valid_slots_iff hplain hclassified hslots _ true).trans ?_)
  simp

theorem valid_argumentsUnit_iff (htype : type ∈ graph.types) (hfield : field ∈ type.fields) :
    Valid graph.schemaDefinitions
        (.object ((Drafting.ofDialect .jsonSchema graph).argumentsUnit type field).2) value ↔
      ∃ members, value = .object members ∧
        Fills graph.enumerations (Fits graph false) field.slots members := by
  have hinference := Drafting.isPlain_ofDialect .jsonSchema graph
  have hslots := hplain.settles_slots hclassified htype hfield
  rw [Drafting.argumentsUnit_bare hinference rfl (hplain.distinctArguments type htype field hfield)]
  refine (valid_comment_iff _).trans ((valid_slots_iff hplain hclassified hslots _ false).trans ?_)
  simp

end

end ArgGuard
