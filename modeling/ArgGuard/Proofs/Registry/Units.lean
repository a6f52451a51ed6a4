import ArgGuard.Proofs.Graph.Classification
import ArgGuard.Proofs.Members
import ArgGuard.Proofs.Sequencing
import ArgGuard.Registry.Blueprint
import Mathlib.Data.List.Nodup

/-!
# The units of a graph

A blueprint is drawn step by step, and every step may find a name taken or a field without a shape.
When all went well, what was drawn can be said without the steps: `typeUnits` and `typeFields` list
the units and the validated fields of one type, and a blueprint holds those of all types in order,
no name twice (`ofGraph_spec`).
-/

namespace ArgGuard

variable {drafting : Drafting} {type : GraphType} {field : GraphField} {graph : TypeGraph}

namespace Drafting

/-- Whether a field of an input object has a unit. -/
def hasUnit (drafting : Drafting) (type : GraphType) (field : GraphField) : Bool :=
  drafting.dialect.hasShape (drafting.inputFragment type field)

/-- The fields of an input object that have a unit. -/
def shapedFields (drafting : Drafting) (type : GraphType) : List GraphField :=
  type.fields.filter (drafting.hasUnit type)

/-- Adds the property of a field of an input object. -/
def planInput (drafting : Drafting) (type : GraphType) (plan : ObjectPlan) (field : GraphField) :
    ObjectPlan :=
  plan.addProperty field.position field.name (drafting.inputFragment type field)

/-- What the fields of an input object ask for. -/
def inputPlan (drafting : Drafting) (type : GraphType) : ObjectPlan :=
  (drafting.shapedFields type).foldl (drafting.planInput type) {}

/-- The unit of a field of an input object. -/
def inputUnit (drafting : Drafting) (type : GraphType) (field : GraphField) : String × Fragment :=
  (drafting.fieldId type field, drafting.inputFragment type field)

/-- The name of the unit of an input object. -/
def typeId (drafting : Drafting) (type : GraphType) : String :=
  drafting.dialect.referenceId type.name none none

/-- The unit of an input object. -/
def typeUnit (drafting : Drafting) (type : GraphType) : String × Fragment :=
  (drafting.typeId type, drafting.typeFragment type (drafting.inputPlan type))

/-- The unit of the argument object of a field. -/
def argumentsUnit (drafting : Drafting) (type : GraphType) (field : GraphField) : String × Fragment :=
  (drafting.fieldId type field,
    drafting.argumentsFragment (drafting.fieldId type field) (drafting.planArguments type field))

/-- A field whose arguments are validated. -/
def plannedField (drafting : Drafting) (type : GraphType) (field : GraphField) : PlannedField :=
  ⟨⟨type.name, field.name⟩, drafting.fieldId type field,
    (drafting.planArguments type field).functions⟩

end Drafting

/-- The fields of a type that take arguments. -/
def GraphType.callableFields (type : GraphType) : List GraphField :=
  type.fields.filter fun field => !field.arguments.isEmpty

namespace Drafting

/-- The units of a type, in order. -/
def typeUnits (drafting : Drafting) (type : GraphType) : Members Fragment :=
  if type.isIntrospection then []
  else if type.isInputObject then
    (drafting.shapedFields type).map (drafting.inputUnit type) ++ [drafting.typeUnit type]
  else if type.isOutputObject then type.callableFields.map (drafting.argumentsUnit type)
  else []

/-- The validated fields of a type, in order. -/
def typeFields (drafting : Drafting) (type : GraphType) : List PlannedField :=
  if type.isIntrospection then []
  else if type.isInputObject then []
  else if type.isOutputObject then type.callableFields.map (drafting.plannedField type)
  else []

end Drafting

theorem GraphType.mem_callableFields_iff :
    field ∈ type.callableFields ↔ field ∈ type.fields ∧ field.arguments ≠ [] := by
  simp [callableFields]

/-! ### Names of units -/

theorem unitName_type (name : String) : unitName name none none = name := rfl

theorem unitName_field (name fieldName : String) :
    unitName name (some fieldName) none = name ++ "." ++ fieldName := rfl

theorem not_introspection_append {name : List Char} (h : ¬['_', '_'] <+: name) (rest : List Char) :
    ¬['_', '_'] <+: name ++ '.' :: rest := by
  rcases name with _ | ⟨first, _ | ⟨second, more⟩⟩
  · simp
  · simp
  · simpa using h

namespace Drafting

theorem nodup_names_of_fieldIds {fields : List GraphField}
    (hd : (fields.map (drafting.fieldId type)).Nodup) : (fields.map (·.name)).Nodup := by
  refine List.Nodup.of_map (fun name => drafting.dialect.referenceId type.name (some name) none) ?_
  rw [List.map_map]
  exact hd

theorem typeUnits_inputObject (hplain : type.isIntrospection = false)
    (hinput : type.isInputObject = true) : drafting.typeUnits type =
      (drafting.shapedFields type).map (drafting.inputUnit type) ++ [drafting.typeUnit type] := by
  rw [typeUnits, if_neg (by simp [hplain]), if_pos hinput]

theorem typeUnits_outputObject (hplain : type.isIntrospection = false)
    (houtput : type.isOutputObject = true) :
    drafting.typeUnits type = type.callableFields.map (drafting.argumentsUnit type) := by
  rw [typeUnits, if_neg (by simp [hplain]),
    if_neg (by simp [GraphType.isInputObject_of_output houtput]), if_pos houtput]

theorem mem_typeUnits_iff {unit : String × Fragment} : unit ∈ drafting.typeUnits type ↔
    type.isIntrospection = false ∧
      ((type.isInputObject = true ∧ ∃ field ∈ drafting.shapedFields type,
          unit = drafting.inputUnit type field) ∨
        (type.isInputObject = true ∧ unit = drafting.typeUnit type) ∨
        (type.isOutputObject = true ∧ ∃ field ∈ type.callableFields,
          unit = drafting.argumentsUnit type field)) := by
  unfold typeUnits
  split
  · rename_i hintrospection
    simp [hintrospection]
  · rename_i hplain
    rw [Bool.not_eq_true] at hplain
    split
    · rename_i hinput
      have houtput := GraphType.isOutputObject_of_input hinput
      rw [List.mem_append, List.mem_map, List.mem_singleton]
      simp only [hplain, hinput, houtput, true_and, Bool.false_eq_true, false_and, or_false, eq_comm]
    · rename_i hinput
      split
      · rename_i houtput
        rw [List.mem_map]
        simp only [hplain, hinput, houtput, true_and, Bool.false_eq_true, false_and, false_or, eq_comm]
      · rename_i houtput
        simp [hinput, houtput]

theorem mem_typeUnits {unit : String × Fragment} (h : unit ∈ drafting.typeUnits type) :
    type.isIntrospection = false ∧
      ((∃ field ∈ drafting.shapedFields type, unit = drafting.inputUnit type field) ∨
        unit = drafting.typeUnit type ∨
        ∃ field ∈ type.callableFields, unit = drafting.argumentsUnit type field) := by
  obtain ⟨hplain, ⟨-, hunit⟩ | ⟨-, hunit⟩ | ⟨-, hunit⟩⟩ := mem_typeUnits_iff.1 h
  · exact ⟨hplain, .inl hunit⟩
  · exact ⟨hplain, .inr (.inl hunit)⟩
  · exact ⟨hplain, .inr (.inr hunit)⟩

theorem mem_typeFields_iff {planned : PlannedField} : planned ∈ drafting.typeFields type ↔
    type.isIntrospection = false ∧ type.isOutputObject = true ∧
      ∃ field ∈ type.callableFields, planned = drafting.plannedField type field := by
  unfold typeFields
  split
  · rename_i hintrospection
    simp [hintrospection]
  · rename_i hplain
    rw [Bool.not_eq_true] at hplain
    split
    · rename_i hinput
      simp [GraphType.isOutputObject_of_input hinput]
    · split
      · rename_i houtput
        rw [List.mem_map]
        simp only [hplain, houtput, true_and, eq_comm]
      · rename_i houtput
        simp [houtput]

theorem exists_callableField {planned : PlannedField} (h : planned ∈ drafting.typeFields type) :
    ∃ found ∈ type.callableFields, planned = drafting.plannedField type found ∧
      ∀ field ∈ type.callableFields, drafting.argumentsUnit type field ∈ drafting.typeUnits type := by
  obtain ⟨hplain, houtput, found, hfound, rfl⟩ := mem_typeFields_iff.1 h
  refine ⟨found, hfound, rfl, fun field hfield => ?_⟩
  exact mem_typeUnits_iff.2 ⟨hplain, .inr (.inr ⟨houtput, field, hfield, rfl⟩)⟩

theorem not_introspection_of_mem_typeUnits (hdialect : drafting.dialect = .native)
    {unit : String × Fragment} (h : unit ∈ drafting.typeUnits type) : ¬['_', '_'] <+: unit.1.toList := by
  obtain ⟨hplain, hunit⟩ := mem_typeUnits h
  have hname : ¬['_', '_'] <+: type.name.toList := by
    intro hp
    rw [GraphType.isIntrospection, show "__".toList = ['_', '_'] from rfl,
      List.isPrefixOf_iff_prefix.2 hp] at hplain
    cases hplain
  have hfield : ∀ field, ¬['_', '_'] <+: (drafting.fieldId type field).toList := by
    intro field
    rw [fieldId, hdialect, Dialect.referenceId, unitName_field, String.toList_append,
      String.toList_append, List.append_assoc]
    exact not_introspection_append hname _
  rcases hunit with ⟨field, -, rfl⟩ | rfl | ⟨field, -, rfl⟩
  · exact hfield field
  · rw [typeUnit, typeId, hdialect, Dialect.referenceId, unitName_type]
    exact hname
  · exact hfield field

end Drafting

namespace Blueprint

variable {blueprint after : Blueprint}

theorem addUnit_eq_ok {id : String} {fragment : Fragment}
    (h : blueprint.addUnit id fragment = .ok after) :
    Members.contains blueprint.units id = false ∧
      after = { blueprint with units := blueprint.units ++ [(id, fragment)] } := by
  unfold addUnit at h
  split at h
  · cases h
  · rename_i hc
    cases h; exact ⟨Bool.eq_false_iff.2 hc, rfl⟩

/-- A blueprint to which units and fields were added under names that were free. -/
structure Extends (blueprint : Blueprint) (units : Members Fragment) (fields : List PlannedField)
    (after : Blueprint) : Prop where
  units : after.units = blueprint.units ++ units
  fields : after.fields = blueprint.fields ++ fields
  nodup : (Members.names blueprint.units).Nodup → (Members.names after.units).Nodup

namespace Extends

variable {units others : Members Fragment} {fields more : List PlannedField} {final : Blueprint}

theorem refl (blueprint : Blueprint) : Extends blueprint [] [] blueprint :=
  ⟨(List.append_nil _).symm, (List.append_nil _).symm, id⟩

theorem trans (h : Extends blueprint units fields after) (h' : Extends after others more final) :
    Extends blueprint (units ++ others) (fields ++ more) final :=
  ⟨by rw [h'.units, h.units, List.append_assoc], by rw [h'.fields, h.fields, List.append_assoc],
    fun hd => h'.nodup (h.nodup hd)⟩

theorem addUnit {id : String} {fragment : Fragment} (h : blueprint.addUnit id fragment = .ok after) :
    Extends blueprint [(id, fragment)] [] after := by
  obtain ⟨hc, rfl⟩ := addUnit_eq_ok h
  refine ⟨rfl, (List.append_nil _).symm, fun hd => ?_⟩
  refine Members.nodup_names_concat hd ?_
  rw [Members.mem_names_iff, hc]
  exact Bool.false_ne_true

end Extends

theorem addField_extends (h : addField drafting type blueprint field = .ok after) :
    if field.arguments.isEmpty then after = blueprint
    else Extends blueprint [drafting.argumentsUnit type field] [drafting.plannedField type field]
      after := by
  unfold addField at h
  split at h
  · rename_i he
    cases h; rw [if_pos he]
  · rename_i he
    rw [if_neg he]
    obtain ⟨mid, hmid, hafter⟩ := bind_eq_ok_iff.1 h
    cases hafter
    have hunit := Extends.addUnit hmid
    exact ⟨hunit.units, by rw [hunit.fields, List.append_nil]; rfl, hunit.nodup⟩

theorem addFields_extends {fields : List GraphField}
    (h : fields.foldlM (addField drafting type) blueprint = .ok after) :
    Extends blueprint
      ((fields.filter fun field => !field.arguments.isEmpty).map (drafting.argumentsUnit type))
      ((fields.filter fun field => !field.arguments.isEmpty).map (drafting.plannedField type))
      after := by
  induction fields generalizing blueprint with
  | nil => exact foldlM_nil_eq_ok_iff.1 h ▸ Extends.refl blueprint
  | cons field rest ih =>
    obtain ⟨mid, hmid, hrest⟩ := foldlM_cons_eq_ok_iff.1 h
    have hfield := addField_extends hmid
    cases he : field.arguments.isEmpty
    · rw [List.filter_cons_of_pos (by simp [he])]
      rw [he] at hfield
      exact hfield.trans (ih hrest)
    · rw [List.filter_cons_of_neg (by simp [he])]
      rw [he] at hfield
      exact hfield ▸ ih hrest

theorem addInputFields_extends {fields : List GraphField} {plan final : ObjectPlan}
    (h : fields.foldlM (addInputField drafting type) (blueprint, plan) = .ok (after, final)) :
    Extends blueprint ((fields.filter (drafting.hasUnit type)).map (drafting.inputUnit type)) []
        after ∧
      final = (fields.filter (drafting.hasUnit type)).foldl (drafting.planInput type) plan := by
  induction fields generalizing blueprint plan with
  | nil =>
    cases foldlM_nil_eq_ok_iff.1 h
    exact ⟨Extends.refl _, rfl⟩
  | cons field rest ih =>
    obtain ⟨⟨mid, planned⟩, hmid, hrest⟩ := foldlM_cons_eq_ok_iff.1 h
    obtain ⟨hext, hfinal⟩ := ih hrest
    unfold addInputField at hmid
    dsimp only at hmid
    split at hmid
    · rename_i hs
      have hs : drafting.hasUnit type field = true := hs
      obtain ⟨next, hnext, heq⟩ := bind_eq_ok_iff.1 hmid
      cases heq
      rw [List.filter_cons_of_pos hs]
      exact ⟨(Extends.addUnit hnext).trans hext, hfinal⟩
    · rename_i hs
      have hs : ¬drafting.hasUnit type field = true := hs
      split at hmid <;> cases hmid
      rw [List.filter_cons_of_neg hs]
      exact ⟨hext, hfinal⟩

theorem addType_extends (h : addType drafting blueprint type = .ok after) :
    Extends blueprint (drafting.typeUnits type) (drafting.typeFields type) after := by
  unfold addType at h
  unfold Drafting.typeUnits Drafting.typeFields
  split
  · rename_i hi
    rw [if_pos hi] at h
    cases h; exact Extends.refl blueprint
  · rename_i hi
    rw [if_neg hi] at h
    split
    · rename_i hinput
      rw [if_pos hinput] at h
      obtain ⟨⟨mid, plan⟩, hmid, hunit⟩ := bind_eq_ok_iff.1 h
      obtain ⟨hext, rfl⟩ := addInputFields_extends hmid
      exact hext.trans (Extends.addUnit hunit)
    · rename_i hinput
      rw [if_neg hinput] at h
      split
      · rename_i houtput
        rw [if_pos houtput] at h
        exact addFields_extends h
      · rename_i houtput
        rw [if_neg houtput] at h
        cases h; exact Extends.refl blueprint

/-- `addUnit` refuses a name that stands twice. -/
theorem ofGraph_spec (h : ofGraph drafting graph = .ok blueprint) :
    blueprint.units = graph.types.flatMap drafting.typeUnits ∧
      blueprint.fields = graph.types.flatMap drafting.typeFields ∧
      (Members.names blueprint.units).Nodup := by
  refine ⟨?_, ?_, ?_⟩
  · exact foldlM_flatMap Blueprint.units drafting.typeUnits
      (fun _ _ _ _ hstep => (addType_extends hstep).units) h
  · exact foldlM_flatMap Blueprint.fields drafting.typeFields
      (fun _ _ _ _ hstep => (addType_extends hstep).fields) h
  · exact foldlM_invariant (fun blueprint : Blueprint => (Members.names blueprint.units).Nodup)
      (fun _ _ _ _ hd hstep => (addType_extends hstep).nodup hd)
      (show (Members.names ({} : Blueprint).units).Nodup from List.nodup_nil) h

/-! ### Looking units up -/

section
variable (hof : ofGraph drafting graph = .ok blueprint)
include hof

theorem mem_units_iff {unit : String × Fragment} :
    unit ∈ blueprint.units ↔ ∃ type ∈ graph.types, unit ∈ drafting.typeUnits type := by
  rw [(ofGraph_spec hof).1, List.mem_flatMap]

theorem get?_units {unit : String × Fragment} (htype : type ∈ graph.types)
    (hunit : unit ∈ drafting.typeUnits type) : Members.get? blueprint.units unit.1 = some unit.2 :=
  Members.get?_of_mem (ofGraph_spec hof).2.2 ((mem_units_iff hof).2 ⟨type, htype, hunit⟩)

theorem nodup_typeUnits (htype : type ∈ graph.types) :
    (Members.names (drafting.typeUnits type)).Nodup := by
  have hd := (ofGraph_spec hof).2.2
  rw [(ofGraph_spec hof).1, Members.names, List.map_flatMap, List.nodup_flatMap] at hd
  exact hd.1 type htype

theorem not_isIntrospection (hdialect : drafting.dialect = .native)
    (hname : type.name ∈ Members.names blueprint.units) : type.isIntrospection = false := by
  obtain ⟨unit, hunit, hid⟩ := List.mem_map.1 hname
  obtain ⟨other, -, hunit⟩ := (mem_units_iff hof).1 hunit
  have hplain := Drafting.not_introspection_of_mem_typeUnits hdialect hunit
  rw [hid] at hplain
  exact Bool.eq_false_iff.2 fun hp => hplain (List.isPrefixOf_iff_prefix.1 hp)

theorem get?_typeUnit (hdialect : drafting.dialect = .native) (htype : type ∈ graph.types)
    (hinput : type.isInputObject = true) (hname : type.name ∈ Members.names blueprint.units) :
    Members.get? blueprint.units type.name = some (drafting.typeUnit type).2 := by
  have hplain := not_isIntrospection hof hdialect hname
  have hself : drafting.typeUnit type ∈ drafting.typeUnits type := by
    rw [Drafting.typeUnits_inputObject hplain hinput]
    exact List.mem_append.2 (.inr List.mem_cons_self)
  have hid : (drafting.typeUnit type).1 = type.name := by
    rw [Drafting.typeUnit, Drafting.typeId, hdialect, Dialect.referenceId, unitName_type]
  exact hid ▸ get?_units hof htype hself

theorem nodup_shapedFields (htype : type ∈ graph.types) (hplain : type.isIntrospection = false)
    (hinput : type.isInputObject = true) : ((drafting.shapedFields type).map (·.name)).Nodup := by
  have hd := nodup_typeUnits hof htype
  rw [Drafting.typeUnits_inputObject hplain hinput, Members.names, List.map_append, List.map_map] at hd
  exact Drafting.nodup_names_of_fieldIds (List.nodup_append.1 hd).1

theorem nodup_callableFields (htype : type ∈ graph.types) (hplain : type.isIntrospection = false)
    (houtput : type.isOutputObject = true) : (type.callableFields.map (·.name)).Nodup := by
  have hd := nodup_typeUnits hof htype
  rw [Drafting.typeUnits_outputObject hplain houtput, Members.names, List.map_map] at hd
  exact Drafting.nodup_names_of_fieldIds hd

end

end Blueprint

end ArgGuard
