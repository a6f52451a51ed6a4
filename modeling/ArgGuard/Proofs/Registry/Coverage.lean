import ArgGuard.Proofs.Registry.Linked
import ArgGuard.Proofs.Registry.Slots

/-!
# What a registry covers

A registry is compiled from the units of a graph in either dialect, and whatever the overrides and the
hook say, its units and its validated fields are those that the graph calls for (`covers_graph`): a unit
for every field that takes arguments, one for every input object, and one for every field of an input
object that has a shape. The unit of an input object holds the units of its fields, unless the override
of the type brings properties of its own.
-/

namespace ArgGuard

variable {options : BackendOptions} {hook : Option InferenceHook} {overrides : Overrides}
  {graph : TypeGraph} {drafting : Drafting} {type : GraphType} {field : GraphField}
  {blueprint : Blueprint} {registry : Registry}

/-- A field of an object or interface that takes arguments. -/
structure TypeGraph.TakesArguments (graph : TypeGraph) (type : GraphType) (field : GraphField) : Prop where
  declared : type ∈ graph.types
  plain : type.isIntrospection = false
  output : type.isOutputObject = true
  callable : field ∈ type.callableFields

/-- An input object that does not belong to introspection. -/
structure TypeGraph.HasInput (graph : TypeGraph) (type : GraphType) : Prop where
  declared : type ∈ graph.types
  plain : type.isIntrospection = false
  input : type.isInputObject = true

/-- Whether the override of an input object has a key. -/
def Overrides.typeSupplies (overrides : Overrides) (typeName key : String) : Bool :=
  (overrides.type? typeName).any (Members.contains · key)

/-- The list of required properties in the unit of an input object. -/
def Dialect.requiredMember (dialect : Dialect) (required : List String) : Option Json :=
  match dialect with
  | jsonSchema => if required.isEmpty then none else some (requiredValue required)
  | native => some (requiredValue required)

/-! ### Input objects -/

namespace Drafting

/-- `inputPlan` as `addSlot` over the fields with a shape. -/
theorem inputPlan_eq_foldl : drafting.inputPlan type =
    ((drafting.shapedFields type).map fun field => (field.name, field.position)).foldl
      (ObjectPlan.addSlot fun slot => drafting.inference.synthesize slot.2
        (drafting.overrides.inputField? ⟨type.name, slot.1⟩)
        (drafting.dialect.referenceId type.name (some slot.1) none)) {} := by
  rw [List.foldl_map]
  rfl

theorem inputPlan_properties (hd : ((drafting.shapedFields type).map (·.name)).Nodup) :
    (drafting.inputPlan type).properties =
      (drafting.shapedFields type).map fun field => (field.name, drafting.inputFragment type field) := by
  have hslots : (Members.names ((drafting.shapedFields type).map fun field =>
      (field.name, field.position))).Nodup := by
    rwa [Members.names, List.map_map]
  rw [inputPlan_eq_foldl, ObjectPlan.foldl_addSlot_properties _ (by simpa [Members.names] using hslots),
    List.map_map]
  rfl

theorem inputPlan_required : (drafting.inputPlan type).required =
    ((drafting.shapedFields type).filter fun field => field.position.nonNull).map (·.name) := by
  rw [inputPlan_eq_foldl, ObjectPlan.foldl_addSlot_required, requiredSlots, List.filter_map, List.map_map]
  rfl

/-- A key that the override of the type does not supply is that of `Dialect.typeUnit`. -/
theorem get?_typeUnit {key : String} (htag : key ≠ drafting.dialect.tagKey)
    (habsent : drafting.overrides.typeSupplies type.name key = false) :
    Members.get? (drafting.typeUnit type).2 key = Members.get? (drafting.dialect.typeUnit
      (drafting.inputPlan type).properties (drafting.inputPlan type).required) key := by
  rw [typeUnit, typeFragment]
  dsimp only
  rw [Dialect.get?_tag htag]
  rw [Overrides.typeSupplies] at habsent
  cases hoverride : drafting.overrides.type? type.name with
  | none => rfl
  | some override =>
    rw [hoverride, Option.any_some] at habsent
    exact Dialect.get?_merge_of_absent habsent

theorem tag_of_mem_typeUnits {unit : String × Fragment} (h : unit ∈ drafting.typeUnits type) :
    Members.get? unit.2 drafting.dialect.tagKey = some (.string unit.1) := by
  obtain ⟨-, ⟨field, -, rfl⟩ | rfl | ⟨field, -, rfl⟩⟩ := mem_typeUnits h
  · exact Dialect.get?_tag_tagKey _
  · exact Dialect.get?_tag_tagKey _
  · exact Dialect.get?_tag_tagKey _

end Drafting

/-! ### Units and fields -/

namespace Blueprint

variable (hof : ofGraph drafting graph = .ok blueprint)
include hof

theorem argumentsUnit_mem (h : graph.TakesArguments type field) :
    drafting.argumentsUnit type field ∈ blueprint.units :=
  (mem_units_iff hof).2 ⟨type, h.declared, Drafting.mem_typeUnits_iff.2
    ⟨h.plain, .inr (.inr ⟨h.output, field, h.callable, rfl⟩)⟩⟩

theorem inputUnit_mem (h : graph.HasInput type) (hfield : field ∈ drafting.shapedFields type) :
    drafting.inputUnit type field ∈ blueprint.units :=
  (mem_units_iff hof).2 ⟨type, h.declared, Drafting.mem_typeUnits_iff.2
    ⟨h.plain, .inl ⟨h.input, field, hfield, rfl⟩⟩⟩

theorem typeUnit_mem (h : graph.HasInput type) : drafting.typeUnit type ∈ blueprint.units :=
  (mem_units_iff hof).2 ⟨type, h.declared, Drafting.mem_typeUnits_iff.2
    ⟨h.plain, .inr (.inl ⟨h.input, rfl⟩)⟩⟩

theorem mem_names_iff {id : String} : id ∈ Members.names blueprint.units ↔
    (∃ type field, graph.TakesArguments type field ∧ id = drafting.fieldId type field) ∨
    (∃ type field, graph.HasInput type ∧ field ∈ drafting.shapedFields type ∧
      id = drafting.fieldId type field) ∨
    ∃ type, graph.HasInput type ∧ id = drafting.typeId type := by
  constructor
  · intro hid
    obtain ⟨unit, hunit, rfl⟩ := List.mem_map.1 hid
    obtain ⟨type, htype, hunit⟩ := (mem_units_iff hof).1 hunit
    obtain ⟨hplain, ⟨hinput, field, hfield, rfl⟩ | ⟨hinput, rfl⟩ | ⟨houtput, field, hfield, rfl⟩⟩ :=
      Drafting.mem_typeUnits_iff.1 hunit
    · exact .inr (.inl ⟨type, field, ⟨htype, hplain, hinput⟩, hfield, rfl⟩)
    · exact .inr (.inr ⟨type, ⟨htype, hplain, hinput⟩, rfl⟩)
    · exact .inl ⟨type, field, ⟨htype, hplain, houtput, hfield⟩, rfl⟩
  · rintro (⟨type, field, hfield, rfl⟩ | ⟨type, field, htype, hfield, rfl⟩ | ⟨type, htype, rfl⟩)
    · exact List.mem_map.2 ⟨_, argumentsUnit_mem hof hfield, rfl⟩
    · exact List.mem_map.2 ⟨_, inputUnit_mem hof htype hfield, rfl⟩
    · exact List.mem_map.2 ⟨_, typeUnit_mem hof htype, rfl⟩

theorem mem_fields_iff {planned : PlannedField} : planned ∈ blueprint.fields ↔
    ∃ type field, graph.TakesArguments type field ∧ planned = drafting.plannedField type field := by
  rw [(ofGraph_spec hof).2.1, List.mem_flatMap]
  constructor
  · rintro ⟨type, htype, hplanned⟩
    obtain ⟨hplain, houtput, field, hfield, rfl⟩ := Drafting.mem_typeFields_iff.1 hplanned
    exact ⟨type, field, ⟨htype, hplain, houtput, hfield⟩, rfl⟩
  · rintro ⟨type, field, h, rfl⟩
    exact ⟨type, h.declared, Drafting.mem_typeFields_iff.2 ⟨h.plain, h.output, field, h.callable, rfl⟩⟩

theorem planned_unique {planned another : PlannedField} (hplanned : planned ∈ blueprint.fields)
    (hanother : another ∈ blueprint.fields) (hcoordinate : planned.coordinate = another.coordinate) :
    planned = another := by
  obtain ⟨type, field, hfield, rfl⟩ := (mem_fields_iff hof).1 hplanned
  obtain ⟨other, found, hfound, rfl⟩ := (mem_fields_iff hof).1 hanother
  obtain ⟨htypeName, hfieldName⟩ := Coordinate.mk.inj hcoordinate
  obtain rfl : type = other :=
    List.inj_on_of_nodup_map graph.distinct hfield.declared hfound.declared htypeName
  have hd := nodup_callableFields hof hfield.declared hfield.plain hfield.output
  obtain rfl : field = found := List.inj_on_of_nodup_map hd hfield.callable hfound.callable hfieldName
  rfl

end Blueprint

namespace Registry

/-! ### Blueprints and registries -/

def fragment (registry : Registry) (id : String) : Fragment :=
  ((registry.unit? id).map (·.fragment)).getD []

/-! ### Coverage -/

/-- A registry that has the units and fields which a graph calls for, and no others. -/
structure Covers (drafting : Drafting) (graph : TypeGraph) (registry : Registry) : Prop where
  distinct : (registry.units.map (·.id)).Nodup
  units : ∀ id, id ∈ registry.units.map (·.id) ↔
    (∃ type field, graph.TakesArguments type field ∧ id = drafting.fieldId type field) ∨
    (∃ type field, graph.HasInput type ∧ field ∈ drafting.shapedFields type ∧
      id = drafting.fieldId type field) ∨
    ∃ type, graph.HasInput type ∧ id = drafting.typeId type
  intercepts : ∀ coordinate, registry.intercepts coordinate = true ↔
    ∃ type field, graph.TakesArguments type field ∧ coordinate = ⟨type.name, field.name⟩
  validators : ∀ type field, graph.TakesArguments type field → ∃ compiled unit,
    registry.field? ⟨type.name, field.name⟩ = some compiled ∧
      registry.unit? (drafting.fieldId type field) = some unit ∧ compiled.unitId = unit.id ∧
      compiled.validator = unit.validator
  tags : ∀ unit ∈ registry.units,
    Members.get? unit.fragment drafting.dialect.tagKey = some (.string unit.id)
  properties : ∀ type, graph.HasInput type →
    drafting.overrides.typeSupplies type.name "properties" = false →
      Members.get? (registry.fragment (drafting.typeId type)) "properties" =
        some (.object ((drafting.shapedFields type).map fun field =>
          (field.name, .object (registry.fragment (drafting.fieldId type field)))))
  required : ∀ type, graph.HasInput type →
    drafting.overrides.typeSupplies type.name "required" = false →
      Members.get? (registry.fragment (drafting.typeId type)) "required" =
        drafting.dialect.requiredMember
          (((drafting.shapedFields type).filter fun field => field.position.nonNull).map (·.name))

namespace Carries

variable (h : Carries blueprint registry)
include h

theorem intercepts_iff (hof : Blueprint.ofGraph drafting graph = .ok blueprint) {coordinate : Coordinate} :
    registry.intercepts coordinate = true ↔
      ∃ type field, graph.TakesArguments type field ∧ coordinate = ⟨type.name, field.name⟩ := by
  have hfields : registry.intercepts coordinate = true ↔
      coordinate ∈ registry.fields.map (·.coordinate) := by
    rw [intercepts, field?, List.find?_isSome, List.mem_map]
    simp only [decide_eq_true_eq]
  rw [hfields, h.coordinates, List.mem_map]
  constructor
  · rintro ⟨planned, hplanned, rfl⟩
    obtain ⟨type, field, hfield, rfl⟩ := (Blueprint.mem_fields_iff hof).1 hplanned
    exact ⟨type, field, hfield, rfl⟩
  · rintro ⟨type, field, hfield, rfl⟩
    exact ⟨_, (Blueprint.mem_fields_iff hof).2 ⟨type, field, hfield, rfl⟩, rfl⟩

theorem exists_validator (hof : Blueprint.ofGraph drafting graph = .ok blueprint)
    (hfield : graph.TakesArguments type field) : ∃ compiled unit,
      registry.field? ⟨type.name, field.name⟩ = some compiled ∧
        registry.unit? (drafting.fieldId type field) = some unit ∧ compiled.unitId = unit.id ∧
        compiled.validator = unit.validator := by
  have hintercepted := (h.intercepts_iff hof).2 ⟨type, field, hfield, rfl⟩
  obtain ⟨compiled, hcompiled⟩ := Option.isSome_iff_exists.1 hintercepted
  obtain ⟨planned, hplanned, unit, hunit, hcompiledEq⟩ :=
    exists_mem_of_forall₂ h.fields (List.mem_of_find?_eq_some hcompiled)
  have hcoordinate : compiled.coordinate = ⟨type.name, field.name⟩ :=
    of_decide_eq_true (List.find?_some hcompiled :)
  -- the name of the unit follows from the coordinate, so the field that was found may be any of this name
  obtain ⟨other, found, -, rfl⟩ := (Blueprint.mem_fields_iff hof).1 hplanned
  subst hcompiledEq
  obtain ⟨htypeName, hfieldName⟩ := Coordinate.mk.inj hcoordinate
  have hid : (drafting.plannedField other found).unitId = drafting.fieldId type field := by
    rw [Drafting.plannedField, Drafting.fieldId, Drafting.fieldId, htypeName, hfieldName]
  rw [hid] at hunit
  exact ⟨_, unit, hcompiled, hunit, hid.trans (unit?_eq_some hunit).2.symm, rfl⟩

theorem fragment_eq (hof : Blueprint.ofGraph drafting graph = .ok blueprint) {unit : String × Fragment}
    (hunit : unit ∈ blueprint.units) : registry.fragment unit.1 = unit.2 := by
  rw [fragment, ← h.get?_units, Members.get?_of_mem (Blueprint.ofGraph_spec hof).2.2 hunit]
  rfl

theorem tag (hof : Blueprint.ofGraph drafting graph = .ok blueprint) {unit : CompiledUnit}
    (hunit : unit ∈ registry.units) :
    Members.get? unit.fragment drafting.dialect.tagKey = some (.string unit.id) := by
  have hmem : (unit.id, unit.fragment) ∈ blueprint.units := h.units ▸ List.mem_map.2 ⟨unit, hunit, rfl⟩
  obtain ⟨type, -, hunit⟩ := (Blueprint.mem_units_iff hof).1 hmem
  exact Drafting.tag_of_mem_typeUnits hunit

theorem properties (hof : Blueprint.ofGraph drafting graph = .ok blueprint) (htype : graph.HasInput type)
    (habsent : drafting.overrides.typeSupplies type.name "properties" = false) :
    Members.get? (registry.fragment (drafting.typeId type)) "properties" =
      some (.object ((drafting.shapedFields type).map fun field =>
        (field.name, .object (registry.fragment (drafting.fieldId type field))))) := by
  have hunit : registry.fragment (drafting.typeId type) = (drafting.typeUnit type).2 :=
    h.fragment_eq hof (Blueprint.typeUnit_mem hof htype)
  have hd := Blueprint.nodup_shapedFields hof htype.declared htype.plain htype.input
  have hget : ∀ properties required, Members.get? (drafting.dialect.typeUnit properties required)
      "properties" = some (Dialect.propertiesValue properties) := by
    intro properties required
    cases drafting.dialect <;> rfl
  rw [hunit, Drafting.get?_typeUnit (by cases drafting.dialect <;> decide) habsent, hget,
    Drafting.inputPlan_properties hd, Dialect.propertiesValue, Members.mapValues, List.map_map]
  congr 2
  refine List.map_congr_left fun field hfield => ?_
  have hfragment : registry.fragment (drafting.fieldId type field) = drafting.inputFragment type field :=
    h.fragment_eq hof (Blueprint.inputUnit_mem hof htype hfield)
  rw [hfragment]
  rfl

theorem required (hof : Blueprint.ofGraph drafting graph = .ok blueprint) (htype : graph.HasInput type)
    (habsent : drafting.overrides.typeSupplies type.name "required" = false) :
    Members.get? (registry.fragment (drafting.typeId type)) "required" =
      drafting.dialect.requiredMember
        (((drafting.shapedFields type).filter fun field => field.position.nonNull).map (·.name)) := by
  have hunit : registry.fragment (drafting.typeId type) = (drafting.typeUnit type).2 :=
    h.fragment_eq hof (Blueprint.typeUnit_mem hof htype)
  have hget : ∀ properties required, Members.get? (drafting.dialect.typeUnit properties required)
      "required" = drafting.dialect.requiredMember required := by
    intro properties required
    cases drafting.dialect <;> cases required <;> rfl
  rw [hunit, Drafting.get?_typeUnit (by cases drafting.dialect <;> decide) habsent, hget,
    Drafting.inputPlan_required]

end Carries

/-- A compiled registry `Covers` its graph, whatever the overrides and the hook say. -/
theorem covers_graph (options : BackendOptions) (hook : Option InferenceHook) (overrides : Overrides)
    (graph : TypeGraph) (registry : Registry)
    (h : compile options hook overrides graph = .ok registry) :
    Covers ⟨⟨options.dialect, hook, graph.enumerations⟩, overrides⟩ graph registry := by
  obtain ⟨blueprint, hof, hcarries⟩ := compile_carries h
  exact {
    distinct := by
      rw [hcarries.names]
      exact (Blueprint.ofGraph_spec hof).2.2
    units := by
      intro id
      rw [hcarries.names]
      exact Blueprint.mem_names_iff hof
    intercepts := fun _ => hcarries.intercepts_iff hof
    validators := fun _ _ hfield => hcarries.exists_validator hof hfield
    tags := fun _ hunit => hcarries.tag hof hunit
    properties := fun _ htype habsent => hcarries.properties hof htype habsent
    required := fun _ htype habsent => hcarries.required hof htype habsent }

/-- A document with a field that takes no arguments, and one of a scalar of which nothing is known. -/
def messagesDocument : List TypeDefinition :=
  [⟨"Query", [], .object
      [⟨"message", [⟨"id", .named "ID" false, []⟩], .named "String" false, []⟩,
        ⟨"search", [⟨"filters", .named "Filters" true, []⟩], .named "String" false, []⟩,
        ⟨"version", [], .named "String" false, []⟩]⟩,
    ⟨"Filters", [], .inputObject
      [⟨"id", .named "ID" true, []⟩, ⟨"nested", .named "Filters" false, []⟩,
        ⟨"since", .named "DateTime" false, []⟩]⟩,
    ⟨"DateTime", [], .scalar⟩]

/-- Overrides that try to give a unit another name and other required properties. -/
def messagesOverrides : Overrides where
  types := [("Filters", [("$id", .string "Other"), ("required", .array [.string "nested"])])]

theorem covers_graph_messages :
    ∃ registry, compile (.native {}) none messagesOverrides (.ofDefinitions messagesDocument) = .ok registry ∧
      registry.units.map (·.id) =
        ["Query.message", "Query.search", "Filters.id", "Filters.nested", "Filters"] ∧
      Covers ⟨⟨.native, none, (TypeGraph.ofDefinitions messagesDocument).enumerations⟩, messagesOverrides⟩
        (.ofDefinitions messagesDocument) registry := by
  have hrun : ((compile (.native {}) none messagesOverrides (.ofDefinitions messagesDocument)).toOption.any
      fun registry => registry.units.map (·.id) =
        ["Query.message", "Query.search", "Filters.id", "Filters.nested", "Filters"]) = true := by
    decide +kernel
  obtain ⟨registry, h, hids⟩ := exists_ok_of_any hrun
  have hcovers := covers_graph (.native {}) none messagesOverrides (.ofDefinitions messagesDocument)
    registry h
  exact ⟨registry, h, of_decide_eq_true hids, hcovers⟩

end Registry

end ArgGuard
