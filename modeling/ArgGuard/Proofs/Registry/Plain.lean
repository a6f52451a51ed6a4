import ArgGuard.Proofs.JsonSchema.Definitions
import ArgGuard.Proofs.Registry.Slots
import ArgGuard.Proofs.Sdl.Names

/-!
# Plain graphs

A plain graph has nothing that the two dialects treat differently by design: its names are well-formed and
unique where they stand, it has no input objects of introspection, and nothing that is taken is an `ID`.
Without overrides the units that are drawn from it have the same names in both dialects, up to the place of
definitions (`names_typeUnits`), and so have the planned fields.
-/

namespace ArgGuard

open JsonSchema

/-- A graph with well-formed names, as graphs of documents have them, with no two fields or arguments of
one name in one place, no input object of introspection, and no `ID` among what is taken. -/
structure TypeGraph.Plain (graph : TypeGraph) : Prop where
  names : graph.HasNames
  distinctFields : ∀ type ∈ graph.types, (Members.names type.slots).Nodup
  distinctArguments : ∀ type ∈ graph.types, ∀ field ∈ type.fields, (Members.names field.slots).Nodup
  inputObjects : ∀ type ∈ graph.types, type.kind = .inputObject →
    type.isIntrospection = false ∧ ∀ slot ∈ type.slots, slot.2.leafName ≠ "ID"
  arguments : ∀ type ∈ graph.types, ∀ field ∈ type.fields, ∀ slot ∈ field.slots, slot.2.leafName ≠ "ID"

/-- What the units of a graph are drawn from without overrides and without a hook. -/
def Drafting.ofDialect (dialect : Dialect) (graph : TypeGraph) : Drafting :=
  ⟨⟨dialect, none, graph.enumerations⟩, {}⟩

variable {graph : TypeGraph} {type : GraphType} {field : GraphField} {dialect : Dialect}
  {blueprint : Blueprint}

namespace Sdl.IsName

variable {name other : String}

theorem notMem (h : IsName name) : ∀ c ∈ ['%', '/', '~', '#'], c ∉ name.toList := by
  have hbad : (['%', '/', '~', '#'].all fun c => !isNameChar c) = true := by decide
  intro c hc hmem
  have hother := List.all_eq_true.1 hbad c hc
  rw [h c hmem] at hother
  cases hother

theorem isPlainName_type (h : IsName name) : IsPlainName (unitName name none none) := h.notMem

theorem isPlainName_field (h : IsName name) (hother : IsName other) :
    IsPlainName (unitName name (some other) none) := by
  intro c hc hmem
  rw [unitName_field, String.toList_append, String.toList_append, List.mem_append, List.mem_append] at hmem
  rcases hmem with (hmem | hmem) | hmem
  · exact h.notMem c hc hmem
  · obtain rfl : c = '.' := by simpa using hmem
    simp at hc
  · exact hother.notMem c hc hmem

end Sdl.IsName

theorem TypeGraph.Plain.settlesInputs (h : graph.Plain) (hclassified : graph.Classified) :
    graph.SettlesInputs := by
  intro type htype hinput
  refine ⟨h.distinctFields type htype, fun slot hslot => ?_⟩
  obtain ⟨field, hfield, rfl⟩ := List.mem_map.1 hslot
  exact ⟨(hclassified type htype field hfield).1, (h.inputObjects type htype hinput).2 _ hslot⟩

theorem TypeGraph.Plain.settles_slots (h : graph.Plain) (hclassified : graph.Classified)
    (htype : type ∈ graph.types) (hfield : field ∈ type.fields) :
    ∀ slot ∈ field.slots, graph.Settles slot.2 := by
  intro slot hslot
  obtain ⟨argument, hargument, rfl⟩ := List.mem_map.1 hslot
  exact ⟨(hclassified type htype field hfield).2 argument hargument,
    h.arguments type htype field hfield _ hslot⟩

/-! ### Units -/

namespace Drafting

theorem isPlain_ofDialect (dialect : Dialect) (graph : TypeGraph) :
    (ofDialect dialect graph).inference.IsPlain dialect := ⟨rfl, rfl⟩

theorem typeUnit_mem (hplain : graph.Plain) (htype : type ∈ graph.types)
    (hinput : type.kind = .inputObject) :
    (ofDialect dialect graph).typeUnit type ∈ (ofDialect dialect graph).typeUnits type := by
  rw [typeUnits_inputObject (hplain.inputObjects type htype hinput).1 (decide_eq_true hinput)]
  exact List.mem_append_right _ List.mem_cons_self

theorem names_typeUnits (graph : TypeGraph) (type : GraphType) :
    Members.names ((ofDialect .jsonSchema graph).typeUnits type) =
      (Members.names ((ofDialect .native graph).typeUnits type)).map (definitionsPath ++ ·) := by
  have hshaped : (ofDialect .jsonSchema graph).shapedFields type =
      (ofDialect .native graph).shapedFields type := by
    refine List.filter_congr fun field _ => ?_
    rw [hasUnit_eq (isPlain_ofDialect .jsonSchema graph) rfl,
      hasUnit_eq (isPlain_ofDialect .native graph) rfl]
    rfl
  have hfield : ∀ field, (ofDialect .jsonSchema graph).fieldId type field =
      definitionsPath ++ (ofDialect .native graph).fieldId type field := fun _ => rfl
  have htype : (ofDialect .jsonSchema graph).typeId type =
      definitionsPath ++ (ofDialect .native graph).typeId type := rfl
  unfold typeUnits
  rw [hshaped]
  split
  · rfl
  · split
    · simp [Members.names, inputUnit, typeUnit, hfield, htype, Function.comp_def]
    · split
      · simp [Members.names, argumentsUnit, hfield, Function.comp_def]
      · rfl

theorem coordinates_typeFields (graph : TypeGraph) (type : GraphType) :
    ((ofDialect .jsonSchema graph).typeFields type).map (·.coordinate) =
      ((ofDialect .native graph).typeFields type).map (·.coordinate) := by
  unfold typeFields
  split
  · rfl
  · split
    · rfl
    · split
      · simp [plannedField, Function.comp_def]
      · rfl

end Drafting

namespace Blueprint

theorem coordinates_fields {native json : Blueprint}
    (hnative : ofGraph (.ofDialect .native graph) graph = .ok native)
    (hjson : ofGraph (.ofDialect .jsonSchema graph) graph = .ok json) :
    json.fields.map (·.coordinate) = native.fields.map (·.coordinate) := by
  rw [(ofGraph_spec hnative).2.1, (ofGraph_spec hjson).2.1, List.map_flatMap, List.map_flatMap]
  exact List.flatMap_congr fun type _ => Drafting.coordinates_typeFields graph type

section
variable (hof : ofGraph (.ofDialect dialect graph) graph = .ok blueprint) (hplain : graph.Plain)
include hof hplain

theorem plannedField_eq (htype : type ∈ graph.types) (hfield : field ∈ type.fields) {planned : PlannedField}
    (hplanned : planned ∈ blueprint.fields) (hcoordinate : planned.coordinate = ⟨type.name, field.name⟩) :
    planned = (Drafting.ofDialect dialect graph).plannedField type field ∧
      (Drafting.ofDialect dialect graph).argumentsUnit type field ∈
        (Drafting.ofDialect dialect graph).typeUnits type := by
  rw [(ofGraph_spec hof).2.1] at hplanned
  obtain ⟨other, hother, hplanned⟩ := List.mem_flatMap.1 hplanned
  obtain ⟨found, hfound, rfl, hunits⟩ := Drafting.exists_callableField hplanned
  obtain ⟨hname, hfieldName⟩ := Coordinate.mk.inj hcoordinate
  have hsame : other = type := Option.some.inj
    ((TypeGraph.find?_eq_some_iff.2 ⟨hother, hname⟩).symm.trans
      (TypeGraph.find?_eq_some_iff.2 ⟨htype, rfl⟩))
  subst hsame
  have hnames : (other.fields.map (·.name)).Nodup := by
    have hd := hplain.distinctFields other hother
    rwa [Members.names, GraphType.slots, List.map_map] at hd
  have hsame : found = field :=
    List.inj_on_of_nodup_map hnames (List.mem_filter.1 hfound).1 hfield hfieldName
  subst hsame
  exact ⟨rfl, hunits found hfound⟩

end

end Blueprint

end ArgGuard
