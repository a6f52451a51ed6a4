import ArgGuard.Proofs.JsonSchema.Definitions
import ArgGuard.Proofs.Registry.Compiled

/-!
# Linked registries

In JSON Schema every unit is checked when it is registered, and then compiled on its own: the engine loads
the document in which all units stand, and prepares the reference to the unit. `compile_jsonSchema` says
what is left of these passes when none of them failed, whatever the engine.
-/

namespace ArgGuard

open JsonSchema

variable {options : JsonSchemaOptions} {hook : Option InferenceHook} {overrides : Overrides}
  {graph : TypeGraph} {blueprint : Blueprint} {registry : Registry}

namespace Backend

theorem linkUnit_eq_ok_iff [Engine] {backend : Backend} {id : String} {fragment : Fragment}
    {validator : Validator} : backend.linkUnit options id fragment = .ok validator ↔
      ∃ loaded errors, Engine.load options.draft backend.document = .ok loaded ∧
        Engine.prepare options.draft options.reading loaded id = .ok errors ∧
        validator = .jsonSchema
          (if options.coercing then some (.object fragment, backend.definitions) else none) errors := by
  unfold linkUnit
  simp only [bind_eq_ok_iff, mapError_eq_ok_iff, exists_and_left]
  refine exists_congr fun loaded => and_congr_right fun _ => exists_congr fun errors => ?_
  exact and_congr_right fun _ => ⟨fun h => (Except.ok.inj h).symm, fun h => congrArg Except.ok h.symm⟩

end Backend

namespace Registry

/-! ### The place of a unit -/

theorem get?_definitions {options : BackendOptions} {units : Members Fragment} {names : List String}
    {name : String} {fragment : Fragment}
    (hnames : Members.names units = names.map (definitionsPath ++ ·)) (hd : names.Nodup)
    (hunit : (definitionsPath ++ name, fragment) ∈ units) :
    Members.get? (Backend.definitions ⟨options, units⟩) name = some (.object fragment) := by
  have hdefinitions : Members.names (Backend.definitions ⟨options, units⟩) = names := by
    have hstrip : Members.names (Backend.definitions ⟨options, units⟩) =
        (Members.names units).map fun id => (afterText? definitionsPath id).getD id := by
      simp [Members.names, Backend.definitions]
    rw [hstrip, hnames, List.map_map]
    refine (List.map_congr_left fun name _ => ?_).trans (List.map_id names)
    simp [afterText?_append]
  refine Members.get?_of_mem (hdefinitions ▸ hd) (List.mem_map.2 ⟨_, hunit, ?_⟩)
  simp [afterText?_append]

/-! ### What was compiled -/

/-- A registry of JSON Schema whose units were linked in one document. -/
structure Linked [Engine] (options : JsonSchemaOptions) (blueprint : Blueprint) (registry : Registry) :
    Prop where
  resolved : blueprint.danglingReference? .jsonSchema = none
  units : List.Forall₂ (fun unit compiled => compiled.id = unit.1 ∧ compiled.fragment = unit.2 ∧
    Backend.linkUnit ⟨.jsonSchema options, blueprint.units⟩ options unit.1 unit.2 =
      .ok compiled.validator) blueprint.units registry.units
  fields : List.Forall₂ (fun planned compiled => ∃ unit, registry.unit? planned.unitId = some unit ∧
    compiled = ⟨planned.coordinate, planned.unitId, unit.validator, planned.functions⟩)
    blueprint.fields registry.fields

theorem Linked.units_eq [Engine] (h : Linked options blueprint registry) :
    registry.units.map (fun unit => (unit.id, unit.fragment)) = blueprint.units := by
  refine List.forall₂_eq_eq_eq ▸ List.forall₂_map_left_iff.2 (h.units.flip.imp ?_)
  exact fun _ _ hunit => Prod.ext hunit.1 hunit.2.1

theorem Linked.carries [Engine] (h : Linked options blueprint registry) : Carries blueprint registry :=
  ⟨h.units_eq, h.fields⟩

theorem Linked.names [Engine] (h : Linked options blueprint registry) :
    registry.units.map (·.id) = Members.names blueprint.units :=
  h.carries.names

theorem Linked.coordinates [Engine] (h : Linked options blueprint registry) :
    registry.fields.map (·.coordinate) = blueprint.fields.map (·.coordinate) :=
  h.carries.coordinates

theorem Linked.linkUnit [Engine] (h : Linked options blueprint registry)
    (hd : (Members.names blueprint.units).Nodup) {id : String} {fragment : Fragment} {unit : CompiledUnit}
    (hfragment : Members.get? blueprint.units id = some fragment) (hunit : registry.unit? id = some unit) :
    Backend.linkUnit ⟨.jsonSchema options, blueprint.units⟩ options id fragment = .ok unit.validator := by
  obtain ⟨hmem, hid⟩ := unit?_eq_some hunit
  obtain ⟨registered, hregistered, hname, -, hlink⟩ := exists_mem_of_forall₂ h.units hmem
  have hfound := Members.get?_of_mem hd hregistered
  rw [← hname, hid] at hfound hlink
  rwa [Option.some.inj (hfound.symm.trans hfragment)] at hlink

theorem compileUnit_jsonSchema [Engine] {units : Members Fragment} {unit : String × Fragment}
    {compiled : CompiledUnit} (hd : (Members.names units).Nodup) (hunit : unit ∈ units)
    (h : compileUnit ⟨.jsonSchema options, units⟩ unit = .ok compiled) :
    compiled.id = unit.1 ∧ compiled.fragment = unit.2 ∧
      Backend.linkUnit ⟨.jsonSchema options, units⟩ options unit.1 unit.2 = .ok compiled.validator := by
  obtain ⟨validator, hvalidator, heq⟩ := bind_eq_ok_iff.1 h
  cases heq
  rw [Backend.compile, Members.get?_of_mem hd hunit] at hvalidator
  exact ⟨rfl, rfl, hvalidator⟩

theorem compile_jsonSchema_total [Engine] {units : Members Fragment} (hd : (Members.names units).Nodup)
    (hlink : ∀ unit ∈ units, ∃ validator,
      Backend.linkUnit ⟨.jsonSchema options, units⟩ options unit.1 unit.2 = .ok validator) :
    ∀ unit ∈ units, ∃ validator, Backend.compile ⟨.jsonSchema options, units⟩ unit.1 = .ok validator := by
  intro unit hunit
  rw [Backend.compile, Members.get?_of_mem hd hunit]
  exact hlink unit hunit

/-- The `Linked` registry of a blueprint. -/
theorem compile_jsonSchema [Engine] (h : compile (.jsonSchema options) hook overrides graph = .ok registry) :
    ∃ blueprint,
      Blueprint.ofGraph ⟨⟨.jsonSchema, hook, graph.enumerations⟩, overrides⟩ graph = .ok blueprint ∧
        Linked options blueprint registry := by
  obtain ⟨blueprint, hof, hresolved, hunits, hfields, -⟩ := compile_ok h
  have hd := (Blueprint.ofGraph_spec hof).2.2
  refine ⟨blueprint, hof, hresolved, ?_, ?_⟩
  · exact ((List.forall₂_and_left _ _).2 ⟨fun _ h => h, mapM_eq_ok_iff.1 hunits⟩).imp
      fun _ _ ⟨hunit, hcompiled⟩ => compileUnit_jsonSchema hd hunit hcompiled
  · exact (mapM_eq_ok_iff.1 hfields).imp fun _ _ => compileField_eq_ok_iff.1

end Registry

end ArgGuard
