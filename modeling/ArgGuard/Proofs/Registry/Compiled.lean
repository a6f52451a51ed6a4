import ArgGuard.Proofs.Registry.Units
import ArgGuard.Registry.Basic

/-!
# Compiled registries

Compiling a blueprint goes through several passes that may each fail. `compile_ok` says what was done
when none did, and `compile_carries` what is left of it in either dialect: the units and fields of the
blueprint. `compile_native` says more of a native registry: every unit's fragment was read as a shape,
and all validators look their unit up in one and the same table of these shapes.
-/

namespace ArgGuard

variable {options : NativeOptions} {hook : Option InferenceHook} {overrides : Overrides}
  {graph : TypeGraph} {blueprint : Blueprint} {table : UnitTable} {registry : Registry}

/-! ### The table of shapes -/

/-- A table of the shapes of units, in the order of the units. -/
def UnitTable.Reads (table : UnitTable) (units : Members Fragment) : Prop :=
  List.Forall₂ (fun unit entry => entry.1 = unit.1 ∧ Shape.ofFragment unit.2 = .ok entry.2) units table

namespace UnitTable.Reads

variable {units : Members Fragment} {id : String} {fragment : Fragment}

theorem exists_fragment (h : table.Reads units) {entry : String × Shape} (hentry : entry ∈ table) :
    ∃ fragment, (entry.1, fragment) ∈ units ∧ Shape.ofFragment fragment = .ok entry.2 := by
  obtain ⟨unit, hunit, hid, hread⟩ := exists_mem_of_forall₂ h hentry
  exact ⟨unit.2, hid ▸ hunit, hread⟩

theorem get? (h : table.Reads units) (hid : Members.get? units id = some fragment) :
    ∃ shape, Members.get? table id = some shape ∧ Shape.ofFragment fragment = .ok shape := by
  induction h with
  | nil => cases hid
  | @cons unit entry _ _ hentry _ ih =>
    rw [Members.get?_cons] at hid
    by_cases hu : unit.1 = id
    · rw [if_pos hu] at hid
      cases hid
      exact ⟨entry.2, by rw [Members.get?_cons, if_pos (hentry.1.trans hu)], hentry.2⟩
    · rw [if_neg hu] at hid
      obtain ⟨shape, hshape, hread⟩ := ih hid
      exact ⟨shape, by rwa [Members.get?_cons, if_neg fun he => hu (hentry.1.symm.trans he)], hread⟩

theorem exists_shape (h : table.Reads units) (hid : id ∈ Members.names units) :
    ∃ shape, Members.get? table id = some shape := by
  obtain ⟨fragment, hfragment⟩ := Members.contains_iff.1 (Members.mem_names_iff.1 hid)
  obtain ⟨shape, hshape, -⟩ := h.get? hfragment
  exact ⟨shape, hshape⟩

theorem get?_eq (h : table.Reads units) (id : String) : Members.get? table id =
    (Members.get? units id).bind fun fragment => (Shape.ofFragment fragment).toOption := by
  induction h with
  | nil => rfl
  | @cons unit entry _ _ hentry _ ih =>
    rw [Members.get?_cons, Members.get?_cons, ih, hentry.1]
    split
    · rw [Option.bind_some, hentry.2]
      rfl
    · rfl

end UnitTable.Reads

/-! ### The passes of a compilation -/

namespace Registry

theorem registerUnits_eq_ok [JsonSchema.Engine] {options : BackendOptions} {backend : Backend}
    (h : registerUnits options blueprint = .ok backend) : backend = ⟨options, blueprint.units⟩ := by
  have hunits := foldlM_flatMap Backend.units (fun unit => [unit]) (fun unit _ before after hstep => by
    simp only [Backend.register] at hstep
    split at hstep <;> cases hstep
    rfl) h
  have hoptions := foldlM_invariant (fun backend : Backend => backend.options = options)
    (fun unit _ before after hbefore hstep => by
      simp only [Backend.register] at hstep
      split at hstep <;> cases hstep
      exact hbefore) (show (Backend.empty options).options = options from rfl) h
  cases backend
  simp_all [Backend.empty]

theorem compileField_eq_ok_iff {units : List CompiledUnit} {planned : PlannedField}
    {compiled : FieldValidator} :
    compileField units planned = .ok compiled ↔ ∃ unit, units.find? (·.id = planned.unitId) = some unit ∧
      compiled = ⟨planned.coordinate, planned.unitId, unit.validator, planned.functions⟩ := by
  unfold compileField
  cases units.find? (·.id = planned.unitId) <;> simp [eq_comm]

/-- A registry comes from a blueprint without a `danglingReference?`: each unit was compiled beside all
units, and each field has the validator of its unit. -/
theorem compile_ok [JsonSchema.Engine] {options : BackendOptions}
    (h : compile options hook overrides graph = .ok registry) : ∃ blueprint,
      Blueprint.ofGraph ⟨⟨options.dialect, hook, graph.enumerations⟩, overrides⟩ graph = .ok blueprint ∧
      blueprint.danglingReference? options.dialect = none ∧
      blueprint.units.mapM (compileUnit ⟨options, blueprint.units⟩) = .ok registry.units ∧
      blueprint.fields.mapM (compileField registry.units) = .ok registry.fields ∧
      registry.generation = 0 := by
  obtain ⟨blueprint, hblueprint, hof⟩ := bind_eq_ok_iff.1 h
  refine ⟨blueprint, hblueprint, ?_⟩
  unfold ofBlueprint at hof
  split at hof
  · cases hof
  · rename_i hresolved
    obtain ⟨backend, hbackend, hof⟩ := bind_eq_ok_iff.1 hof
    obtain ⟨units, hunits, hof⟩ := bind_eq_ok_iff.1 hof
    obtain ⟨fields, hfields, hof⟩ := bind_eq_ok_iff.1 hof
    cases hof
    obtain rfl := registerUnits_eq_ok hbackend
    exact ⟨hresolved, hunits, hfields, rfl⟩

theorem unit?_eq_some {id : String} {unit : CompiledUnit} (h : registry.unit? id = some unit) :
    unit ∈ registry.units ∧ unit.id = id :=
  ⟨List.mem_of_find?_eq_some h, of_decide_eq_true (List.find?_some h :)⟩

/-- A registry with the units of a blueprint, in which a field has the validator of its unit. -/
structure Carries (blueprint : Blueprint) (registry : Registry) : Prop where
  units : registry.units.map (fun unit => (unit.id, unit.fragment)) = blueprint.units
  fields : List.Forall₂ (fun planned compiled => ∃ unit, registry.unit? planned.unitId = some unit ∧
    compiled = ⟨planned.coordinate, planned.unitId, unit.validator, planned.functions⟩)
    blueprint.fields registry.fields

namespace Carries

variable (h : Carries blueprint registry)
include h

theorem names : registry.units.map (·.id) = Members.names blueprint.units := by
  rw [← h.units, Members.names, List.map_map]
  rfl

theorem get?_units (id : String) :
    Members.get? blueprint.units id = (registry.unit? id).map (·.fragment) := by
  rw [← h.units, unit?]
  induction registry.units with
  | nil => rfl
  | cons unit rest ih =>
    rw [List.map_cons, Members.get?_cons, List.find?_cons]
    by_cases hid : unit.id = id
    · rw [if_pos hid, decide_eq_true hid]
      rfl
    · rw [if_neg hid, decide_eq_false hid, ih]

theorem coordinates : registry.fields.map (·.coordinate) = blueprint.fields.map (·.coordinate) := by
  refine List.forall₂_eq_eq_eq ▸ List.forall₂_map_left_iff.2 (List.forall₂_map_right_iff.2 ?_)
  refine h.fields.flip.imp ?_
  rintro _ planned ⟨unit, -, rfl⟩
  rfl

end Carries

theorem compileUnit_eq_ok [JsonSchema.Engine] {backend : Backend} {unit : String × Fragment}
    {compiled : CompiledUnit} (h : compileUnit backend unit = .ok compiled) : unit = (compiled.id, compiled.fragment) := by
  obtain ⟨validator, -, heq⟩ := bind_eq_ok_iff.1 h
  cases heq
  rfl

theorem compile_carries [JsonSchema.Engine] {options : BackendOptions}
    (h : compile options hook overrides graph = .ok registry) : ∃ blueprint,
    Blueprint.ofGraph ⟨⟨options.dialect, hook, graph.enumerations⟩, overrides⟩ graph = .ok blueprint ∧
      Carries blueprint registry := by
  obtain ⟨blueprint, hof, -, hunits, hfields, -⟩ := compile_ok h
  refine ⟨blueprint, hof, ?_, (mapM_eq_ok_iff.1 hfields).imp fun _ _ => compileField_eq_ok_iff.1⟩
  refine List.forall₂_eq_eq_eq ▸ List.forall₂_map_left_iff.2 ((mapM_eq_ok_iff.1 hunits).flip.imp ?_)
  exact fun _ _ hunit => (compileUnit_eq_ok hunit).symm

/-! ### Native registries -/

/-- The validators of the units and of the fields. -/
def validators (registry : Registry) : List Validator :=
  registry.units.map (·.validator) ++ registry.fields.map (·.validator)

def nativeValidator (options : NativeOptions) (table : UnitTable) (id : String) : Validator :=
  .native id ⟨table, options.coercing⟩

/-- A native registry whose units were read as the shapes of a table. -/
structure Compiled (options : NativeOptions) (blueprint : Blueprint) (table : UnitTable)
    (registry : Registry) : Prop where
  resolved : blueprint.danglingReference? .native = none
  reads : table.Reads blueprint.units
  units : registry.units =
    blueprint.units.map fun unit => ⟨unit.1, unit.2, nativeValidator options table unit.1⟩
  fields : List.Forall₂ (fun planned compiled =>
    planned.unitId ∈ Members.names blueprint.units ∧
      compiled = ⟨planned.coordinate, planned.unitId, nativeValidator options table planned.unitId,
        planned.functions⟩) blueprint.fields registry.fields

theorem readShape_eq_ok_iff {unit : String × Fragment} {entry : String × Shape} :
    Backend.readShape unit = .ok entry ↔
      entry.1 = unit.1 ∧ Shape.ofFragment unit.2 = .ok entry.2 := by
  obtain ⟨id, shape⟩ := entry
  unfold Backend.readShape
  cases Shape.ofFragment unit.2 <;> simp [eq_comm]

theorem compileUnit_native [JsonSchema.Engine] {units : Members Fragment} {unit : String × Fragment}
    {compiled : CompiledUnit}
    (h : compileUnit ⟨.native options, units⟩ unit = .ok compiled) :
    ∃ table, Backend.shapes ⟨.native options, units⟩ = .ok table ∧
      compiled = ⟨unit.1, unit.2, nativeValidator options table unit.1⟩ := by
  obtain ⟨validator, hvalidator, heq⟩ := bind_eq_ok_iff.1 h
  cases heq
  unfold Backend.compile at hvalidator
  split at hvalidator
  · cases hvalidator
  · obtain ⟨table, htable, heq⟩ := bind_eq_ok_iff.1 hvalidator
    cases heq
    exact ⟨table, htable, rfl⟩

theorem compileUnits_native [JsonSchema.Engine] {units : Members Fragment} {compiled : List CompiledUnit}
    (h : units.mapM (compileUnit ⟨.native options, units⟩) = .ok compiled) :
    ∃ table : UnitTable, table.Reads units ∧
      compiled = units.map fun unit => ⟨unit.1, unit.2, nativeValidator options table unit.1⟩ := by
  cases hs : Backend.shapes ⟨.native options, units⟩ with
  | ok table =>
    refine ⟨table, ?_, ?_⟩
    · exact (mapM_eq_ok_iff.1 hs).imp fun _ _ => readShape_eq_ok_iff.1
    · refine (List.forall₂_eq_eq_eq ▸ List.forall₂_map_right_iff.2 ?_ : compiled = _)
      refine (mapM_eq_ok_iff.1 h).flip.imp fun compiled unit hunit => ?_
      obtain ⟨_, ht, heq⟩ := compileUnit_native hunit
      cases hs.symm.trans ht
      exact heq
  | error error =>
    -- every unit is compiled with the whole table, so already the first one would have failed
    cases units with
    | nil => cases hs
    | cons unit rest =>
      cases mapM_eq_ok_iff.1 h with
      | cons hunit _ =>
        obtain ⟨_, ht, -⟩ := compileUnit_native hunit
        cases hs.symm.trans ht

theorem compileField_native {units : Members Fragment} {planned : PlannedField}
    {compiled : FieldValidator}
    (h : compileField (units.map fun unit => ⟨unit.1, unit.2, nativeValidator options table unit.1⟩)
      planned = .ok compiled) :
    planned.unitId ∈ Members.names units ∧
      compiled = ⟨planned.coordinate, planned.unitId, nativeValidator options table planned.unitId,
        planned.functions⟩ := by
  unfold compileField at h
  split at h
  · rename_i found hfound
    cases h
    obtain ⟨unit, hunit, rfl⟩ := List.mem_map.1 (List.mem_of_find?_eq_some hfound)
    have hid : unit.1 = planned.unitId := by simpa using List.find?_some hfound
    rw [← hid]
    exact ⟨List.mem_map.2 ⟨unit, hunit, rfl⟩, rfl⟩
  · cases h

/-- The `Compiled` registry of a blueprint and of the table of its shapes. -/
theorem compile_native [JsonSchema.Engine]
    (h : compile (.native options) hook overrides graph = .ok registry) : ∃ blueprint table,
      Blueprint.ofGraph ⟨⟨.native, hook, graph.enumerations⟩, overrides⟩ graph = .ok blueprint ∧
        Compiled options blueprint table registry := by
  obtain ⟨blueprint, hof, hresolved, hunits, hfields, -⟩ := compile_ok h
  obtain ⟨table, hreads, hcompiled⟩ := compileUnits_native hunits
  rw [hcompiled] at hfields
  refine ⟨blueprint, table, hof, hresolved, hreads, hcompiled, ?_⟩
  exact (mapM_eq_ok_iff.1 hfields).imp fun _ _ => compileField_native

def fieldValidator (options : NativeOptions) (table : UnitTable) (planned : PlannedField) :
    FieldValidator :=
  ⟨planned.coordinate, planned.unitId, nativeValidator options table planned.unitId, planned.functions⟩

theorem Compiled.fields_eq (h : Compiled options blueprint table registry) :
    registry.fields = blueprint.fields.map (fieldValidator options table) := by
  refine (List.forall₂_eq_eq_eq ▸ List.forall₂_map_right_iff.2 ?_ : registry.fields = _)
  exact h.fields.flip.imp fun _ _ hcompiled => hcompiled.2

theorem Compiled.field?_eq (h : Compiled options blueprint table registry) (coordinate : Coordinate) :
    registry.field? coordinate = (blueprint.fields.find? (·.coordinate = coordinate)).map
      (fieldValidator options table) := by
  rw [field?, h.fields_eq, List.find?_map]
  rfl

theorem Compiled.unit?_eq (h : Compiled options blueprint table registry) (id : String) :
    registry.unit? id = (Members.get? blueprint.units id).map fun fragment =>
      ⟨id, fragment, nativeValidator options table id⟩ := by
  rw [unit?, h.units]
  induction blueprint.units with
  | nil => rfl
  | cons unit rest ih =>
    rw [List.map_cons, List.find?_cons, Members.get?_cons]
    by_cases hid : unit.1 = id
    · subst hid
      rw [decide_eq_true rfl, if_pos rfl]
      rfl
    · rw [decide_eq_false hid, if_neg hid]
      exact ih

theorem Compiled.carries (h : Compiled options blueprint table registry) : Carries blueprint registry where
  units := by
    rw [h.units, List.map_map]
    exact List.map_id _
  fields := h.fields.imp fun planned compiled ⟨hid, hcompiled⟩ => by
    obtain ⟨fragment, hfragment⟩ := Members.contains_iff.1 (Members.mem_names_iff.1 hid)
    exact ⟨_, by rw [h.unit?_eq, hfragment]; rfl, hcompiled⟩

theorem Compiled.names (h : Compiled options blueprint table registry) :
    registry.units.map (·.id) = Members.names blueprint.units :=
  h.carries.names

theorem Compiled.coordinates (h : Compiled options blueprint table registry) :
    registry.fields.map (·.coordinate) = blueprint.fields.map (·.coordinate) :=
  h.carries.coordinates

theorem Compiled.validator (h : Compiled options blueprint table registry) {validator : Validator}
    (hv : validator ∈ registry.validators) :
    ∃ id ∈ Members.names blueprint.units, validator = nativeValidator options table id := by
  rcases List.mem_append.1 hv with hv | hv
  · rw [h.units, List.map_map] at hv
    obtain ⟨unit, hunit, rfl⟩ := List.mem_map.1 hv
    exact ⟨unit.1, List.mem_map.2 ⟨unit, hunit, rfl⟩, rfl⟩
  · obtain ⟨compiled, hcompiled, rfl⟩ := List.mem_map.1 hv
    obtain ⟨planned, -, hid, rfl⟩ := exists_mem_of_forall₂ h.fields hcompiled
    exact ⟨planned.unitId, hid, rfl⟩

/-! ### What a validator answers -/

section
variable {id : String} {shape : Shape} {value : Json} (hshape : Members.get? table id = some shape)
include hshape

theorem nativeValidator_error {failures : List ValueFailure} {failure : ValueFailure}
    (hfailed : (nativeValidator options table id).validate value = .error failures)
    (hfailure : failure ∈ failures) :
    ∃ found ∈ (shape.check ⟨table, options.coercing⟩ value).failures, failure = found.report := by
  simp only [nativeValidator, Validator.validate, Validator.checkUnit, hshape, Checked.result] at hfailed
  split at hfailed
  · cases hfailed
  · rename_i hresult
    split at hresult <;> cases hresult
    cases hfailed
    obtain ⟨found, hfound, rfl⟩ := List.mem_map.1 hfailure
    exact ⟨found, hfound, rfl⟩

/-- A `nativeValidator` accepts what `check` finds nothing wrong with, and answers the same. -/
theorem nativeValidator_eq_ok_iff {answer : Json} :
    (nativeValidator options table id).validate value = .ok answer ↔
      (shape.check ⟨table, options.coercing⟩ value).failures = [] ∧
        (shape.check ⟨table, options.coercing⟩ value).value = answer := by
  simp only [nativeValidator, Validator.validate, Validator.checkUnit, hshape, Checked.result]
  cases (shape.check ⟨table, options.coercing⟩ value).failures <;> simp

theorem nativeValidator_ok {answer : Json}
    (haccepted : (nativeValidator options table id).validate value = .ok answer) :
    (shape.check ⟨table, options.coercing⟩ value).failures = [] ∧
      (shape.check ⟨table, options.coercing⟩ value).value = answer :=
  (nativeValidator_eq_ok_iff hshape).1 haccepted

end

end Registry

end ArgGuard
