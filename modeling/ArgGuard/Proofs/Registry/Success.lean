import ArgGuard.Proofs.Registry.Linked
import ArgGuard.Proofs.Registry.References

/-!
# When a compilation succeeds

Whatever a compilation went through, its outcome follows from the units of the graph. A blueprint can be
drawn if no two units have one name and no override stands at a field of which nothing is known
(`ofGraph_total_iff`), and a native registry can be made of it if moreover every reference names a unit
and every fragment is read as a shape (`compile_total_iff`).
-/

namespace ArgGuard

variable {options : NativeOptions} {hook : Option InferenceHook} {overrides : Overrides}
  {graph : TypeGraph} {drafting : Drafting} {type : GraphType} {blueprint : Blueprint}

namespace Drafting

def units (drafting : Drafting) (graph : TypeGraph) : Members Fragment :=
  graph.types.flatMap drafting.typeUnits

/-- Whether an override was declared for a field of an input object of which nothing is known. -/
def isUntyped (drafting : Drafting) (type : GraphType) (field : GraphField) : Bool :=
  !drafting.hasUnit type field && (drafting.overrides.inputField? ⟨type.name, field.name⟩).isSome

/-- A graph of which a blueprint can be drawn. -/
structure Drawable (drafting : Drafting) (graph : TypeGraph) : Prop where
  distinct : (Members.names (drafting.units graph)).Nodup
  typed : ∀ type ∈ graph.types, type.isIntrospection = false → type.isInputObject = true →
    ∀ field ∈ type.fields, drafting.isUntyped type field = false

/-- A graph of which a native registry can be compiled. -/
structure Compilable (drafting : Drafting) (graph : TypeGraph) : Prop extends
    drafting.Drawable graph where
  resolved : ∀ unit ∈ drafting.units graph, ∀ target ∈ drafting.dialect.references unit.2,
    target ∈ Members.names (drafting.units graph)
  readable : ∀ unit ∈ drafting.units graph, ∃ shape, Shape.ofFragment unit.2 = .ok shape

end Drafting

namespace Blueprint

/-! ### Drawing -/

theorem addUnit_total (unit : String × Fragment) {rest : Members Fragment}
    (hd : (Members.names (blueprint.units ++ (unit :: rest))).Nodup) :
    blueprint.addUnit unit.1 unit.2 =
      .ok { blueprint with units := blueprint.units ++ [unit] } := by
  rw [addUnit, Members.contains_eq_false_of_nodup hd]
  rfl

theorem addField_total {field : GraphField} {rest : Members Fragment}
    (hd : (Members.names (blueprint.units ++ ((if !field.arguments.isEmpty then
      [drafting.argumentsUnit type field] else []) ++ rest))).Nodup) :
    ∃ after, addField drafting type blueprint field = .ok after ∧ after.units = blueprint.units ++
      if !field.arguments.isEmpty then [drafting.argumentsUnit type field] else [] := by
  unfold addField
  cases he : field.arguments.isEmpty with
  | true => exact ⟨blueprint, rfl, by simp⟩
  | false =>
    rw [he] at hd
    have hunit := addUnit_total (drafting.argumentsUnit type field) hd
    exact ⟨_, bind_eq_ok_iff.2 ⟨_, hunit, rfl⟩, rfl⟩

theorem addInputField_total {field : GraphField} {plan : ObjectPlan} {rest : Members Fragment}
    (htyped : drafting.isUntyped type field = false)
    (hd : (Members.names (blueprint.units ++ ((if drafting.hasUnit type field then
      [drafting.inputUnit type field] else []) ++ rest))).Nodup) :
    ∃ after, addInputField drafting type (blueprint, plan) field = .ok after ∧
      after.1.units = blueprint.units ++
        if drafting.hasUnit type field then [drafting.inputUnit type field] else [] := by
  unfold addInputField
  cases hs : drafting.hasUnit type field with
  | true =>
    rw [hs] at hd
    have hunit := addUnit_total (drafting.inputUnit type field) hd
    refine ⟨({ blueprint with units := blueprint.units ++ [drafting.inputUnit type field] },
      drafting.planInput type plan field), ?_, rfl⟩
    have hshape : drafting.dialect.hasShape (drafting.inputFragment type field) = true := hs
    dsimp only
    rw [if_pos hshape]
    exact bind_eq_ok_iff.2 ⟨_, hunit, rfl⟩
  | false =>
    have hshape : ¬drafting.dialect.hasShape (drafting.inputFragment type field) = true :=
      Bool.eq_false_iff.1 hs
    have hnone : ¬(drafting.overrides.inputField? ⟨type.name, field.name⟩).isSome = true := by
      simpa [Drafting.isUntyped, hs] using htyped
    refine ⟨(blueprint, plan), ?_, by simp⟩
    dsimp only
    rw [if_neg hshape, if_neg hnone]
    rfl

theorem addFields_total {fields : List GraphField} {rest : Members Fragment}
    (hd : (Members.names (blueprint.units ++ ((fields.filter fun field => !field.arguments.isEmpty).map
      (drafting.argumentsUnit type) ++ rest))).Nodup) :
    ∃ after, fields.foldlM (addField drafting type) blueprint = .ok after := by
  rw [map_filter_eq_flatMap, ← List.append_assoc] at hd
  refine foldlM_total Blueprint.units _ (fun units => (Members.names (units ++ rest)).Nodup) ?_ hd
  intro field _ blueprint others hothers
  rw [List.append_assoc, List.append_assoc] at hothers
  exact addField_total hothers

theorem addInputFields_total {fields : List GraphField} (plan : ObjectPlan) {rest : Members Fragment}
    (htyped : ∀ field ∈ fields, drafting.isUntyped type field = false)
    (hd : (Members.names (blueprint.units ++ ((fields.filter (drafting.hasUnit type)).map
      (drafting.inputUnit type) ++ rest))).Nodup) :
    ∃ after, fields.foldlM (addInputField drafting type) (blueprint, plan) = .ok after := by
  rw [map_filter_eq_flatMap, ← List.append_assoc] at hd
  refine foldlM_total (fun state : Blueprint × ObjectPlan => state.1.units) _
    (fun units => (Members.names (units ++ rest)).Nodup) ?_ hd
  intro field hfield state others hothers
  rw [List.append_assoc, List.append_assoc] at hothers
  exact addInputField_total (htyped field hfield) hothers

theorem addInputType_total {rest : Members Fragment}
    (htyped : ∀ field ∈ type.fields, drafting.isUntyped type field = false)
    (hd : (Members.names (blueprint.units ++ ((drafting.shapedFields type).map (drafting.inputUnit type) ++
      (drafting.typeUnit type :: rest)))).Nodup) :
    ∃ after, addInputType drafting blueprint type = .ok after := by
  obtain ⟨⟨mid, plan⟩, hmid⟩ := addInputFields_total {} htyped hd
  obtain ⟨hext, rfl⟩ := addInputFields_extends hmid
  rw [← List.append_assoc] at hd
  have hunit : mid.addUnit (drafting.typeUnit type).1 (drafting.typeUnit type).2 = _ :=
    addUnit_total _ (hext.units.symm ▸ hd)
  exact ⟨_, bind_eq_ok_iff.2 ⟨_, hmid, hunit⟩⟩

theorem addType_total {rest : Members Fragment}
    (htyped : type.isIntrospection = false → type.isInputObject = true →
      ∀ field ∈ type.fields, drafting.isUntyped type field = false)
    (hd : (Members.names (blueprint.units ++ (drafting.typeUnits type ++ rest))).Nodup) :
    ∃ after, addType drafting blueprint type = .ok after := by
  unfold addType
  unfold Drafting.typeUnits at hd
  split
  · exact ⟨_, rfl⟩
  · rename_i hplain
    rw [if_neg hplain] at hd
    split
    · rename_i hinput
      rw [if_pos hinput, List.append_assoc] at hd
      exact addInputType_total (htyped (Bool.eq_false_iff.2 hplain) hinput) hd
    · rename_i hinput
      rw [if_neg hinput] at hd
      split
      · rename_i houtput
        rw [if_pos houtput] at hd
        exact addFields_total hd
      · exact ⟨_, rfl⟩

theorem addInputField_typed {field : GraphField} {state after : Blueprint × ObjectPlan}
    (h : addInputField drafting type state field = .ok after) : drafting.isUntyped type field = false := by
  unfold addInputField at h
  dsimp only at h
  split at h
  · rename_i hshape
    simp [Drafting.isUntyped, Drafting.hasUnit, hshape]
  · split at h
    · cases h
    · rename_i hnone
      simp [Drafting.isUntyped, hnone]

theorem addType_typed {after : Blueprint} (h : addType drafting blueprint type = .ok after)
    (hplain : type.isIntrospection = false) (hinput : type.isInputObject = true) :
    ∀ field ∈ type.fields, drafting.isUntyped type field = false := by
  rw [addType, if_neg (by simp [hplain]), if_pos hinput] at h
  obtain ⟨state, hfields, -⟩ := bind_eq_ok_iff.1 h
  intro field hfield
  obtain ⟨before, next, hstep⟩ := exists_step_of_foldlM hfields hfield
  exact addInputField_typed hstep

/-- `Blueprint.ofGraph` succeeds exactly on a `Drawable` graph. -/
theorem ofGraph_total_iff :
    (∃ blueprint, ofGraph drafting graph = .ok blueprint) ↔ drafting.Drawable graph := by
  constructor
  · rintro ⟨blueprint, hof⟩
    refine ⟨?_, ?_⟩
    · rw [Drafting.units, ← (ofGraph_spec hof).1]
      exact (ofGraph_spec hof).2.2
    · intro type htype
      obtain ⟨before, after, hstep⟩ := exists_step_of_foldlM hof htype
      exact addType_typed hstep
  · intro h
    have hd : (Members.names (({} : Blueprint).units ++ drafting.units graph)).Nodup := h.distinct
    refine foldlM_total Blueprint.units drafting.typeUnits (fun units => (Members.names units).Nodup) ?_ hd
    intro type htype blueprint rest hrest
    obtain ⟨after, hafter⟩ := addType_total (h.typed type htype) hrest
    exact ⟨after, hafter, (addType_extends hafter).units⟩

theorem unitId_mem_names (hof : ofGraph drafting graph = .ok blueprint) {planned : PlannedField}
    (hplanned : planned ∈ blueprint.fields) : planned.unitId ∈ Members.names blueprint.units := by
  rw [(ofGraph_spec hof).2.1] at hplanned
  obtain ⟨type, htype, hplanned⟩ := List.mem_flatMap.1 hplanned
  obtain ⟨field, hfield, rfl, hunits⟩ := Drafting.exists_callableField hplanned
  have hunit := (mem_units_iff hof).2 ⟨type, htype, hunits field hfield⟩
  exact List.mem_map.2 ⟨_, hunit, rfl⟩

end Blueprint

namespace Registry

/-! ### Compiling -/

section
variable [JsonSchema.Engine] {options : BackendOptions}

theorem foldlM_register {registered units : Members Fragment}
    (hd : (Members.names (registered ++ units)).Nodup)
    (hfault : ∀ unit ∈ units, ∀ others, Members.contains others unit.1 = false →
      Backend.fault? ⟨options, others⟩ unit.1 unit.2 = none) :
    units.foldlM (fun backend (id, fragment) => backend.register id fragment)
      (⟨options, registered⟩ : Backend) = .ok ⟨options, registered ++ units⟩ := by
  induction units generalizing registered with
  | nil => rw [List.append_nil]; rfl
  | cons unit rest ih =>
    rw [List.forall_mem_cons] at hfault
    have hstep : Backend.register ⟨options, registered⟩ unit.1 unit.2 =
        .ok ⟨options, registered ++ [unit]⟩ := by
      rw [Backend.register, hfault.1 registered (Members.contains_eq_false_of_nodup hd)]
      rfl
    rw [List.append_cons] at hd ⊢
    exact foldlM_cons_eq_ok_iff.2 ⟨_, hstep, ih hd hfault.2⟩

theorem compileUnits_total {units : Members Fragment}
    (hcompile : ∀ unit ∈ units, ∃ validator, Backend.compile ⟨options, units⟩ unit.1 = .ok validator) :
    ∃ compiled, units.mapM (compileUnit ⟨options, units⟩) = .ok compiled ∧
      compiled.map (·.id) = Members.names units := by
  obtain ⟨compiled, hcompiled⟩ : ∃ compiled, units.mapM (compileUnit ⟨options, units⟩) = .ok compiled := by
    refine mapM_total fun unit hunit => ?_
    obtain ⟨validator, hvalidator⟩ := hcompile unit hunit
    exact ⟨_, bind_eq_ok_iff.2 ⟨validator, hvalidator, rfl⟩⟩
  refine ⟨compiled, hcompiled, ?_⟩
  rw [Members.names]
  refine List.forall₂_eq_eq_eq ▸ List.forall₂_map_left_iff.2 (List.forall₂_map_right_iff.2 ?_)
  exact (mapM_eq_ok_iff.1 hcompiled).flip.imp fun _ _ hunit => by rw [compileUnit_eq_ok hunit]

theorem ofBlueprint_total (hresolved : blueprint.danglingReference? options.dialect = none)
    (hd : (Members.names blueprint.units).Nodup)
    (hfault : ∀ unit ∈ blueprint.units, ∀ others, Members.contains others unit.1 = false →
      Backend.fault? ⟨options, others⟩ unit.1 unit.2 = none)
    (hcompile : ∀ unit ∈ blueprint.units, ∃ validator,
      Backend.compile ⟨options, blueprint.units⟩ unit.1 = .ok validator)
    (hfields : ∀ planned ∈ blueprint.fields, planned.unitId ∈ Members.names blueprint.units) :
    ∃ registry, ofBlueprint options blueprint = .ok registry := by
  have hregister : registerUnits options blueprint = .ok ⟨options, blueprint.units⟩ :=
    foldlM_register hd hfault
  obtain ⟨units, hunits, hnames⟩ := compileUnits_total hcompile
  obtain ⟨fields, hfieldsOk⟩ : ∃ fields, blueprint.fields.mapM (compileField units) = .ok fields := by
    refine mapM_total fun planned hplanned => ?_
    have hid := hfields planned hplanned
    rw [← hnames] at hid
    obtain ⟨unit, hunit, hid⟩ := List.mem_map.1 hid
    obtain ⟨found, hfound⟩ : ∃ found, units.find? (·.id = planned.unitId) = some found :=
      Option.isSome_iff_exists.1 (List.find?_isSome.2 ⟨unit, hunit, decide_eq_true hid⟩)
    exact ⟨_, compileField_eq_ok_iff.2 ⟨found, hfound, rfl⟩⟩
  refine ⟨⟨0, units, fields⟩, ?_⟩
  unfold ofBlueprint
  rw [hresolved]
  exact bind_eq_ok_iff.2 ⟨_, hregister, bind_eq_ok_iff.2 ⟨units, hunits,
    bind_eq_ok_iff.2 ⟨fields, hfieldsOk, rfl⟩⟩⟩

/-- In either dialect a registry can be compiled of a `Drawable` graph whose references all name units, if
`fault?` has nothing against any unit and `Backend.compile` succeeds for each. -/
theorem compile_total
    (hdrawable : Drafting.Drawable ⟨⟨options.dialect, hook, graph.enumerations⟩, overrides⟩ graph)
    {units : Members Fragment}
    (hunits : units = Drafting.units ⟨⟨options.dialect, hook, graph.enumerations⟩, overrides⟩ graph)
    (hresolved : ∀ unit ∈ units, ∀ target ∈ options.dialect.references unit.2, target ∈ Members.names units)
    (hfault : ∀ unit ∈ units, ∀ others, Members.contains others unit.1 = false →
      Backend.fault? ⟨options, others⟩ unit.1 unit.2 = none)
    (hcompile : ∀ unit ∈ units, ∃ validator, Backend.compile ⟨options, units⟩ unit.1 = .ok validator) :
    ∃ registry, compile options hook overrides graph = .ok registry := by
  obtain ⟨blueprint, hof⟩ := Blueprint.ofGraph_total_iff.2 hdrawable
  obtain ⟨hdrawn, -, hd⟩ := Blueprint.ofGraph_spec hof
  obtain rfl : blueprint.units = units := hdrawn.trans hunits.symm
  obtain ⟨registry, hregistry⟩ := ofBlueprint_total
    (Blueprint.danglingReference?_eq_none_iff.2 hresolved) hd hfault hcompile
    fun planned => Blueprint.unitId_mem_names hof
  exact ⟨registry, bind_eq_ok_iff.2 ⟨blueprint, hof, hregistry⟩⟩

end

section
variable [JsonSchema.Engine]

theorem fault?_native {units : Members Fragment} {id : String} {fragment : Fragment}
    (h : Members.contains units id = false) : Backend.fault? ⟨.native options, units⟩ id fragment = none := by
  rw [Backend.fault?, h]
  rfl

theorem compile_native_total {units : Members Fragment} (hd : (Members.names units).Nodup)
    (hreadable : ∀ unit ∈ units, ∃ shape, Shape.ofFragment unit.2 = .ok shape) :
    ∀ unit ∈ units, ∃ validator, Backend.compile ⟨.native options, units⟩ unit.1 = .ok validator := by
  obtain ⟨table, htable⟩ : ∃ table, units.mapM Backend.readShape = .ok table := by
    refine mapM_total fun unit hunit => ?_
    obtain ⟨shape, hshape⟩ := hreadable unit hunit
    exact ⟨(unit.1, shape), readShape_eq_ok_iff.2 ⟨rfl, hshape⟩⟩
  intro unit hunit
  refine ⟨nativeValidator options table unit.1, ?_⟩
  rw [Backend.compile, Members.get?_of_mem hd hunit]
  exact bind_eq_ok_iff.2 ⟨table, htable, rfl⟩

/-- In the native dialect `compile` succeeds exactly on a `Compilable` graph. -/
theorem compile_total_iff :
    (∃ registry, compile (.native options) hook overrides graph = .ok registry) ↔
      Drafting.Compilable ⟨⟨.native, hook, graph.enumerations⟩, overrides⟩ graph := by
  constructor
  · rintro ⟨registry, h⟩
    obtain ⟨blueprint, table, hof, hcompiled⟩ := compile_native h
    have hunits := (Blueprint.ofGraph_spec hof).1
    refine ⟨Blueprint.ofGraph_total_iff.1 ⟨blueprint, hof⟩, ?_, ?_⟩
    · rw [Drafting.units, ← hunits]
      exact Blueprint.danglingReference?_eq_none_iff.1 hcompiled.resolved
    · rw [Drafting.units, ← hunits]
      intro unit hunit
      obtain ⟨entry, -, -, hread⟩ := exists_mem_of_forall₂ hcompiled.reads.flip hunit
      exact ⟨entry.2, hread⟩
  · intro h
    exact compile_total h.toDrawable rfl h.resolved (fun _ _ _ => fault?_native)
      (compile_native_total h.distinct h.readable)

end

end Registry

/-! ### Failing -/

/-- What can go wrong while a blueprint is drawn: a name is taken, or an override has nothing to refine. -/
def CompileError.OfDrawing (drafting : Drafting) (error : CompileError) : Prop :=
  (∃ id, error = .duplicate id) ∨ ∃ coordinate, error = .untypedField coordinate ∧
    (drafting.overrides.inputField? coordinate).isSome = true

namespace Blueprint

open CompileError (OfDrawing)

variable {error : CompileError}

theorem addUnit_error {id : String} {fragment : Fragment} (h : blueprint.addUnit id fragment = .error error) :
    OfDrawing drafting error := by
  unfold addUnit at h
  split at h <;> cases h
  exact .inl ⟨id, rfl⟩

theorem addField_error {field : GraphField} (h : addField drafting type blueprint field = .error error) :
    OfDrawing drafting error := by
  unfold addField at h
  split at h
  · cases h
  · rcases bind_eq_error_iff.1 h with h | ⟨_, -, h⟩
    · exact addUnit_error h
    · cases h

theorem addInputField_error {field : GraphField} {state : Blueprint × ObjectPlan}
    (h : addInputField drafting type state field = .error error) : OfDrawing drafting error := by
  unfold addInputField at h
  dsimp only at h
  split at h
  · rcases bind_eq_error_iff.1 h with h | ⟨_, -, h⟩
    · exact addUnit_error h
    · cases h
  · split at h
    · rename_i hoverride
      cases h
      exact .inr ⟨_, rfl, hoverride⟩
    · cases h

theorem addType_error (h : addType drafting blueprint type = .error error) : OfDrawing drafting error := by
  unfold addType at h
  split at h
  · cases h
  · split at h
    · rcases bind_eq_error_iff.1 h with h | ⟨_, -, h⟩
      · obtain ⟨field, -, state, hstep⟩ := exists_error_of_foldlM h
        exact addInputField_error hstep
      · exact addUnit_error h
    · split at h
      · obtain ⟨field, -, before, hstep⟩ := exists_error_of_foldlM h
        exact addField_error hstep
      · cases h

theorem ofGraph_error (h : ofGraph drafting graph = .error error) : OfDrawing drafting error := by
  obtain ⟨type, -, before, hstep⟩ := exists_error_of_foldlM h
  exact addType_error hstep

end Blueprint

namespace Registry

/-- A native `compile` fails in `Blueprint.ofGraph`, at a dangling reference, or at a fragment that is no
shape. -/
theorem compile_error [JsonSchema.Engine] {error : CompileError}
    (h : compile (.native options) hook overrides graph = .error error) :
    CompileError.OfDrawing ⟨⟨.native, hook, graph.enumerations⟩, overrides⟩ error ∨
      (∃ source target, error = .unresolvedReference source target) ∨
      ∃ unit ∈ Drafting.units ⟨⟨.native, hook, graph.enumerations⟩, overrides⟩ graph,
        ∀ shape, Shape.ofFragment unit.2 ≠ .ok shape := by
  rcases bind_eq_error_iff.1 h with hof | ⟨blueprint, hof, h⟩
  · exact .inl (Blueprint.ofGraph_error hof)
  · obtain ⟨hunits, -, hd⟩ := Blueprint.ofGraph_spec hof
    cases hresolved : blueprint.danglingReference? .native with
    | some reference =>
      unfold ofBlueprint at h
      have hdialect : BackendOptions.dialect (.native options) = .native := rfl
      rw [hdialect, hresolved] at h
      cases h
      exact .inr (.inl ⟨_, _, rfl⟩)
    | none =>
      refine .inr (.inr ?_)
      by_contra hall
      push Not at hall
      obtain ⟨registry, hregistry⟩ : ∃ registry, ofBlueprint (.native options) blueprint = .ok registry :=
        ofBlueprint_total hresolved hd (fun _ _ _ => fault?_native) (compile_native_total hd (hunits ▸ hall))
          fun planned => Blueprint.unitId_mem_names hof
      cases h.symm.trans hregistry

end Registry

end ArgGuard
