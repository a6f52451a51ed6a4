import ArgGuard.Proofs.Registry.Coverage

/-!
# Which arguments functions judge

An argument has a property in the unit of its field or a function, and never both. Which of the two
it has is for its override to say, and for nothing else: `Overrides.judges` lists the functions of a
field in the order in which the field declares its arguments, and a plan collects exactly these
(`planArguments_functions`), while no property of the plan stands under the name of an argument that
has a function (`function?_of_mem_planArguments`). Two arguments of one name have one coordinate, so
this does not need the names to differ.

What a plan collects reaches the compiled field as it is, in either dialect (`Carries.functions`).
-/

namespace ArgGuard

variable {options : BackendOptions} {hook : Option InferenceHook} {overrides : Overrides}
  {graph : TypeGraph} {drafting : Drafting} {type : GraphType} {field : GraphField}
  {blueprint : Blueprint} {registry : Registry} {compiled : FieldValidator}

namespace Overrides

/-- The function at an argument, if it is one that stands there. -/
def function? (overrides : Overrides) (coordinate : ArgumentCoordinate) : Option ValidationFunction :=
  match overrides.argument? coordinate with
  | some (.function function) => some function
  | some (.fragment _) | none => none

theorem function?_eq_some_iff {coordinate : ArgumentCoordinate} {function : ValidationFunction} :
    overrides.function? coordinate = some function ↔
      overrides.argument? coordinate = some (.function function) := by
  unfold function?
  split <;> simp_all

theorem function?_of_fragment {coordinate : ArgumentCoordinate} {fragment : Fragment}
    (h : overrides.argument? coordinate = some (.fragment fragment)) :
    overrides.function? coordinate = none := by
  rw [function?, h]

theorem function?_of_none {coordinate : ArgumentCoordinate} (h : overrides.argument? coordinate = none) :
    overrides.function? coordinate = none := by
  rw [function?, h]

/-- The functions of a field's arguments, in the order of the arguments. -/
def judges (overrides : Overrides) (type : GraphType) (field : GraphField) : List ArgumentFunction :=
  field.arguments.filterMap fun argument =>
    (overrides.function? (Drafting.argumentCoordinate type field argument)).map fun function =>
      ⟨⟨Drafting.argumentCoordinate type field argument, argument.position⟩, function⟩

theorem mem_judges_iff {function : ArgumentFunction} : function ∈ overrides.judges type field ↔
    ∃ argument ∈ field.arguments,
      overrides.function? (Drafting.argumentCoordinate type field argument) = some function.function ∧
        function.site = ⟨Drafting.argumentCoordinate type field argument, argument.position⟩ := by
  obtain ⟨site, function⟩ := function
  simp only [judges, List.mem_filterMap, Option.map_eq_some_iff, ArgumentFunction.mk.injEq]
  refine exists_congr fun argument => and_congr_right fun _ => ?_
  constructor
  · rintro ⟨found, hfound, hsite, rfl⟩
    exact ⟨hfound, hsite.symm⟩
  · rintro ⟨hfound, hsite⟩
    exact ⟨function, hfound, hsite.symm, rfl⟩

end Overrides

/-! ### Plans -/

namespace Drafting

variable {plan : ObjectPlan} {argument : GraphArgument}

theorem planArgument_functions : (drafting.planArgument type field plan argument).functions =
    plan.functions ++ ((drafting.overrides.function? (argumentCoordinate type field argument)).map
      fun function => ⟨⟨argumentCoordinate type field argument, argument.position⟩, function⟩).toList := by
  rw [planArgument_eq]
  split
  · rename_i function hfunction
    rw [Overrides.function?_eq_some_iff.2 hfunction]
    rfl
  · rename_i hfragment
    rw [Overrides.function?_of_fragment hfragment]
    exact ObjectPlan.addProperty_functions.trans (List.append_nil _).symm
  · rename_i hnone
    rw [Overrides.function?_of_none hnone]
    split
    · exact ObjectPlan.addProperty_functions.trans (List.append_nil _).symm
    · exact (List.append_nil _).symm

theorem planArguments_functions :
    (drafting.planArguments type field).functions = drafting.overrides.judges type field := by
  have h : ∀ (arguments : List GraphArgument) (plan : ObjectPlan),
      (arguments.foldl (drafting.planArgument type field) plan).functions =
        plan.functions ++ arguments.filterMap fun argument =>
          (drafting.overrides.function? (argumentCoordinate type field argument)).map fun function =>
            ⟨⟨argumentCoordinate type field argument, argument.position⟩, function⟩ := by
    intro arguments
    induction arguments with
    | nil => exact fun plan => (List.append_nil _).symm
    | cons argument rest ih =>
      intro plan
      rw [List.foldl_cons, ih, planArgument_functions, List.append_assoc, List.filterMap_cons]
      congr 1
      cases drafting.overrides.function? (argumentCoordinate type field argument) <;> rfl
  exact h field.arguments {}

theorem function?_of_mem_planArguments {entry : String × Fragment}
    (h : entry ∈ (drafting.planArguments type field).properties) :
    drafting.overrides.function? ⟨type.name, field.name, entry.1⟩ = none := by
  revert h
  refine List.foldlRecOn (motive := fun plan : ObjectPlan => entry ∈ plan.properties → _)
    field.arguments _ (by simp) fun plan ih argument _ h => ?_
  rw [planArgument_eq] at h
  split at h
  · exact ih (by simpa [ObjectPlan.addFunction] using h)
  · rename_i hfragment
    rcases Members.mem_set h with rfl | h
    · exact Overrides.function?_of_fragment hfragment
    · exact ih h
  · rename_i hnone
    split at h
    · rcases Members.mem_set h with rfl | h
      · exact Overrides.function?_of_none hnone
      · exact ih h
    · exact ih h

end Drafting

/-! ### Compiled fields -/

namespace Registry

/-- A field that a registry `Carries` has the functions that `judges` lists. -/
theorem Carries.functions (h : Carries blueprint registry)
    (hof : Blueprint.ofGraph drafting graph = .ok blueprint) (hcompiled : compiled ∈ registry.fields) :
    ∃ type field, graph.TakesArguments type field ∧ compiled.coordinate = ⟨type.name, field.name⟩ ∧
      compiled.functions = drafting.overrides.judges type field := by
  obtain ⟨planned, hplanned, unit, -, rfl⟩ := exists_mem_of_forall₂ h.fields hcompiled
  obtain ⟨type, field, hfield, rfl⟩ := (Blueprint.mem_fields_iff hof).1 hplanned
  exact ⟨type, field, hfield, rfl, Drafting.planArguments_functions⟩

theorem functions_of_compile (h : compile options hook overrides graph = .ok registry)
    (hcompiled : compiled ∈ registry.fields) :
    ∃ type field, graph.TakesArguments type field ∧ compiled.coordinate = ⟨type.name, field.name⟩ ∧
      compiled.functions = overrides.judges type field := by
  obtain ⟨blueprint, hof, hcarries⟩ := compile_carries h
  exact hcarries.functions hof hcompiled

theorem field?_eq_some {coordinate : Coordinate} (h : registry.field? coordinate = some compiled) :
    compiled ∈ registry.fields ∧ compiled.coordinate = coordinate :=
  ⟨List.mem_of_find?_eq_some h, of_decide_eq_true (List.find?_some h :)⟩

theorem functions_of_field? (h : compile options hook overrides graph = .ok registry)
    (htakes : graph.TakesArguments type field)
    (hfield : registry.field? ⟨type.name, field.name⟩ = some compiled) :
    compiled.functions = overrides.judges type field := by
  obtain ⟨blueprint, hof, hcarries⟩ := compile_carries h
  obtain ⟨hmem, hcoordinate⟩ := field?_eq_some hfield
  obtain ⟨other, found, hfound, hsame, hfunctions⟩ := hcarries.functions hof hmem
  have hplanned := Blueprint.planned_unique hof ((Blueprint.mem_fields_iff hof).2 ⟨type, field, htakes, rfl⟩)
    ((Blueprint.mem_fields_iff hof).2 ⟨other, found, hfound, rfl⟩) (hcoordinate.symm.trans hsame)
  have hplans := congrArg PlannedField.functions hplanned
  rw [Drafting.plannedField, Drafting.plannedField, Drafting.planArguments_functions,
    Drafting.planArguments_functions] at hplans
  exact hfunctions.trans hplans.symm

end Registry

end ArgGuard
