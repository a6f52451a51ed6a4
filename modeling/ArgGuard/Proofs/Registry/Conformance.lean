import ArgGuard.Proofs.Registry.Compiled
import ArgGuard.Proofs.Registry.Plans
import ArgGuard.Proofs.Shape.Conformance

/-!
# Arguments that conform to their types

What a resolver receives after validation is typed: every argument whose leaf is a built-in scalar, an
enumeration or an input object is there if its position refuses `null`, and its value conforms to its
position, down through all input objects. Overrides of arguments and fields may add constraints but
cannot undo this, since the fragment of a position keeps to it. Two more things are needed. Every such
argument or field must have its property, which holds as its fragment has a shape and no other of its
name takes the place; and the name of an input object must lead to the unit of this very type.
-/

namespace ArgGuard

variable {options : NativeOptions} {overrides : Overrides} {graph : TypeGraph} {drafting : Drafting}
  {blueprint : Blueprint} {table : UnitTable} {registry : Registry} {type : GraphType}
  {field : GraphField}

/-- The shape of a planned object `Expects` what the plan `Asks`. -/
theorem ObjectPlan.Asks.expects {plan : ObjectPlan} {position : Position} {name id : String}
    {fragment : Fragment} {shape : Shape} (h : plan.Asks position name fragment)
    (hd : (Members.names plan.properties).Nodup) (hwritten : Written position fragment)
    (hclassifies : graph.Classifies position)
    (hread : Shape.ofFragment
      (Dialect.native.tag (Dialect.native.object plan.properties plan.required) id) = .ok shape) :
    Expects graph shape position name where
  required hp := by rw [object_required hread]; exact h.required hp
  property := by
    obtain ⟨property, hfound, hproperty⟩ := object_property hread hd h.property
    exact ⟨property, hfound, hwritten.describes hclassifies hproperty⟩

namespace Drafting

variable (hfollows : drafting.inference.Follows graph) (hclassified : graph.Classified)
include hfollows hclassified

theorem inputFragment_written (htype : type ∈ graph.types) (hfield : field ∈ type.fields)
    (htyped : field.position.leaf.isTyped = true) :
    Written field.position (drafting.inputFragment type field) :=
  hfollows.synthesize_written (hclassified type htype field hfield).1 htyped _ _

theorem argumentFragment_written {argument : GraphArgument} (htype : type ∈ graph.types)
    (hfield : field ∈ type.fields) (hargument : argument ∈ field.arguments)
    (htyped : argument.position.leaf.isTyped = true) :
    Written argument.position (drafting.argumentFragment type field argument) :=
  hfollows.synthesize_written ((hclassified type htype field hfield).2 argument hargument) htyped _ _

theorem mem_shapedFields (htype : type ∈ graph.types) (hfield : field ∈ type.fields)
    (htyped : field.position.leaf.isTyped = true) : field ∈ drafting.shapedFields type := by
  refine List.mem_filter.2 ⟨hfield, ?_⟩
  rw [hasUnit, show drafting.dialect = .native from hfollows.dialect]
  exact (inputFragment_written hfollows hclassified htype hfield htyped).hasShape

end Drafting

namespace Registry.Compiled

variable (h : Compiled options blueprint table registry)
  (hof : Blueprint.ofGraph drafting graph = .ok blueprint)
  (hfollows : drafting.inference.Follows graph) (hclassified : graph.Classified)
include h hof hfollows hclassified

/-- `typeUnit` expects the fields of its type, as long as no override stands at a type. -/
theorem describesTypes (htypes : drafting.overrides.types = []) : DescribesTypes graph table := by
  intro name type shape hfind hinput hshape
  obtain ⟨htype, rfl⟩ := TypeGraph.find?_eq_some_iff.1 hfind
  have hname : type.name ∈ Members.names blueprint.units := by
    obtain ⟨fragment, hunit, -⟩ := h.reads.exists_fragment (Members.mem_of_get? hshape)
    exact List.mem_map.2 ⟨_, hunit, rfl⟩
  have hdialect : drafting.dialect = .native := hfollows.dialect
  have hinput : type.isInputObject = true := decide_eq_true hinput
  have hplain := Blueprint.not_isIntrospection hof hdialect hname
  obtain ⟨other, hother, hread⟩ := h.reads.get? (Blueprint.get?_typeUnit hof hdialect htype hinput hname)
  cases hshape.symm.trans hother
  refine ⟨(Drafting.declares_typeFragment hdialect).shape_kind hread, fun field hfield htyped => ?_⟩
  have hshaped := Drafting.mem_shapedFields hfollows hclassified htype hfield htyped
  have hasks := Drafting.inputPlan_asks (Blueprint.nodup_shapedFields hof htype hplain hinput) hshaped
  rw [Drafting.typeUnit_eq hdialect htypes] at hread
  exact hasks.expects Drafting.nodup_inputPlan
    (Drafting.inputFragment_written hfollows hclassified htype hfield htyped)
    (hclassified type htype field hfield).1 hread

theorem argumentsShape (htype : type ∈ graph.types) (hfield : field ∈ type.fields)
    (hunit : drafting.argumentsUnit type field ∈ drafting.typeUnits type)
    (harguments : (field.arguments.map (·.name)).Nodup) :
    ∃ shape, Members.get? table (drafting.fieldId type field) = some shape ∧
      shape.kind = some .object ∧ shape.nullable = false ∧
      ∀ argument ∈ field.arguments, ¬drafting.isJudged type field argument →
        argument.position.leaf.isTyped = true → Expects graph shape argument.position argument.name := by
  have hdialect : drafting.dialect = .native := hfollows.dialect
  obtain ⟨shape, hshape, hread⟩ := h.reads.get? (Blueprint.get?_units hof htype hunit)
  have hdeclares : Declares (drafting.argumentsUnit type field).2 .object false :=
    Drafting.declares_argumentsFragment hdialect _
  refine ⟨shape, hshape, hdeclares.shape_kind hread, hdeclares.shape_nullable hread, ?_⟩
  intro argument hargument hjudged htyped
  have hwritten := Drafting.argumentFragment_written hfollows hclassified htype hfield hargument htyped
  have hasks := Drafting.planArguments_asks harguments hargument hjudged
    (by rw [hdialect]; exact hwritten.hasShape)
  rw [Drafting.argumentsUnit_eq hdialect] at hread
  exact hasks.expects Drafting.nodup_planArguments hwritten
    ((hclassified type htype field hfield).2 argument hargument) hread

end Registry.Compiled

namespace Drafting

theorem mem_typeFields {other : GraphType} {planned : PlannedField} {argument : GraphArgument}
    (hother : other ∈ graph.types) (hplanned : planned ∈ drafting.typeFields other)
    (htype : type ∈ graph.types) (hfield : field ∈ type.fields) (hargument : argument ∈ field.arguments)
    (hcoordinate : planned.coordinate = ⟨type.name, field.name⟩) :
    planned.unitId = drafting.fieldId type field ∧
      drafting.argumentsUnit type field ∈ drafting.typeUnits type := by
  obtain ⟨found, -, rfl, hunits⟩ := exists_callableField hplanned
  obtain ⟨hname, hfieldName⟩ := Coordinate.mk.inj hcoordinate
  have hsame : other = type := Option.some.inj
    ((TypeGraph.find?_eq_some_iff.2 ⟨hother, hname⟩).symm.trans
      (TypeGraph.find?_eq_some_iff.2 ⟨htype, rfl⟩))
  subst hsame
  refine ⟨by rw [plannedField, fieldId, fieldId, hfieldName], hunits field (List.mem_filter.2 ⟨hfield, ?_⟩)⟩
  simpa using List.ne_nil_of_mem hargument

end Drafting

namespace Registry

/-- An accepted object `Conforms`: every argument of which anything is known and which no function judges is
present if it must be, and fits its position. -/
theorem arguments_conform (definitions : List TypeDefinition) (options : NativeOptions)
    (overrides : Overrides) (registry : Registry) (htypes : overrides.types = [])
    (harguments : ∀ type ∈ (TypeGraph.ofDefinitions definitions).types, ∀ field ∈ type.fields,
      (field.arguments.map (·.name)).Nodup)
    (henumerations : ∀ type ∈ (TypeGraph.ofDefinitions definitions).types,
      type.kind = .enumeration → Builtin.ofName? type.name = none)
    (h : compile (.native options) none overrides (.ofDefinitions definitions) = .ok registry)
    (validated : FieldValidator) (hvalidated : validated ∈ registry.fields) (value answer : Json)
    (haccepted : validated.validator.validate value = .ok answer) (type : GraphType)
    (htype : type ∈ (TypeGraph.ofDefinitions definitions).types) (field : GraphField)
    (hfield : field ∈ type.fields) (hcoordinate : validated.coordinate = ⟨type.name, field.name⟩)
    (argument : GraphArgument) (hargument : argument ∈ field.arguments)
    (hjudged : ∀ function, overrides.argument? ⟨type.name, field.name, argument.name⟩ ≠
      some (.function function))
    (htyped : argument.position.leaf.isTyped = true) :
    ∃ members, answer = .object members ∧
      (argument.position.nonNull = true → Members.contains members argument.name = true) ∧
      ∀ found, Members.get? members argument.name = some found →
        Conforms (.ofDefinitions definitions) options.coercing argument.position found := by
  obtain ⟨blueprint, table, hof, hcompiled⟩ := compile_native h
  have hclassified := TypeGraph.ofDefinitions_classified definitions
  have hfollows : Inference.Follows
      ⟨.native, none, (TypeGraph.ofDefinitions definitions).enumerations⟩
      (.ofDefinitions definitions) := ⟨rfl, rfl, rfl, henumerations⟩
  -- the validator belongs to the plan of this field, and thus to the unit of its arguments
  obtain ⟨planned, hplanned, -, rfl⟩ := exists_mem_of_forall₂ hcompiled.fields hvalidated
  rw [(Blueprint.ofGraph_spec hof).2.1] at hplanned
  obtain ⟨other, hother, hplanned⟩ := List.mem_flatMap.1 hplanned
  obtain ⟨hid, hunit⟩ := Drafting.mem_typeFields hother hplanned htype hfield hargument hcoordinate
  obtain ⟨shape, hshape, hkind, hnullable, hexpects⟩ := hcompiled.argumentsShape hof hfollows
    hclassified htype hfield hunit (harguments type htype field hfield)
  rw [← hid] at hshape
  obtain ⟨hfailures, rfl⟩ := nativeValidator_ok hshape haccepted
  obtain ⟨members, rfl, ht⟩ := Shape.object_of_accepted hkind hnullable hfailures
  obtain ⟨answers, hvalue, hanswers⟩ := Shape.check_object_value ht
  have hdescribes := hcompiled.describesTypes hof hfollows hclassified htypes
  refine ⟨answers, hvalue, ?_⟩
  exact Shape.answered_of_expects
    (hexpects argument hargument (fun ⟨function, hf⟩ => hjudged function hf) htyped) hfailures ht hanswers
    fun _ _ _ hproperty hf => Shape.conforms_of_accepted hdescribes hproperty hf

/-- A document whose field takes a list of filters, which refer to themselves and to an enumeration. -/
def searchDocument : List TypeDefinition :=
  [⟨"Order", [], .enumeration ["ASC", "DESC"]⟩,
    ⟨"Filters", [], .inputObject [⟨"id", .named "ID" true, []⟩, ⟨"order", .named "Order" false, []⟩,
      ⟨"nested", .named "Filters" false, []⟩]⟩,
    ⟨"Query", [], .object
      [⟨"search", [⟨"filters", .list (.named "Filters" true) true, []⟩], .named "String" false, []⟩]⟩]

/-- An override that says that an order is a number and not `null`. -/
def numericOrder : Overrides where
  inputFields := [(⟨"Filters", "order"⟩, [("kind", .string "integer"), ("nullable", .bool false)])]

/-- A filter without an order around one with an order. -/
def searchArguments : Json :=
  .object [("filters", .array [.object [("id", .ofInt 7), ("order", .null),
    ("nested", .object [("id", .string "x"), ("order", .string "ASC")])]])]

theorem arguments_conform_search :
    ∃ registry, compile (.native {}) none numericOrder (.ofDefinitions searchDocument) = .ok registry ∧
      ∃ validated ∈ registry.fields, ∃ answer,
        validated.validator.validate searchArguments = .ok answer ∧ ∃ members, answer = .object members ∧
          Members.contains members "filters" = true ∧
          ∀ found, Members.get? members "filters" = some found →
            Conforms (.ofDefinitions searchDocument) true
              (.list (.named "Filters" .inputObject true) true) found := by
  have hrun : ((compile (.native {}) none numericOrder (.ofDefinitions searchDocument)).toOption.any
      fun registry => registry.fields.any fun validated =>
        validated.coordinate = ⟨"Query", "search"⟩ &&
          (validated.validator.validate searchArguments).isOk) = true := by decide +kernel
  cases h : compile (.native {}) none numericOrder (.ofDefinitions searchDocument) with
  | error error => rw [h] at hrun; cases hrun
  | ok registry =>
    rw [h] at hrun
    obtain ⟨validated, hvalidated, hrun⟩ := List.any_eq_true.1 hrun
    obtain ⟨hcoordinate, hrun⟩ := Bool.and_eq_true_iff.1 hrun
    cases haccepted : validated.validator.validate searchArguments with
    | error failures => rw [haccepted] at hrun; cases hrun
    | ok answer =>
      have hjudged : ∀ function, numericOrder.argument? ⟨"Query", "search", "filters"⟩ ≠
          some (.function function) := by
        intro function hf
        cases hf
      obtain ⟨members, hanswer, hpresent, hconforms⟩ := arguments_conform searchDocument {} numericOrder
        registry rfl (by decide) (by decide) h validated hvalidated searchArguments answer haccepted
        _ (List.mem_of_getElem? (i := 2) rfl) _ (List.mem_singleton.2 rfl) (of_decide_eq_true hcoordinate)
        _ (List.mem_singleton.2 rfl) hjudged rfl
      exact ⟨registry, rfl, validated, hvalidated, answer, haccepted, members, hanswer, hpresent rfl,
        hconforms⟩

end Registry

end ArgGuard
