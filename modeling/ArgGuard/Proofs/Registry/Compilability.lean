import ArgGuard.Proofs.Registry.Coverage
import ArgGuard.Proofs.Registry.Plain
import ArgGuard.Proofs.Registry.Success
import ArgGuard.Proofs.Shape.Fits

/-!
# Which plain graphs compile

Without overrides and without a hook nothing but names can stand in the way of a native registry. The
name of a unit tells the type it belongs to, since no name has a point in it (`typeName_of_mem`), so two
units have one name only within a type; every fragment that is drawn is read as a shape
(`exists_shape`); and a reference leads nowhere only if the input object that it names belongs to
introspection. `plain_compiles_iff` puts this together.
-/

namespace ArgGuard

variable {options : NativeOptions} {graph : TypeGraph} {drafting : Drafting} {type : GraphType}
  {field : GraphField}

/-- A position whose leaf is an input object that belongs to introspection. -/
def TypeGraph.LeadsAside (graph : TypeGraph) (position : Position) : Prop :=
  ∃ target ∈ graph.types, target.isInputObject = true ∧ target.isIntrospection = true ∧
    target.name = position.leafName

/-- A graph in which no two fields claim one unit and no input object of introspection is taken. -/
structure TypeGraph.Settled (graph : TypeGraph) : Prop where
  callable : ∀ type ∈ graph.types, type.isIntrospection = false → type.isOutputObject = true →
    (type.callableFields.map (·.name)).Nodup
  shaped : ∀ type ∈ graph.types, type.isIntrospection = false → type.isInputObject = true →
    ((type.fields.filter fun field => field.position.isShaped graph.enumerations).map (·.name)).Nodup
  arguments : ∀ type ∈ graph.types, type.isIntrospection = false → type.isOutputObject = true →
    ∀ field ∈ type.fields, ∀ argument ∈ field.arguments, ¬graph.LeadsAside argument.position
  fields : ∀ type ∈ graph.types, type.isIntrospection = false → type.isInputObject = true →
    ∀ field ∈ type.fields, ¬graph.LeadsAside field.position

theorem Position.isShaped_of_inputObject {position : Position} (h : position.leaf = .inputObject)
    (enumerations : Members (List String)) : position.isShaped enumerations = true := by
  cases position with
  | named name leaf nonNull =>
    obtain rfl : leaf = .inputObject := h
    simp [isShaped]
  | list item nonNull => rfl

/-! ### Names of units -/

namespace Drafting

section
variable (hdialect : drafting.dialect = .native)
include hdialect

theorem typeId_eq : drafting.typeId type = type.name := by
  rw [typeId, hdialect, Dialect.referenceId, unitName_type]

theorem fieldId_eq : drafting.fieldId type field = type.name ++ "." ++ field.name := by
  rw [fieldId, hdialect, Dialect.referenceId, unitName_field]

/-- `unitName` puts points between names, and no name has a point in it. -/
theorem typeName_of_mem (hname : Sdl.IsName type.name) {unit : String × Fragment}
    (hunit : unit ∈ drafting.typeUnits type) :
    unit.1.toList.takeWhile (· != '.') = type.name.toList := by
  have hpoint : ∀ c ∈ type.name.toList, (c != '.') = true := by
    intro c hc
    have hchar := hname c hc
    by_contra heq
    rw [bne_iff_ne, not_not] at heq
    subst heq
    cases hchar
  have htake : type.name.toList.takeWhile (· != '.') = type.name.toList := by
    simpa using hpoint
  have hfield : ∀ field, (drafting.fieldId type field).toList.takeWhile (· != '.') = type.name.toList := by
    intro field
    rw [fieldId_eq hdialect, String.toList_append, String.toList_append, List.append_assoc,
      List.takeWhile_append_of_pos hpoint]
    simp
  obtain ⟨-, ⟨field, -, rfl⟩ | rfl | ⟨field, -, rfl⟩⟩ := mem_typeUnits hunit
  · exact hfield field
  · have hid : (drafting.typeUnit type).1 = type.name := typeId_eq hdialect
    rw [hid, htake]
  · exact hfield field

theorem nodup_fieldIds_iff {fields : List GraphField} :
    (fields.map (drafting.fieldId type)).Nodup ↔ (fields.map (·.name)).Nodup := by
  have hids : fields.map (drafting.fieldId type) =
      (fields.map (·.name)).map fun name => type.name ++ "." ++ name := by
    rw [List.map_map]
    exact List.map_congr_left fun field _ => fieldId_eq hdialect
  rw [hids]
  refine List.nodup_map_iff fun name other heq => ?_
  have hlists := congrArg String.toList heq
  simp only [String.toList_append, List.append_cancel_left_eq] at hlists
  exact String.toList_inj.1 hlists

theorem nodup_typeUnits_iff : (Members.names (drafting.typeUnits type)).Nodup ↔
    (type.isIntrospection = false → (type.isInputObject = true → ((drafting.shapedFields type).map (·.name)).Nodup) ∧
        (type.isOutputObject = true → (type.callableFields.map (·.name)).Nodup)) := by
  cases hplain : type.isIntrospection with
  | true => simp [typeUnits, hplain, Members.names]
  | false =>
    rw [eq_self, true_imp_iff]
    cases hinput : type.isInputObject with
    | true =>
      have houtput := GraphType.isOutputObject_of_input hinput
      have hpoint : drafting.typeId type ∉ (drafting.shapedFields type).map (drafting.fieldId type) := by
        intro h
        obtain ⟨field, -, heq⟩ := List.mem_map.1 h
        have hlengths := congrArg (fun name => name.toList.length) heq
        simp [typeId_eq hdialect, fieldId_eq hdialect] at hlengths
      have hnames : Members.names (drafting.typeUnits type) =
          (drafting.shapedFields type).map (drafting.fieldId type) ++ [drafting.typeId type] := by
        simp [typeUnits_inputObject hplain hinput, Members.names, inputUnit, typeUnit, Function.comp_def]
      rw [hnames, List.nodup_append, nodup_fieldIds_iff hdialect, houtput]
      simp only [true_imp_iff, Bool.false_eq_true, false_imp_iff, and_true, List.nodup_singleton, true_and,
        List.mem_singleton, forall_eq]
      exact and_iff_left fun id hid heq => hpoint (heq ▸ hid)
    | false =>
      cases houtput : type.isOutputObject with
      | true =>
        have hnames : Members.names (drafting.typeUnits type) =
            type.callableFields.map (drafting.fieldId type) := by
          simp [typeUnits_outputObject hplain houtput, Members.names, argumentsUnit, Function.comp_def]
        rw [hnames, nodup_fieldIds_iff hdialect]
        simp
      | false => simp [typeUnits, hplain, hinput, houtput, Members.names]

theorem nodup_units_iff (hnames : ∀ type ∈ graph.types, Sdl.IsName type.name) :
    (Members.names (drafting.units graph)).Nodup ↔
      ∀ type ∈ graph.types, (Members.names (drafting.typeUnits type)).Nodup := by
  rw [units, Members.names, List.map_flatMap, List.nodup_flatMap]
  refine and_iff_left ?_
  have hdistinct : graph.types.Pairwise fun type other => type.name ≠ other.name :=
    List.pairwise_map.1 graph.distinct
  refine hdistinct.imp_of_mem fun {type other} htype hother hne id hid hidOther => hne ?_
  obtain ⟨unit, hunit, rfl⟩ := List.mem_map.1 hid
  obtain ⟨another, hanother, heq⟩ := List.mem_map.1 hidOther
  have htypeName := typeName_of_mem hdialect (hnames type htype) hunit
  have hotherName := typeName_of_mem hdialect (hnames other hother) hanother
  rw [heq] at hotherName
  exact String.toList_inj.1 (htypeName.symm.trans hotherName)

end

/-! ### Fragments and references without overrides -/

section
variable (graph)

theorem isUntyped_plain (dialect : Dialect) : (ofDialect dialect graph).isUntyped type field = false := by
  simp [isUntyped, ofDialect, Overrides.inputField?]

theorem shapedFields_plain : (ofDialect .native graph).shapedFields type =
    type.fields.filter fun field => field.position.isShaped graph.enumerations :=
  List.filter_congr fun _ _ => hasUnit_eq (isPlain_ofDialect .native graph) rfl

theorem exists_shape_synthesize (position : Position) (id : String) : ∃ shape, Shape.ofFragment
    ((ofDialect .native graph).inference.synthesize position none id) = .ok shape := by
  rw [Inference.synthesize_none]
  exact ⟨_, (Shape.ofFragment_tag id).2 ((isPlain_ofDialect .native graph).ofFragment_bareFragment position)⟩

theorem exists_shape_argument (argument : GraphArgument) : ∃ shape, Shape.ofFragment
    ((ofDialect .native graph).argumentFragment type field argument) = .ok shape :=
  exists_shape_synthesize graph argument.position _

theorem exists_shape_input : ∃ shape, Shape.ofFragment
    ((ofDialect .native graph).inputFragment type field) = .ok shape :=
  exists_shape_synthesize graph field.position _

/-- `Shape.ofFragment` reads the fragment of every unit. -/
theorem exists_shape : ∀ unit ∈ (ofDialect .native graph).units graph,
    ∃ shape, Shape.ofFragment unit.2 = .ok shape := by
  intro unit hunit
  obtain ⟨type, -, hunit⟩ := List.mem_flatMap.1 hunit
  obtain ⟨-, ⟨field, -, rfl⟩ | rfl | ⟨field, -, rfl⟩⟩ := mem_typeUnits hunit
  · exact exists_shape_input graph
  · have hproperties : ∀ entry ∈ ((ofDialect .native graph).inputPlan type).properties,
        ∃ shape, Shape.ofFragment entry.2 = .ok shape := by
      intro entry hentry
      obtain ⟨field, -, rfl⟩ := mem_inputPlan hentry
      exact exists_shape_input graph
    obtain ⟨shape, hshape⟩ := Shape.ofFragment_object_total
      ((ofDialect .native graph).inputPlan type).required hproperties
    rw [typeUnit_eq rfl rfl]
    exact ⟨shape, (Shape.ofFragment_tag _).2 hshape⟩
  · have hproperties : ∀ entry ∈ ((ofDialect .native graph).planArguments type field).properties,
        ∃ shape, Shape.ofFragment entry.2 = .ok shape := by
      intro entry hentry
      obtain ⟨argument, -, rfl⟩ := mem_planArguments hentry
      exact exists_shape_argument graph argument
    obtain ⟨shape, hshape⟩ := Shape.ofFragment_object_total
      ((ofDialect .native graph).planArguments type field).required hproperties
    rw [argumentsUnit_eq rfl]
    exact ⟨shape, (Shape.ofFragment_tag _).2 hshape⟩

/-- `Drawable` comes down to two fields of one type that claim one unit. -/
theorem drawable_plain_iff (hnames : graph.HasNames) : (ofDialect .native graph).Drawable graph ↔
    ∀ type ∈ graph.types, type.isIntrospection = false →
      (type.isInputObject = true →
        ((type.fields.filter fun field => field.position.isShaped graph.enumerations).map (·.name)).Nodup) ∧
      (type.isOutputObject = true → (type.callableFields.map (·.name)).Nodup) := by
  have hunits : (Members.names ((ofDialect .native graph).units graph)).Nodup ↔ _ :=
    nodup_units_iff rfl fun type htype => (hnames type htype).1
  simp only [nodup_typeUnits_iff (show (ofDialect .native graph).dialect = .native from rfl),
    shapedFields_plain] at hunits
  rw [← hunits]
  exact ⟨fun h => h.distinct, fun h => ⟨h, fun _ _ _ _ _ _ => isUntyped_plain graph .native⟩⟩

end

theorem notMem_names_units (hdialect : drafting.dialect = .native) (hplain : type.isIntrospection = true) :
    type.name ∉ Members.names (drafting.units graph) := by
  intro h
  obtain ⟨unit, hunit, hid⟩ := List.mem_map.1 h
  obtain ⟨other, -, hunit⟩ := List.mem_flatMap.1 hunit
  refine not_introspection_of_mem_typeUnits hdialect hunit ?_
  rw [hid]
  exact List.isPrefixOf_iff_prefix.1 hplain

theorem mem_units_of_mem (htype : type ∈ graph.types) {unit : String × Fragment}
    (hunit : unit ∈ drafting.typeUnits type) : unit ∈ drafting.units graph :=
  List.mem_flatMap.2 ⟨type, htype, hunit⟩

theorem mem_names_of_leaf {position : Position} (hclassifies : graph.Classifies position)
    (haside : ¬graph.LeadsAside position) (hleaf : position.leaf = .inputObject) :
    drafting.dialect.referenceId position.leafName none none ∈ Members.names (drafting.units graph) := by
  obtain ⟨target, htarget, hname, hkind⟩ := hclassifies.inputObject hleaf
  have hinput : target.isInputObject = true := decide_eq_true hkind
  have hplain : target.isIntrospection = false := by
    by_contra hmeta
    exact haside ⟨target, htarget, hinput, Bool.not_eq_false _ ▸ hmeta, hname⟩
  have hunit : drafting.typeUnit target ∈ drafting.typeUnits target :=
    mem_typeUnits_iff.2 ⟨hplain, .inr (.inl ⟨hinput, rfl⟩)⟩
  exact hname ▸ List.mem_map.2 ⟨_, mem_units_of_mem htarget hunit, rfl⟩

theorem leaf_of_leadsAside {position : Position} (hclassifies : graph.Classifies position)
    (haside : graph.LeadsAside position) : position.leaf = .inputObject := by
  obtain ⟨target, htarget, hinput, -, hname⟩ := haside
  have hkind : graph.kind? position.leafName = some .inputObject :=
    TypeGraph.kind?_eq_some_iff.2 ⟨target, htarget, hname, of_decide_eq_true hinput⟩
  exact hclassifies.trans (Leaf.classify_eq_inputObject_iff.2 hkind)

/-- A position that `LeadsAside` is synthesized with a reference to no unit. -/
theorem exists_dangling {position : Position} (hclassifies : graph.Classifies position)
    (haside : graph.LeadsAside position) (id : String) :
    ∃ target ∈ Dialect.native.references
        ((ofDialect .native graph).inference.synthesize position none id),
      target ∉ Members.names ((ofDialect .native graph).units graph) := by
  have hleaf := leaf_of_leadsAside hclassifies haside
  obtain ⟨target, -, -, hmeta, hname⟩ := haside
  refine ⟨position.leafName, Inference.mem_references_synthesize rfl hleaf none id, ?_⟩
  exact hname ▸ notMem_names_units rfl hmeta

section
variable (hclassified : graph.Classified)
include hclassified

theorem resolved_of_settled (dialect : Dialect) (h : graph.Settled) :
    ∀ unit ∈ (ofDialect dialect graph).units graph,
      RefersOnly dialect (· ∈ Members.names ((ofDialect dialect graph).units graph)) unit.2 := by
  have hposition : ∀ position id, graph.Classifies position → ¬graph.LeadsAside position →
      RefersOnly dialect (· ∈ Members.names ((ofDialect dialect graph).units graph))
        ((ofDialect dialect graph).inference.synthesize position none id) := by
    intro position id hclassifies haside
    refine (Inference.synthesize_refersOnly (isPlain_ofDialect dialect graph).dialect
      (fun _ hnone => by cases hnone) position (fun _ hnone => by cases hnone) id).mono ?_
    rintro _ ⟨hleaf, rfl⟩
    exact mem_names_of_leaf hclassifies haside hleaf
  intro unit hunit
  obtain ⟨type, htype, hunit⟩ := List.mem_flatMap.1 hunit
  refine refersOnly_of_mem_typeUnits rfl rfl hunit (fun hplain hinput field hfield => ?_)
    fun hplain houtput field hfield argument hargument => ?_
  · exact hposition _ _ (hclassified type htype field hfield).1
      (h.fields type htype hplain hinput field hfield)
  · exact hposition _ _ ((hclassified type htype field hfield).2 argument hargument)
      (h.arguments type htype hplain houtput field hfield argument hargument)

section
variable (hresolved : ∀ unit ∈ (ofDialect .native graph).units graph,
    ∀ target ∈ Dialect.native.references unit.2,
      target ∈ Members.names ((ofDialect .native graph).units graph))
  (htype : type ∈ graph.types) (hplain : type.isIntrospection = false) (hfield : field ∈ type.fields)
include hresolved htype hplain hfield

theorem not_leadsAside_of_field (hinput : type.isInputObject = true) :
    ¬graph.LeadsAside field.position := by
  intro haside
  have hclassifies := (hclassified type htype field hfield).1
  obtain ⟨target, hreferred, hnone⟩ := exists_dangling hclassifies haside
    ((ofDialect .native graph).fieldId type field)
  have hshaped := Position.isShaped_of_inputObject (leaf_of_leadsAside hclassifies haside)
  have hmem : field ∈ (ofDialect .native graph).shapedFields type := by
    rw [shapedFields_plain]
    exact List.mem_filter.2 ⟨hfield, hshaped _⟩
  have hunit : (ofDialect .native graph).inputUnit type field ∈ (ofDialect .native graph).typeUnits type :=
    mem_typeUnits_iff.2 ⟨hplain, .inl ⟨hinput, field, hmem, rfl⟩⟩
  exact hnone (hresolved _ (mem_units_of_mem htype hunit) target hreferred)

theorem not_leadsAside_of_argument {argument : GraphArgument} (houtput : type.isOutputObject = true)
    (hd : (field.arguments.map (·.name)).Nodup) (hargument : argument ∈ field.arguments) :
    ¬graph.LeadsAside argument.position := by
  intro haside
  have hclassifies := (hclassified type htype field hfield).2 argument hargument
  let id := (ofDialect .native graph).dialect.referenceId type.name (some field.name) (some argument.name)
  obtain ⟨target, hreferred, hnone⟩ := exists_dangling hclassifies haside id
  have hshaped := Position.isShaped_of_inputObject (leaf_of_leadsAside hclassifies haside)
  have hshape : (ofDialect .native graph).dialect.hasShape
      ((ofDialect .native graph).argumentFragment type field argument) = true := by
    have hfragment : (ofDialect .native graph).argumentFragment type field argument =
        (ofDialect .native graph).inference.synthesize argument.position none id := rfl
    rw [hfragment, Inference.synthesize_none, ← hshaped graph.enumerations]
    exact (Dialect.hasShape_tag .native _ _).trans
      ((isPlain_ofDialect .native graph).hasShape_bareFragment argument.position)
  have hjudged : ¬(ofDialect .native graph).isJudged type field argument := by
    rintro ⟨function, hfunction⟩
    cases hfunction
  have hproperty := (planArguments_asks hd hargument hjudged hshape).property
  have hcallable : field ∈ type.callableFields :=
    GraphType.mem_callableFields_iff.2 ⟨hfield, List.ne_nil_of_mem hargument⟩
  have hunit : (ofDialect .native graph).argumentsUnit type field ∈
      (ofDialect .native graph).typeUnits type :=
    mem_typeUnits_iff.2 ⟨hplain, .inr (.inr ⟨houtput, field, hcallable, rfl⟩)⟩
  refine hnone (hresolved _ (mem_units_of_mem htype hunit) target ?_)
  rw [argumentsUnit_eq rfl]
  refine Dialect.mem_references_tag (Dialect.mem_references_object (Members.mem_of_get? hproperty)
    hreferred _) ?_ _
  simp [Dialect.object, Dialect.nativeFragment, Members.names]

end

end

theorem compilable_plain_iff (hclassified : graph.Classified) (hnames : graph.HasNames)
    (harguments : ∀ type ∈ graph.types, ∀ field ∈ type.fields, (Members.names field.slots).Nodup) :
    (ofDialect .native graph).Compilable graph ↔ graph.Settled := by
  constructor
  · intro h
    have hdrawn := (drawable_plain_iff graph hnames).1 h.toDrawable
    exact {
      callable := fun type htype hplain => (hdrawn type htype hplain).2
      shaped := fun type htype hplain => (hdrawn type htype hplain).1
      arguments := by
        intro type htype hplain houtput field hfield argument hargument
        have hd : (field.arguments.map (·.name)).Nodup := by
          have hslots := harguments type htype field hfield
          rwa [Members.names, GraphField.slots, List.map_map] at hslots
        exact not_leadsAside_of_argument hclassified h.resolved htype hplain hfield houtput hd hargument
      fields := fun type htype hplain hinput field hfield =>
        not_leadsAside_of_field hclassified h.resolved htype hplain hfield hinput }
  · intro h
    have hdrawn := (drawable_plain_iff graph hnames).2 fun type htype hplain =>
      ⟨h.shaped type htype hplain, h.callable type htype hplain⟩
    exact ⟨hdrawn, resolved_of_settled hclassified .native h, exists_shape graph⟩

end Drafting

namespace Registry

/-- Without overrides, directives and a hook a document with well-formed names can be compiled exactly if it
is `Settled`; otherwise `compile` fails with a `duplicate` or an `unresolvedReference`, and every fragment
is a shape. -/
theorem plain_compiles_iff (definitions : List TypeDefinition) (options : NativeOptions)
    (hnames : (TypeGraph.ofDefinitions definitions).HasNames)
    (harguments : ∀ type ∈ (TypeGraph.ofDefinitions definitions).types, ∀ field ∈ type.fields,
      (Members.names field.slots).Nodup) :
    ((∃ registry, compile (.native options) none {} (.ofDefinitions definitions) = .ok registry) ↔
        (TypeGraph.ofDefinitions definitions).Settled) ∧
      (∀ error, compile (.native options) none {} (.ofDefinitions definitions) = .error error →
        (∃ id, error = .duplicate id) ∨ ∃ source target, error = .unresolvedReference source target) ∧
      (∀ position id, ∃ shape, Shape.ofFragment ((Drafting.ofDialect .native
        (.ofDefinitions definitions)).inference.synthesize position none id) = .ok shape) ∧
      ∀ unit ∈ (Drafting.ofDialect .native (.ofDefinitions definitions)).units (.ofDefinitions definitions),
        ∃ shape, Shape.ofFragment unit.2 = .ok shape := by
  have hshapes := Drafting.exists_shape (.ofDefinitions definitions)
  refine ⟨?_, fun error herror => ?_, fun position id => Drafting.exists_shape_synthesize _ position id,
    hshapes⟩
  · rw [compile_total_iff]
    exact Drafting.compilable_plain_iff (TypeGraph.ofDefinitions_classified definitions) hnames harguments
  · rcases compile_error herror with (hduplicate | ⟨coordinate, -, huntyped⟩) | hunresolved |
      ⟨unit, hunit, hunread⟩
    · exact .inl hduplicate
    · cases huntyped
    · exact .inr hunresolved
    · obtain ⟨shape, hshape⟩ := hshapes unit hunit
      exact absurd hshape (hunread shape)

/-- A document in which two input objects refer to each other before and after they are declared, beside one
of introspection that nothing takes. -/
def threadsDocument : List TypeDefinition :=
  [⟨"Thread", [], .inputObject [⟨"ref", .list (.list (.named "Post" true) false) true, []⟩]⟩,
    ⟨"__Hidden", [], .inputObject [⟨"kind", .named "Unknown" false, []⟩]⟩,
    ⟨"Post", [], .inputObject [⟨"thread", .named "Thread" false, []⟩, ⟨"kind", .named "Int" true, []⟩]⟩,
    ⟨"Query", [], .object [⟨"find", [⟨"thread", .named "Thread" true, []⟩], .named "Int" false, []⟩]⟩]

theorem plain_compiles_iff_threads :
    (TypeGraph.ofDefinitions threadsDocument).HasNames ∧
      (∀ type ∈ (TypeGraph.ofDefinitions threadsDocument).types, ∀ field ∈ type.fields,
        (Members.names field.slots).Nodup) ∧
      (∃ registry, compile (.native {}) none {} (.ofDefinitions threadsDocument) = .ok registry) ∧
      (TypeGraph.ofDefinitions threadsDocument).Settled := by
  have hnames : (TypeGraph.ofDefinitions threadsDocument).HasNames := by decide +kernel
  have harguments : ∀ type ∈ (TypeGraph.ofDefinitions threadsDocument).types, ∀ field ∈ type.fields,
      (Members.names field.slots).Nodup := by decide +kernel
  have hrun : (compile (.native {}) none {} (.ofDefinitions threadsDocument)).isOk = true := by
    decide +kernel
  have hcompiles : ∃ registry,
      compile (.native {}) none {} (.ofDefinitions threadsDocument) = .ok registry :=
    exists_ok_of_isOk hrun
  exact ⟨hnames, harguments, hcompiles,
    (plain_compiles_iff threadsDocument {} hnames harguments).1.1 hcompiles⟩

end Registry

end ArgGuard
