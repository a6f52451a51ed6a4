import ArgGuard.Proofs.Graph.Classification
import ArgGuard.Proofs.Registry.Compiled
import ArgGuard.Proofs.Registry.Plans
import ArgGuard.Proofs.Schema.Mentions
import ArgGuard.Proofs.Shape.Places

/-!
# References of compiled registries

A registry is refused if a text under the key `ref` names no unit, and shapes refer to nothing but
such texts, so at a check every reference finds its unit. Chains of references need more: the unit of
a field may be a reference, and so may a fragment of the host. But a position refers to an input
object only by its declared name, which leads to the unit of that type and thus to an object, so as
long as the host refers to nothing itself no chain is longer than one step.
-/

namespace ArgGuard

variable {options : NativeOptions} {hook : Option InferenceHook} {overrides : Overrides}
  {definitions : List TypeDefinition} {graph : TypeGraph} {drafting : Drafting} {type : GraphType}
  {blueprint : Blueprint} {table : UnitTable} {registry : Registry}

/-! ### What the table holds -/

/-- The names that a graph declares as input objects. -/
def TypeGraph.DeclaresInput (graph : TypeGraph) (name : String) : Prop :=
  ∃ type ∈ graph.types, type.name = name ∧ type.kind = .inputObject

namespace Blueprint

theorem danglingReference?_eq_none_iff {dialect : Dialect} :
    blueprint.danglingReference? dialect = none ↔ ∀ unit ∈ blueprint.units,
      ∀ target ∈ dialect.references unit.2, target ∈ Members.names blueprint.units := by
  simp only [danglingReference?, List.findSome?_eq_none_iff, Option.map_eq_none_iff,
    List.find?_eq_none, Bool.not_eq_true', Bool.not_eq_false, Members.mem_names_iff]

end Blueprint

namespace Registry.Compiled

variable (h : Compiled options blueprint table registry)
include h

/-- Every reference in the table leads to a unit of the table: `danglingReference?` has found none that does
not. -/
theorem refersInto : ∀ entry ∈ table, Shape.Everywhere (Shape.RefersInto table) entry.2 := by
  intro entry hentry
  obtain ⟨fragment, hunit, hread⟩ := h.reads.exists_fragment hentry
  refine (Shape.refersWithin_references hread).mono fun shape hshape hk => ?_
  obtain ⟨target, hmem, ht⟩ := hshape hk
  have hknown := Blueprint.danglingReference?_eq_none_iff.1 h.resolved _ hunit target hmem
  obtain ⟨next, hnext⟩ := h.reads.exists_shape hknown
  exact ⟨target, next, ht, hnext⟩

theorem refersDirectly (hof : Blueprint.ofGraph drafting graph = .ok blueprint)
    (hdialect : drafting.dialect = .native)
    (honly : ∀ unit ∈ blueprint.units, RefersOnly .native graph.DeclaresInput unit.2) :
    ∀ entry ∈ table, Shape.Everywhere (Shape.RefersDirectly table) entry.2 := by
  intro entry hentry
  obtain ⟨fragment, hunit, hread⟩ := h.reads.exists_fragment hentry
  refine (Shape.refersWithin_references hread).mono fun shape hshape hk => ?_
  obtain ⟨target, hmem, ht⟩ := hshape hk
  obtain ⟨type, htype, rfl, hkind⟩ := honly _ hunit target hmem
  have hknown := Blueprint.danglingReference?_eq_none_iff.1 h.resolved _ hunit _ hmem
  have hdeclared := Blueprint.get?_typeUnit hof hdialect htype (decide_eq_true hkind) hknown
  obtain ⟨next, hnext, hnextRead⟩ := h.reads.get? hdeclared
  refine ⟨type.name, next, ht, hnext, ?_⟩
  rw [(Drafting.declares_typeFragment hdialect).shape_kind hnextRead]
  simp

end Registry.Compiled

/-! ### References of a graph's units -/

namespace Drafting

section
variable {dialect : Dialect} {plan : ObjectPlan} {id : String} (hdialect : drafting.dialect = dialect)
  (homits : drafting.overrides.mentions dialect.referenceKey = false)
include hdialect

theorem argumentsFragment_refersOnly {allowed : String → Prop}
    (h : ∀ entry ∈ plan.properties, RefersOnly dialect allowed entry.2) :
    RefersOnly dialect allowed (drafting.argumentsFragment id plan) := by
  unfold argumentsFragment
  rw [hdialect]
  exact (RefersOnly.object h).tag id

include homits

theorem typeFragment_refersOnly {allowed : String → Prop}
    (h : ∀ entry ∈ plan.properties, RefersOnly dialect allowed entry.2) :
    RefersOnly dialect allowed (drafting.typeFragment type plan) := by
  unfold typeFragment
  rw [hdialect]
  refine RefersOnly.tag ?_ _
  split
  · rename_i override hfound
    exact (RefersOnly.typeUnit h).merge (Overrides.type?_omits homits hfound)
  · exact RefersOnly.typeUnit h

theorem refersOnly_of_mem_typeUnits {allowed : String → Prop} {unit : String × Fragment}
    (hunit : unit ∈ drafting.typeUnits type)
    (hinput : type.isIntrospection = false → type.isInputObject = true → ∀ field ∈ type.fields,
      RefersOnly dialect allowed (drafting.inputFragment type field))
    (hargument : type.isIntrospection = false → type.isOutputObject = true → ∀ field ∈ type.fields,
      ∀ argument ∈ field.arguments, RefersOnly dialect allowed (drafting.argumentFragment type field argument)) :
    RefersOnly dialect allowed unit.2 := by
  obtain ⟨hplain, ⟨hkind, field, hfield, rfl⟩ | ⟨hkind, rfl⟩ | ⟨hkind, field, hfield, rfl⟩⟩ :=
    mem_typeUnits_iff.1 hunit
  · exact hinput hplain hkind field (List.mem_of_mem_filter hfield)
  · refine typeFragment_refersOnly hdialect homits fun entry hentry => ?_
    obtain ⟨field, hfield, rfl⟩ := mem_inputPlan hentry
    exact hinput hplain hkind field (List.mem_of_mem_filter hfield)
  · refine argumentsFragment_refersOnly hdialect fun entry hentry => ?_
    obtain ⟨argument, hmem, rfl⟩ := mem_planArguments hentry
    exact hargument hplain hkind field (List.mem_of_mem_filter hfield) argument hmem

end

variable (hdialect : drafting.dialect = .native) (homits : drafting.overrides.mentions "ref" = false)
  (hhook : ∀ hook, drafting.inference.hook = some hook → hook.Omits "ref")
  (hclassified : graph.Classified)
include hdialect homits hhook hclassified

theorem inputFragment_refersOnly {field : GraphField} (htype : type ∈ graph.types)
    (hfield : field ∈ type.fields) :
    RefersOnly .native graph.DeclaresInput (drafting.inputFragment type field) :=
  (Inference.synthesize_refersOnly hdialect hhook field.position
    (fun _ hfound => Overrides.inputField?_omits homits hfound) _).mono
    fun _ ⟨hleaf, hname⟩ => hname ▸ (hclassified type htype field hfield).1.inputObject hleaf

theorem argumentFragment_refersOnly {field : GraphField} {argument : GraphArgument}
    (htype : type ∈ graph.types) (hfield : field ∈ type.fields)
    (hargument : argument ∈ field.arguments) :
    RefersOnly .native graph.DeclaresInput (drafting.argumentFragment type field argument) := by
  have hoverride : Inference.Omits "ref"
      (drafting.argumentOverride (argumentCoordinate type field argument)) := by
    intro fragment hfound
    unfold argumentOverride at hfound
    split at hfound <;> cases hfound
    rename_i hfound
    exact Overrides.argument?_omits homits hfound
  exact (Inference.synthesize_refersOnly hdialect hhook argument.position hoverride _).mono
    fun _ ⟨hleaf, hname⟩ =>
      hname ▸ ((hclassified type htype field hfield).2 argument hargument).inputObject hleaf

theorem units_refersOnly (hof : Blueprint.ofGraph drafting graph = .ok blueprint) :
    ∀ unit ∈ blueprint.units, RefersOnly .native graph.DeclaresInput unit.2 := by
  intro unit hunit
  obtain ⟨type, htype, hunit⟩ := (Blueprint.mem_units_iff hof).1 hunit
  refine refersOnly_of_mem_typeUnits hdialect homits hunit (fun _ _ field hfield => ?_)
    fun _ _ field hfield argument hargument => ?_
  · exact inputFragment_refersOnly hdialect homits hhook hclassified htype hfield
  · exact argumentFragment_refersOnly hdialect homits hhook hclassified htype hfield hargument

end Drafting

/-! ### What a request can be told -/

/-- Whether the message of a failure begins with a text. -/
def ValueFailure.OpensWith (failure : ValueFailure) (opening : String) : Prop :=
  opening.toList <+: failure.message.toList

theorem head?_append_of_eq {text : String} {c : Char} (h : text.toList.head? = some c) (rest : String) :
    (text ++ rest).toList.head? = some c := by
  rw [String.toList_append, List.head?_append, h, Option.some_or]

namespace CheckCause

variable {cause : CheckCause} {opening : String} {c : Char}

/-- The first letter of a message. -/
def initial : CheckCause → Char
  | unresolved _ | unexpectedProperty => 'u'
  | tooDeep _ => 'r'
  | wrongKind .. => 'e'
  | repeatedItem => 'i'
  | _ => 'm'

theorem head?_message (cause : CheckCause) : cause.message.toList.head? = some cause.initial := by
  cases cause with
  | isNull | repeatedItem | unexpectedProperty => rfl
  | unresolved | tooDeep | tooShort | tooLong | noMatch | tooFewItems | tooManyItems
  | missingProperty => exact head?_append_of_eq (head?_append_of_eq rfl _) _
  | wrongKind => exact head?_append_of_eq (head?_append_of_eq (head?_append_of_eq rfl _) _) _
  | notOfFormat | belowMinimum | aboveMaximum | notAbove | notBelow | notMultiple | notAllowed =>
    exact head?_append_of_eq rfl _

theorem initial_of_opens (h : opening.toList <+: cause.message.toList)
    (hc : opening.toList.head? = some c) : cause.initial = c := by
  obtain ⟨rest, hrest⟩ := h
  have hm := cause.head?_message
  rw [← hrest, List.head?_append, hc, Option.some_or] at hm
  exact (Option.some.inj hm).symm

theorem unresolved_of_opens (h : opening.toList <+: cause.message.toList)
    (hc : opening.toList.head? = some 'u')
    (hother : ¬opening.toList <+: unexpectedProperty.message.toList) :
    ∃ target, cause = .unresolved target := by
  have hinitial := initial_of_opens h hc
  cases cause with
  | unresolved target => exact ⟨target, rfl⟩
  | unexpectedProperty => exact absurd h hother
  | _ => simp [initial] at hinitial

theorem tooDeep_of_opens (h : opening.toList <+: cause.message.toList)
    (hc : opening.toList.head? = some 'r') : ∃ target, cause = .tooDeep target := by
  have hinitial := initial_of_opens h hc
  cases cause with
  | tooDeep target => exact ⟨target, rfl⟩
  | _ => simp [initial] at hinitial

end CheckCause

namespace Registry

variable {id : String} {shape : Shape} {value : Json} {failures : List ValueFailure}
  {failure : ValueFailure} {found : CheckFailure}

theorem Compiled.cause_ne_unresolved (h : Compiled options blueprint table registry)
    (hshape : Members.get? table id = some shape)
    (hfound : found ∈ (shape.check ⟨table, options.coercing⟩ value).failures) (target : String) :
    found.cause ≠ .unresolved target := by
  intro hcause
  obtain ⟨inner, part, hvisits, hresolve⟩ := Shape.reference_failure hfound (by rw [hcause]; rfl)
  have hinner := (h.refersInto _ (Members.mem_of_get? hshape)).visits h.refersInto hvisits
  obtain ⟨name, hname⟩ := Shape.resolve_error (fun entry he => (h.refersInto entry he).here)
    hinner.here hresolve
  cases hcause.symm.trans hname

theorem Compiled.cause_ne_tooDeep
    (hdirect : ∀ entry ∈ table, Shape.Everywhere (Shape.RefersDirectly table) entry.2)
    (hshape : Members.get? table id = some shape)
    (hfound : found ∈ (shape.check ⟨table, options.coercing⟩ value).failures) (target : String) :
    found.cause ≠ .tooDeep target := by
  intro hcause
  obtain ⟨inner, part, hvisits, hresolve⟩ := Shape.reference_failure hfound (by rw [hcause]; rfl)
  have hinner := (hdirect _ (Members.mem_of_get? hshape)).visits hdirect hvisits
  obtain ⟨next, hnext⟩ := Shape.resolve_direct hinner.here 63
  cases hresolve.symm.trans hnext

/-- A validator of a compiled native registry never blames a reference, and never a chain of them unless the
host refers to something itself. -/
theorem references_resolve (definitions : List TypeDefinition) (options : NativeOptions)
    (hook : Option InferenceHook) (overrides : Overrides) (registry : Registry)
    (h : compile (.native options) hook overrides (.ofDefinitions definitions) = .ok registry)
    (validator : Validator) (hvalidator : validator ∈ registry.validators) (value : Json)
    (failures : List ValueFailure) (hfailed : validator.validate value = .error failures)
    (failure : ValueFailure) (hfailure : failure ∈ failures) :
    ¬failure.OpensWith "unknown unit" ∧ ¬failure.OpensWith "unresolved reference" ∧
      (overrides.mentions "ref" = false → (∀ known, hook = some known → known.Omits "ref") →
        ¬failure.OpensWith "reference chain") := by
  obtain ⟨blueprint, table, hof, hcompiled⟩ := compile_native h
  obtain ⟨id, hid, rfl⟩ := hcompiled.validator hvalidator
  obtain ⟨shape, hshape⟩ := hcompiled.reads.exists_shape hid
  obtain ⟨found, hfound, rfl⟩ := nativeValidator_error hshape hfailed hfailure
  refine ⟨fun ho => ?_, fun ho => ?_, fun homits hhook ho => ?_⟩
  · obtain ⟨target, hc⟩ := CheckCause.unresolved_of_opens ho rfl (by decide)
    exact hcompiled.cause_ne_unresolved hshape hfound target hc
  · obtain ⟨target, hc⟩ := CheckCause.unresolved_of_opens ho rfl (by decide)
    exact hcompiled.cause_ne_unresolved hshape hfound target hc
  · obtain ⟨target, hc⟩ := CheckCause.tooDeep_of_opens ho rfl
    have honly := Drafting.units_refersOnly rfl homits hhook
      (TypeGraph.ofDefinitions_classified definitions) hof
    exact Compiled.cause_ne_tooDeep (hcompiled.refersDirectly hof rfl honly) hshape hfound target hc

/-- A document whose input object refers to itself. -/
def nestedFilters : List TypeDefinition :=
  [⟨"Filters", [], .inputObject
      [⟨"nested", .named "Filters" false, []⟩, ⟨"id", .named "ID" true, []⟩]⟩,
    ⟨"Query", [], .object
      [⟨"search", [⟨"filters", .named "Filters" true, []⟩], .named "String" false, []⟩]⟩]

/-- Filters inside one another, of which the innermost lacks its name. -/
def filtersOfDepth : Nat → Json
  | 0 => .object []
  | depth + 1 => .object [("id", .string "x"), ("nested", filtersOfDepth depth)]

/-- At a depth beyond `referenceLimit`, the missing name is blamed and no reference. -/
theorem references_resolve_nestedFilters :
    ∃ registry, compile (.native {}) none {} (.ofDefinitions nestedFilters) = .ok registry ∧
      ∃ validator ∈ registry.validators, ∃ failures,
        validator.validate (filtersOfDepth 80) = .error failures ∧ ∃ failure ∈ failures,
          ¬failure.OpensWith "unknown unit" ∧ ¬failure.OpensWith "unresolved reference" ∧
            ¬failure.OpensWith "reference chain" := by
  have hrun : (match compile (.native {}) none {} (.ofDefinitions nestedFilters) with
      | .ok registry => registry.validators.any fun validator =>
        match validator.validate (filtersOfDepth 80) with
        | .ok _ => false
        | .error failures => !failures.isEmpty
      | .error _ => false) = true := by decide +kernel
  split at hrun
  · rename_i registry h
    obtain ⟨validator, hvalidator, hrun⟩ := List.any_eq_true.1 hrun
    split at hrun
    · cases hrun
    · rename_i failures hfailed
      obtain ⟨failure, hfailure⟩ := List.isEmpty_eq_false_iff_exists_mem.1 (by simpa using hrun)
      obtain ⟨hunit, hresolved, hchain⟩ := references_resolve nestedFilters {} none {} registry h
        validator hvalidator _ failures hfailed failure hfailure
      exact ⟨registry, h, validator, hvalidator, failures, hfailed, failure, hfailure, hunit, hresolved,
        hchain (by decide) (by simp)⟩
  · cases hrun

end Registry

end ArgGuard
