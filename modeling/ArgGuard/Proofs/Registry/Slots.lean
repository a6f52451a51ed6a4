import ArgGuard.Proofs.Registry.Plans
import ArgGuard.Proofs.Schema.Bare
import ArgGuard.Proofs.Schema.Fits

/-!
# Units without overrides

Without overrides and without a hook the units of a graph can be written down: the unit of an argument
object or of an input object is an object whose properties are the fragments of the slots of which
anything is known, in their order, and which requires those that refuse `null`. This holds in either
dialect, and which slots are meant does not depend on it.
-/

namespace ArgGuard

/-! ### Shapes -/

theorem Dialect.hasShape_tag (dialect : Dialect) (fragment : Fragment) (id : String) :
    dialect.hasShape (dialect.tag fragment id) = dialect.hasShape fragment := by
  have htag : dialect.tagKey ∉ dialect.shapeKeys := by cases dialect <;> decide
  rw [Bool.eq_iff_iff]
  simp only [hasShape, List.any_eq_true]
  refine exists_congr fun key => and_congr_right fun hkey => ?_
  rw [Members.contains, Members.contains, get?_tag fun heq => htag (heq ▸ hkey)]

theorem Inference.IsPlain.hasShape_bareFragment {inference : Inference} {dialect : Dialect}
    (h : inference.IsPlain dialect) (position : Position) :
    dialect.hasShape (inference.bareFragment position) = position.isShaped inference.enumerations := by
  cases position with
  | list item nonNull =>
    rw [bareFragment, h.dialect]
    cases dialect <;> rfl
  | named name leaf nonNull =>
    rw [bareFragment, h.dialect]
    by_cases hleaf : leaf = .inputObject
    · subst hleaf
      cases dialect <;> cases nonNull <;> rfl
    · rw [if_neg hleaf, h.infer_eq, standard, Position.isShaped_named hleaf, h.dialect]
      cases Builtin.ofName? name with
      | some scalar => cases dialect <;> cases nonNull <;> rfl
      | none =>
        simp only [Members.contains]
        cases Members.get? inference.enumerations name with
        | some values => cases dialect <;> cases nonNull <;> rfl
        | none => cases dialect <;> rfl

/-! ### Plans -/

namespace ObjectPlan

variable {plan : ObjectPlan} {slots : Members Position}

def addSlot (fragmentOf : String × Position → Fragment) (plan : ObjectPlan) (slot : String × Position) :
    ObjectPlan :=
  plan.addProperty slot.2 slot.1 (fragmentOf slot)

theorem foldl_addSlot_properties (fragmentOf : String × Position → Fragment)
    (hd : (Members.names plan.properties ++ Members.names slots).Nodup) :
    (slots.foldl (addSlot fragmentOf) plan).properties =
      plan.properties ++ slots.map fun slot => (slot.1, fragmentOf slot) := by
  induction slots generalizing plan with
  | nil => simp
  | cons slot rest ih =>
    have hnew : slot.1 ∉ Members.names plan.properties := fun h =>
      (List.nodup_append.1 hd).2.2 _ h _ List.mem_cons_self rfl
    have hadded :
        (addSlot fragmentOf plan slot).properties = plan.properties ++ [(slot.1, fragmentOf slot)] :=
      Members.set_of_notMem hnew
    rw [List.foldl_cons, ih, hadded, List.append_assoc, List.map_cons, List.singleton_append]
    rw [hadded]
    simpa [Members.names] using hd

theorem foldl_addSlot_required (fragmentOf : String × Position → Fragment) (slots : Members Position) :
    (slots.foldl (addSlot fragmentOf) plan).required = plan.required ++ requiredSlots slots := by
  induction slots generalizing plan with
  | nil => simp [requiredSlots]
  | cons slot rest ih =>
    have hadded : (addSlot fragmentOf plan slot).required =
        plan.required ++ if slot.2.nonNull then [slot.1] else [] := requireIf_required
    rw [List.foldl_cons, ih, hadded, List.append_assoc]
    cases hn : slot.2.nonNull <;> simp [requiredSlots, hn]

end ObjectPlan

namespace Drafting

variable {drafting : Drafting} {type : GraphType} {field : GraphField} {dialect : Dialect}

/-- The object that the shaped ones among slots ask for. -/
def slotPlan (drafting : Drafting) (idOf : String → String) (slots : Members Position) : ObjectPlan :=
  (shapedSlots drafting.inference.enumerations slots).foldl (ObjectPlan.addSlot fun slot =>
    drafting.inference.dialect.tag (drafting.inference.bareFragment slot.2) (idOf slot.1)) {}

section
variable (h : drafting.inference.IsPlain dialect) (hoverrides : drafting.overrides = {})
include h hoverrides

theorem planArguments_eq : drafting.planArguments type field =
    drafting.slotPlan (fun name => dialect.referenceId type.name (some field.name) (some name))
      field.slots := by
  have hnone : ∀ argument, drafting.overrides.argument? (argumentCoordinate type field argument) = none := by
    intro argument
    rw [hoverrides, Overrides.argument?, Members.get?_nil]
  have hdialect : drafting.dialect = dialect := h.dialect
  rw [planArguments, slotPlan, shapedSlots, List.foldl_filter, GraphField.slots, List.foldl_map]
  congr 1
  funext plan argument
  rw [planArgument_eq, hnone, argumentFragment, argumentOverride, hnone, Inference.synthesize_none, hdialect,
    h.dialect, Dialect.hasShape_tag, h.hasShape_bareFragment]
  rfl

theorem inputFragment_eq : drafting.inputFragment type field =
    dialect.tag (drafting.inference.bareFragment field.position)
      (dialect.referenceId type.name (some field.name) none) := by
  have hdialect : drafting.dialect = dialect := h.dialect
  rw [inputFragment, hoverrides, Overrides.inputField?, Members.get?_nil, Inference.synthesize_none, h.dialect,
    fieldId, hdialect]

theorem hasUnit_eq :
    drafting.hasUnit type field = field.position.isShaped drafting.inference.enumerations := by
  have hdialect : drafting.dialect = dialect := h.dialect
  rw [hasUnit, inputFragment_eq h hoverrides, hdialect, Dialect.hasShape_tag, h.hasShape_bareFragment]

theorem inputPlan_eq : drafting.inputPlan type =
    drafting.slotPlan (fun name => dialect.referenceId type.name (some name) none) type.slots := by
  rw [inputPlan, slotPlan, shapedSlots, List.foldl_filter, GraphType.slots, List.foldl_map, shapedFields,
    List.foldl_filter]
  congr 1
  funext plan field
  rw [hasUnit_eq h hoverrides, planInput, inputFragment_eq h hoverrides, h.dialect]
  rfl

end

/-! ### Units -/

section
variable {idOf : String → String} {slots : Members Position}

theorem slotPlan_properties (hd : (Members.names slots).Nodup) :
    (drafting.slotPlan idOf slots).properties = drafting.inference.slotProperties idOf
      (shapedSlots drafting.inference.enumerations slots) := by
  rw [slotPlan, ObjectPlan.foldl_addSlot_properties _ (by simpa [Members.names] using nodup_shapedSlots hd)]
  rfl

theorem slotPlan_required : (drafting.slotPlan idOf slots).required =
    requiredSlots (shapedSlots drafting.inference.enumerations slots) := by
  rw [slotPlan, ObjectPlan.foldl_addSlot_required, List.nil_append]

end

section
variable (h : drafting.inference.IsPlain dialect) (hoverrides : drafting.overrides = {})
include h hoverrides

theorem argumentsUnit_bare (hd : (Members.names field.slots).Nodup) : drafting.argumentsUnit type field =
    (dialect.referenceId type.name (some field.name) none,
      dialect.tag (dialect.object
        (drafting.inference.slotProperties
          (fun name => dialect.referenceId type.name (some field.name) (some name))
          (shapedSlots drafting.inference.enumerations field.slots))
        (requiredSlots (shapedSlots drafting.inference.enumerations field.slots)))
        (dialect.referenceId type.name (some field.name) none)) := by
  have hdialect : drafting.dialect = dialect := h.dialect
  rw [argumentsUnit, argumentsFragment, fieldId, hdialect, planArguments_eq h hoverrides,
    slotPlan_properties hd, slotPlan_required]

theorem typeUnit_bare (hd : (Members.names type.slots).Nodup) : drafting.typeUnit type =
    (dialect.referenceId type.name none none,
      dialect.tag (dialect.typeUnit
        (drafting.inference.slotProperties (fun name => dialect.referenceId type.name (some name) none)
          (shapedSlots drafting.inference.enumerations type.slots))
        (requiredSlots (shapedSlots drafting.inference.enumerations type.slots)))
        (dialect.referenceId type.name none none)) := by
  have hdialect : drafting.dialect = dialect := h.dialect
  rw [typeUnit, typeFragment, typeId, hdialect, hoverrides, Overrides.type?, Members.get?_nil,
    inputPlan_eq h hoverrides, slotPlan_properties hd, slotPlan_required]

theorem inputUnit_bare : drafting.inputUnit type field =
    (dialect.referenceId type.name (some field.name) none,
      dialect.tag (drafting.inference.bareFragment field.position)
        (dialect.referenceId type.name (some field.name) none)) := by
  have hdialect : drafting.dialect = dialect := h.dialect
  rw [inputUnit, inputFragment_eq h hoverrides, fieldId, hdialect]

end

end Drafting

end ArgGuard
