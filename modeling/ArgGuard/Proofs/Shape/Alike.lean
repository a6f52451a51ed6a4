import ArgGuard.Proofs.Shape.Evaluation
import ArgGuard.Proofs.Shape.KeyOrder
import Mathlib.Data.List.Perm.Basic

/-!
# Shapes that ask the same of every value

Two shapes are alike if, whatever the rules, the check of a value answers the same value and the same
failures up to their order. The order of the failures is that of a shape's properties, so shapes with the
same properties in another order are alike, and shapes stay alike when their items and properties are
replaced by alike ones (`Alike.of_parts`). The units that references lead to are those of the table, and
belong to the rules.
-/

namespace ArgGuard

/-- Two checks with the same answer and the same failures up to their order. -/
structure Checked.Same (checked other : Checked) : Prop where
  value : checked.value = other.value
  failures : checked.failures.Perm other.failures

namespace Checked.Same

variable {checked other third : Checked}

theorem refl (checked : Checked) : checked.Same checked := ⟨rfl, .refl _⟩

theorem of_eq (h : checked = other) : checked.Same other := h ▸ refl checked

theorem trans (h : checked.Same other) (hother : other.Same third) : checked.Same third :=
  ⟨h.value.trans hother.value, h.failures.trans hother.failures⟩

theorem result_eq_ok_iff (h : checked.Same other) {answer : Json} :
    checked.result = .ok answer ↔ other.result = .ok answer := by
  rw [Shape.result_eq_ok_iff, Shape.result_eq_ok_iff, h.value]
  exact and_congr_left' ⟨fun hnil => (hnil ▸ h.failures).symm.eq_nil, fun hnil => (hnil ▸ h.failures).eq_nil⟩

end Checked.Same

namespace Shape

variable {rules : CheckRules} {shape other third : Shape} {value : Json} {items : Option Shape}
  {properties : Members Shape}

/-- Every value has the same check against both shapes. -/
def Alike (shape other : Shape) : Prop :=
  ∀ (rules : CheckRules) (value : Json), (check rules shape value).Same (check rules other value)

namespace Alike

theorem refl (shape : Shape) : shape.Alike shape := fun _ _ => .refl _

theorem trans (h : shape.Alike other) (hother : other.Alike third) : shape.Alike third :=
  fun rules value => (h rules value).trans (hother rules value)

/-! ### The parts of a value -/

theorem checkPart {part otherPart : Option Shape} (h : Option.Rel Alike part otherPart) (rules : CheckRules)
    (value : Json) : (checkPart rules part value).Same (checkPart rules otherPart value) := by
  cases h with
  | none => exact .refl _
  | some h => exact h rules value

theorem propertyFailures_eq (properties : Members Shape) (checked : Members Checked) :
    propertyFailures properties checked = (Members.names properties).flatMap fun name =>
      match Members.get? checked name with
      | some checked => checked.failures.map (.under name)
      | none => [] := by
  rw [Members.names, List.flatMap_map]
  rfl

section
variable {others : Members Shape} (hproperties : ∀ name,
  Option.Rel Alike (Members.get? properties name) (Members.get? others name))
include hproperties

theorem contains (name : String) : Members.contains properties name = Members.contains others name := by
  have h := hproperties name
  rw [Members.contains, Members.contains]
  generalize Members.get? properties name = property at h
  generalize Members.get? others name = otherProperty at h
  cases h <;> rfl

theorem propertyFailures (hnames : (Members.names properties).Perm (Members.names others))
    (rules : CheckRules) (members : Members Json) :
    (propertyFailures properties (memberChecks rules properties members)).Perm
      (propertyFailures others (memberChecks rules others members)) := by
  rw [propertyFailures_eq, propertyFailures_eq]
  refine (hnames.flatMap_right _).trans (List.Perm.flatMap_left _ fun name _ => ?_)
  rw [get?_memberChecks, get?_memberChecks]
  cases Members.get? members name with
  | none => exact .refl _
  | some value => exact (checkPart (hproperties name) rules value).failures.map _

end

/-! ### The whole check -/

theorem targetOf_reference (hkind : shape.kind = some .ref) (rules : CheckRules) (value : Json) :
    targetOf rules (shape.withParts items properties) value = targetOf rules shape value := by
  have hparts : (shape.withParts items properties).kind = some .ref := hkind
  have hresolve : resolve rules.table referenceLimit (shape.withParts items properties) =
      resolve rules.table referenceLimit shape := by
    rw [resolve, resolve, if_neg (not_not_intro hkind), if_neg (not_not_intro hparts)]
    rfl
  rw [targetOf, targetOf, hresolve]

section
variable (hitems : Option.Rel Alike shape.items items)
  (hnames : (Members.names shape.properties).Perm (Members.names properties))
  (hproperties : ∀ name,
    Option.Rel Alike (Members.get? shape.properties name) (Members.get? properties name))
include hitems hnames hproperties

/-- `compose` asks the items and the properties for their outcomes alone. -/
theorem compose_same (rules : CheckRules) (value : Json) :
    (compose shape (check rules) value).Same (compose (shape.withParts items properties) (check rules) value) := by
  cases value with
  | null | bool | number | string => exact .refl _
  | array values =>
    rw [compose, compose]
    simp only [withParts]
    generalize shape.items = part at hitems
    cases hitems with
    | none => exact .refl _
    | some h =>
      refine ⟨congrArg Json.array (List.map_congr_left fun item _ => (h rules item).value), ?_⟩
      exact .append_left _ (List.Perm.flatMap_left _ fun entry _ => (h rules entry.1).failures.map _)
  | object members =>
    have hunexpected : unexpectedFailures (shape.withParts items properties) members =
        unexpectedFailures shape members := by
      simp only [unexpectedFailures, withParts, contains hproperties]
      rfl
    rw [compose_object, compose_object, hunexpected]
    refine ⟨congrArg Json.object (List.map_congr_left fun entry _ => ?_), ?_⟩
    · exact congrArg (Prod.mk entry.1) (checkPart (hproperties entry.1) rules entry.2).value
    · exact ((propertyFailures hproperties hnames rules members).append_left _).append_right _

theorem of_parts : shape.Alike (shape.withParts items properties) := by
  intro rules value
  by_cases hnull : value = .null
  · subst hnull
    rw [check_null, check_null]
    exact .refl _
  by_cases hkind : shape.kind = some .ref
  · exact .of_eq (check_congr_targetOf hnull (targetOf_reference hkind rules value).symm)
  have hparts : (shape.withParts items properties).kind ≠ some .ref := hkind
  cases htaken : taken rules shape value with
  | none =>
    have htakenParts : taken rules (shape.withParts items properties) value = none := htaken
    obtain ⟨kind, hsome⟩ := exists_kind_of_not_taken htaken
    have hsomeParts : (shape.withParts items properties).kind = some kind := hsome
    have hdirect : kind ≠ .ref := fun he => hkind (he ▸ hsome)
    rw [check_of_error hnull (targetOf_of_wrongKind hsome hdirect htaken),
      check_of_error hnull (targetOf_of_wrongKind hsomeParts hdirect htakenParts)]
    exact .refl _
  | some converted =>
    have htakenParts : taken rules (shape.withParts items properties) value = some converted := htaken
    rw [check_of_taken hnull hkind htaken, check_of_taken hnull hparts htakenParts]
    exact compose_same hitems hnames hproperties rules converted

end

end Alike

end Shape

end ArgGuard
