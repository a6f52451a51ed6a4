import ArgGuard.Proofs.Backend.Skeleton

/-!
# What a validator makes of an object

An answer has the skeleton of the value, so an object that is accepted comes back as an object with the
same names in the same order, whatever the unit says (`validate_object`). A validator that refuses says
why (`validate_ne_nil`).
-/

namespace ArgGuard

variable {members : Members Json} {value : Json}

def Json.HasNames (names : List String) (value : Json) : Prop :=
  ∃ members, value = .object members ∧ Members.names members = names

theorem Json.hasNames_of_skeleton (h : value.skeleton = skeleton (.object members)) :
    value.HasNames (Members.names members) := by
  cases value with
  | null | bool | number | string | array => rw [skeleton_object] at h; cases h
  | object others =>
    rw [skeleton_object, skeleton_object, Skeleton.object.injEq] at h
    refine ⟨others, rfl, ?_⟩
    have hnames := congrArg Members.names h
    simpa only [Members.names, Members.mapValues, List.map_map, Function.comp_def] using hnames

theorem JsonSchema.Coercion.hasNames_coerce {definitions : Members Json} (schema : Json) :
    (coerce definitions schema (.object members)).HasNames (Members.names members) :=
  Json.hasNames_of_skeleton (skeleton_coerce definitions schema _)

namespace Validator

/-- An accepted object keeps its names, whether a `Validator.native` or a `Validator.jsonSchema` answers. -/
theorem validate_object (validator : Validator) {answer : Json}
    (h : validator.validate (.object members) = .ok answer) : answer.HasNames (Members.names members) :=
  Json.hasNames_of_skeleton (skeleton_validate h)

theorem validate_ne_nil (validator : Validator) : validator.validate value ≠ .error [] := by
  intro h
  cases validator with
  | native id rules =>
    simp only [validate, checkUnit] at h
    split at h
    · cases h
    · rename_i shape hshape
      cases hfailures : (shape.check rules value).failures with
      | nil => simp [Checked.result, hfailures] at h
      | cons first rest => simp [Checked.result, hfailures] at h
  | jsonSchema coercion errors =>
    obtain ⟨seen, -, heq⟩ := checkSchema_eq coercion errors value
    rw [validate, heq] at h
    split at h
    · cases h
    · rename_i hfailures
      rw [Except.error.injEq] at h
      rw [h] at hfailures
      exact hfailures rfl

end Validator

end ArgGuard
