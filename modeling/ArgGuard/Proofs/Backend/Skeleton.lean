import ArgGuard.Proofs.JsonSchema.Coercion
import ArgGuard.Backend.Validator

/-!
# The skeleton of a document

Both dialects convert scalars inside a document, each on a way of its own. Neither touches what the scalars
hang in: the skeleton of a document, which is its lists with their lengths, its objects with their names in
order, and the places of `null`. `skeleton_check` says so of a native check, whatever is wrong with the
value; `skeleton_coerce` says it of the coercion by a schema of any form, with any definitions, also where
these refer to one another in a circle and the steps run out.
-/

namespace ArgGuard

/-- A document without the values of its scalars. -/
inductive Json.Skeleton
  | null
  | scalar
  | array (items : List Json.Skeleton)
  | object (members : List (String × Json.Skeleton))

namespace Json

mutual

/-- What is left of a document when the values of its scalars are forgotten. -/
def skeleton : Json → Skeleton
  | .null => .null
  | .bool _ | .number _ | .string _ => .scalar
  | .array items => .array (itemSkeletons items)
  | .object members => .object (memberSkeletons members)

def itemSkeletons : List Json → List Skeleton
  | [] => []
  | item :: rest => skeleton item :: itemSkeletons rest

/-- The skeletons of members, each under its name. -/
def memberSkeletons : List (String × Json) → List (String × Skeleton)
  | [] => []
  | (name, value) :: rest => (name, skeleton value) :: memberSkeletons rest

end

theorem skeleton_array (items : List Json) : skeleton (.array items) = .array (items.map skeleton) := by
  rw [skeleton]
  congr 1
  induction items with
  | nil => rfl
  | cons item rest ih => rw [itemSkeletons, ih, List.map_cons]

theorem skeleton_object (members : Members Json) :
    skeleton (.object members) = .object (Members.mapValues skeleton members) := by
  rw [skeleton]
  congr 1
  induction members with
  | nil => rfl
  | cons head rest ih => rw [memberSkeletons, ih]; rfl

theorem skeleton_of_isScalar {value : Json} (h : value.isScalar = true) : value.skeleton = .scalar := by
  cases value with
  | null | array | object => cases h
  | bool | number | string => rfl

theorem skeleton_array_map {items : List Json} {f : Json → Json}
    (h : ∀ item ∈ items, (f item).skeleton = item.skeleton) :
    skeleton (.array (items.map f)) = skeleton (.array items) := by
  rw [skeleton_array, skeleton_array, List.map_map]
  exact congrArg Skeleton.array (List.map_congr_left h)

theorem skeleton_object_map {members : Members Json} {f : String × Json → String × Json}
    (h : ∀ member ∈ members, (f member).1 = member.1 ∧ (f member).2.skeleton = member.2.skeleton) :
    skeleton (.object (members.map f)) = skeleton (.object members) := by
  rw [skeleton_object, skeleton_object, Members.mapValues, Members.mapValues, List.map_map]
  exact congrArg Skeleton.object
    (List.map_congr_left fun member hmember => Prod.ext (h member hmember).1 (h member hmember).2)

theorem height_eq_of_skeleton {value other : Json} (h : value.skeleton = other.skeleton) :
    value.height = other.height := by
  induction value using Json.induct generalizing other with
  | null | bool | number | string =>
    cases other with
    | array | object => simp [skeleton] at h
    | null | bool | number | string => rfl
  | array items ih =>
    cases other with
    | null | bool | number | string | object => simp [skeleton] at h
    | array others =>
      simp only [skeleton_array, Skeleton.array.injEq] at h
      rw [height, height]
      congr 1
      induction items generalizing others with
      | nil => cases others <;> simp_all
      | cons item rest ihRest =>
        cases others with
        | nil => simp at h
        | cons other otherRest =>
          obtain ⟨hitem, hrest⟩ := List.cons.inj h
          rw [itemsHeight, itemsHeight, ih item List.mem_cons_self hitem,
            ihRest (fun part hpart => ih part (List.mem_cons_of_mem _ hpart)) otherRest hrest]
  | object members ih =>
    cases other with
    | null | bool | number | string | array => simp [skeleton] at h
    | object others =>
      simp only [skeleton_object, Skeleton.object.injEq] at h
      rw [height, height]
      congr 1
      induction members generalizing others with
      | nil => cases others <;> simp_all [Members.mapValues]
      | cons member rest ihRest =>
        cases others with
        | nil => simp [Members.mapValues] at h
        | cons other otherRest =>
          obtain ⟨hmember, hrest⟩ := List.cons.inj h
          rw [membersHeight, membersHeight, ih member List.mem_cons_self (Prod.ext_iff.1 hmember).2,
            ihRest (fun part hpart => ih part (List.mem_cons_of_mem _ hpart)) otherRest hrest]

end Json

/-! ### Native checks -/

namespace Shape

/-- `check` keeps the skeleton, whatever is wrong with the value. -/
theorem skeleton_check (rules : CheckRules) (shape : Shape) (value : Json) :
    (check rules shape value).value.skeleton = value.skeleton := by
  induction value using Json.induct generalizing shape with
  | null => rw [check_null]; rfl
  | bool | number | string =>
    rw [check_scalar rfl, withTarget_eq]
    split
    · rename_i target converted ht
      exact (Json.skeleton_of_isScalar (isScalar_targetOf rfl ht)).trans
        (Json.skeleton_of_isScalar rfl).symm
    · rfl
  | array items ih =>
    cases ht : targetOf rules shape (.array items) with
    | error cause => rw [check_of_error (by simp) ht]
    | ok pair =>
      obtain ⟨target, converted⟩ := pair
      obtain rfl := (targetOf_array ht).2
      rw [check_array ht]
      refine Json.skeleton_array_map fun item hitem => ?_
      cases target.items with
      | none => rfl
      | some inner => exact ih item hitem inner
  | object members ih =>
    cases ht : targetOf rules shape (.object members) with
    | error cause => rw [check_of_error (by simp) ht]
    | ok pair =>
      obtain ⟨target, converted⟩ := pair
      obtain rfl := (targetOf_object ht).2
      rw [check_object ht]
      refine Json.skeleton_object_map fun member hmember => ⟨rfl, ?_⟩
      cases Members.get? target.properties member.1 with
      | none => rfl
      | some property => exact ih member hmember property

end Shape

/-! ### Coercion by a schema -/

namespace JsonSchema.Coercion

variable {definitions schema : Members Json} {below : Coercer}

theorem skeleton_coerceScalar (types : List String) (value : Json) :
    (coerceScalar types value).skeleton = value.skeleton := by
  rcases coerceScalar_cases types value with hsame | ⟨hvalue, hscalar⟩
  · rw [hsame]
  · rw [Json.skeleton_of_isScalar hvalue, Json.skeleton_of_isScalar hscalar]

theorem skeleton_coerceParts {coerce : Json → Json → Json}
    (h : ∀ inner part, (coerce inner part).skeleton = part.skeleton) (value : Json) :
    (coerceParts coerce schema value).skeleton = value.skeleton := by
  cases value with
  | null | bool | number | string => rfl
  | array items =>
    rw [coerceParts]
    split
    · exact Json.skeleton_array_map fun item _ => h _ item
    · rfl
  | object members =>
    rw [coerceParts]
    split
    · refine Json.skeleton_object_map fun member _ => ?_
      rw [coerceMember]
      split
      · exact ⟨rfl, h _ member.2⟩
      · exact ⟨rfl, rfl⟩
    · rfl

theorem skeleton_foldl {coerce : Json → Json → Json}
    (h : ∀ inner part, (coerce inner part).skeleton = part.skeleton) (branches : List Json) (value : Json) :
    (branches.foldl (fun value branch => coerce branch value) value).skeleton = value.skeleton := by
  induction branches generalizing value with
  | nil => rfl
  | cons branch rest ih => rw [List.foldl_cons, ih, h]

/-- By the number of steps, which `definition?` and `chosenBranch?` each lower. -/
theorem skeleton_coerceHere (h : ∀ steps inner part, (below steps inner part).skeleton = part.skeleton)
    (steps : Nat) (schema value : Json) :
    (coerceHere below definitions steps schema value).skeleton = value.skeleton := by
  induction steps generalizing schema value with
  | zero => rfl
  | succ steps ih =>
    cases schema with
    | null | bool | number | string | array => rfl
    | object schema =>
      by_cases hv : value = .null
      · rw [hv, coerceHere_null]
      · cases hdirect : definition? definitions schema with
        | some target => rw [coerceHere_reference hdirect, ih]
        | none =>
          rw [coerceHere_of_direct hv hdirect, skeleton_coerceParts (h _), skeleton_coerceScalar,
            skeleton_foldl ih, coerceBranch]
          split
          · exact ih _ value
          · rfl

theorem skeleton_coerceDeep (depth steps : Nat) (schema value : Json) :
    (coerceDeep definitions depth steps schema value).skeleton = value.skeleton := by
  induction depth generalizing steps schema value with
  | zero => rfl
  | succ depth ih => exact skeleton_coerceHere ih steps schema value

theorem skeleton_coerce (definitions : Members Json) (schema value : Json) :
    (coerce definitions schema value).skeleton = value.skeleton :=
  skeleton_coerceDeep _ _ schema value

end JsonSchema.Coercion

/-! ### Answers -/

namespace Validator

variable {value answer : Json}

theorem checkUnit_eq_ok {id : String} {rules : CheckRules}
    (h : checkUnit id rules value = .ok answer) : ∃ shape, Members.get? rules.table id = some shape ∧
      (shape.check rules value).failures = [] ∧ (shape.check rules value).value = answer := by
  unfold checkUnit at h
  split at h
  · cases h
  · rename_i shape hshape
    split at h
    · rename_i converted hresult
      cases h
      exact ⟨shape, hshape, Shape.result_eq_ok_iff.1 hresult⟩
    · cases h

theorem checkSchema_eq (coercion : Option (Json × Members Json)) (errors : Json → List ValueFailure)
    (value : Json) : ∃ seen,
      (seen = value ∨ ∃ definitions schema, seen = JsonSchema.Coercion.coerce definitions schema value) ∧
        checkSchema coercion errors value =
          if (errors seen).isEmpty then .ok seen else .error (errors seen) := by
  cases coercion with
  | none => exact ⟨value, .inl rfl, rfl⟩
  | some sources => exact ⟨_, .inr ⟨sources.2, sources.1, rfl⟩, rfl⟩

theorem skeleton_validate {validator : Validator}
    (h : validator.validate value = .ok answer) : answer.skeleton = value.skeleton := by
  cases validator with
  | native id rules =>
    obtain ⟨shape, -, -, rfl⟩ := checkUnit_eq_ok h
    exact Shape.skeleton_check rules shape value
  | jsonSchema coercion errors =>
    obtain ⟨seen, hseen, heq⟩ := checkSchema_eq coercion errors value
    rw [validate, heq] at h
    split at h
    · cases h
      rcases hseen with rfl | ⟨definitions, schema, rfl⟩
      · rfl
      · exact JsonSchema.Coercion.skeleton_coerce definitions schema value
    · cases h

/-- The answers of `Coercion.coerce`, of an accepting `check` and of an accepting `validate` have the
skeleton of the value: nothing is lost, added or moved. -/
theorem answer_keeps_skeleton (value : Json) :
    (∀ definitions schema,
      (JsonSchema.Coercion.coerce definitions schema value).skeleton = value.skeleton) ∧
    (∀ rules shape answer, (Shape.check rules shape value).result = .ok answer →
      answer.skeleton = value.skeleton) ∧
    ∀ (validator : Validator) (answer : Json), validator.validate value = .ok answer →
      answer.skeleton = value.skeleton := by
  refine ⟨fun definitions schema => JsonSchema.Coercion.skeleton_coerce definitions schema value,
    fun rules shape answer h => ?_, fun validator answer h => skeleton_validate h⟩
  rw [← (Shape.result_eq_ok_iff.1 h).2, Shape.skeleton_check]

/-- A list of texts of which some may be missing. -/
def someTexts : Shape where
  kind := some .array
  items := some { kind := some .string, nullable := true }

theorem answer_keeps_skeleton_texts :
    (Shape.check ⟨[], true⟩ someTexts (.array [.ofInt 1, .null, .bool true])).result =
        .ok (.array [.string "1", .null, .string "true"]) ∧
      Json.skeleton (.array [.string "1", .null, .string "true"]) =
        Json.skeleton (.array [.ofInt 1, .null, .bool true]) :=
  ⟨rfl, (answer_keeps_skeleton _).2.1 ⟨[], true⟩ someTexts _ rfl⟩

end Validator

end ArgGuard
