import ArgGuard.Proofs.Backend.Skeleton

/-!
# How a coercion comes to its end

`Coerces` tells the coercion of a document by rules: a reference and a branch take the same document on, one
step deeper, and the parts of what comes out of the branches are coerced at the depth of the document. The
definitions may refer to one another in a circle, through references and branches alike. `coerces_iff` says
that a coercion always has an answer, and which: a derivation exists by induction on the height of the
document and, for the same height, on the steps that are left. The branches hand the document on coerced
already, so this needs that coercion keeps the height.
-/

namespace ArgGuard

namespace JsonSchema.Coercion

variable {definitions schema : Members Json} {value part inner answer : Json} {depth levels : Nat}

/-- What stands inside a document under a schema of its own: an item, or a member with a property. -/
inductive PartOf (schema : Members Json) : Json → Json → Json → Prop
  | item {items : List Json} {item itemSchema : Json} (hschema : Members.get? schema "items" = some itemSchema)
      (hitem : item ∈ items) : PartOf schema (.array items) itemSchema item
  | member {members properties : Members Json} {name : String} {value property : Json}
      (hproperties : declared? schema = some properties)
      (hproperty : Members.get? properties name = some property) (hmember : (name, value) ∈ members) :
      PartOf schema (.object members) property value

/-- A document after the branches of its schema, with its scalar converted to a type of the schema. -/
def converted (schema : Members Json) (passes : Nat → Json) : Json :=
  coerceScalar (declaredTypes schema) (passes (allBranches schema).length)

/-- The coercion of a document that is under a schema, at some depth, has an answer. The passes are the
document after the branch of `anyOf` that is taken, and after each branch of `allOf`. -/
inductive Coerces (definitions : Members Json) : Nat → Json → Json → Json → Prop
  | noObject {depth : Nat} {schema value : Json} (hschema : schema.object? = none) :
      Coerces definitions depth schema value value
  | tooDeep {depth : Nat} {schema value : Json} (hdepth : stepLimit ≤ depth) :
      Coerces definitions depth schema value value
  | null (depth : Nat) (schema : Json) : Coerces definitions depth schema .null .null
  | reference {depth : Nat} {schema : Members Json} {target value answer : Json} (hdepth : depth < stepLimit)
      (hv : value ≠ .null) (htarget : definition? definitions schema = some target)
      (h : Coerces definitions (depth + 1) target value answer) :
      Coerces definitions depth (.object schema) value answer
  | direct {depth : Nat} {schema : Members Json} {value : Json} {passes : Nat → Json}
      {parts : Json → Json → Json} (hdepth : depth < stepLimit) (hv : value ≠ .null)
      (hdirect : definition? definitions schema = none)
      (hchosen : ∀ branch, chosenBranch? schema = some branch →
        Coerces definitions (depth + 1) branch value (passes 0))
      (hnone : chosenBranch? schema = none → passes 0 = value)
      (hbranches : ∀ index branch, (allBranches schema)[index]? = some branch →
        Coerces definitions (depth + 1) branch (passes index) (passes (index + 1)))
      (hparts : ∀ inner part, PartOf schema (converted schema passes) inner part →
        Coerces definitions depth inner part (parts inner part)) :
      Coerces definitions depth (.object schema) value (coerceParts parts schema (converted schema passes))

theorem PartOf.height_lt (h : PartOf schema value inner part) : part.height < value.height := by
  cases h with
  | item _ hitem =>
    rw [Json.height]
    exact Nat.lt_succ_of_le (Json.height_le_itemsHeight hitem)
  | member _ _ hmember =>
    rw [Json.height]
    exact Nat.lt_succ_of_le (Json.height_le_membersHeight hmember)

theorem coerceParts_congr_partOf {parts others : Json → Json → Json}
    (h : ∀ inner part, PartOf schema value inner part → parts inner part = others inner part) :
    coerceParts parts schema value = coerceParts others schema value := by
  refine coerceParts_congr ?_ ?_
  · rintro items rfl itemSchema hschema item hitem
    exact h _ _ (.item hschema hitem)
  · rintro members rfl properties hproperties member hmember property hproperty
    exact h _ _ (.member hproperties hproperty hmember)

/-! ### The answer of a coercion -/

theorem coerceDeep_of_noObject {schema : Json} (h : schema.object? = none) (levels steps : Nat) (value : Json) :
    coerceDeep definitions levels steps schema value = value := by
  cases levels with
  | zero => rfl
  | succ levels => cases steps <;> cases schema <;> first | rfl | cases h

theorem coerceDeep_of_no_steps (levels : Nat) (schema value : Json) :
    coerceDeep definitions levels 0 schema value = value := by
  cases levels <;> rfl

theorem foldl_eq_passes {coerce : Json → Json → Json} (passes : Nat → Json) (branches : List Json)
    (h : ∀ index branch, branches[index]? = some branch → passes (index + 1) = coerce branch (passes index)) :
    branches.foldl (fun value branch => coerce branch value) (passes 0) = passes branches.length := by
  induction branches generalizing passes with
  | nil => rfl
  | cons branch rest ih =>
    rw [List.foldl_cons, ← h 0 branch rfl, List.length_cons]
    exact ih (fun index => passes (index + 1)) fun index branch hbranch => h (index + 1) branch hbranch

theorem height_passes {passes : Nat → Json} {branches : List Json} (hstart : (passes 0).height = value.height)
    (h : ∀ index branch, branches[index]? = some branch →
      (passes (index + 1)).height = (passes index).height) {index : Nat} (hindex : index ≤ branches.length) :
    (passes index).height = value.height := by
  induction index with
  | zero => exact hstart
  | succ index ih =>
    have hbranch := List.getElem?_eq_getElem (Nat.lt_of_succ_le hindex)
    rw [h index _ hbranch, ih (Nat.le_of_succ_le hindex)]

theorem height_coerceDeep (levels steps : Nat) (schema value : Json) :
    (coerceDeep definitions levels steps schema value).height = value.height :=
  Json.height_eq_of_skeleton (skeleton_coerceDeep levels steps schema value)

theorem height_coerceScalar (types : List String) (value : Json) :
    (coerceScalar types value).height = value.height :=
  Json.height_eq_of_skeleton (skeleton_coerceScalar types value)

theorem Coerces.eq {schema : Json} (h : Coerces definitions depth schema value answer) (levels : Nat)
    (hlevels : value.height ≤ levels) :
    answer = coerceDeep definitions levels (stepLimit - depth) schema value := by
  induction h generalizing levels with
  | noObject hschema => exact (coerceDeep_of_noObject hschema _ _ _).symm
  | tooDeep hdepth => rw [Nat.sub_eq_zero_of_le hdepth, coerceDeep_of_no_steps]
  | null depth schema => exact (coerceDeep_null levels schema).symm
  | @reference depth schema target value answer hdepth hv htarget _ ih =>
    obtain ⟨lower, rfl⟩ := Nat.exists_eq_add_of_le' (Nat.le_trans value.height_pos hlevels)
    obtain ⟨steps, hsteps⟩ : ∃ steps, stepLimit - depth = steps + 1 := ⟨stepLimit - (depth + 1), by omega⟩
    rw [ih _ hlevels, hsteps, coerceDeep, coerceHere_reference htarget,
      show stepLimit - (depth + 1) = steps by omega]
  | @direct depth schema value passes parts hdepth hv hdirect _ hnone _ _ ihChosen ihBranches ihParts =>
    obtain ⟨lower, rfl⟩ := Nat.exists_eq_add_of_le' (Nat.le_trans value.height_pos hlevels)
    obtain ⟨steps, hsteps⟩ : ∃ steps, stepLimit - depth = steps + 1 := ⟨stepLimit - (depth + 1), by omega⟩
    have hnext : stepLimit - (depth + 1) = steps := by omega
    rw [hnext] at ihChosen ihBranches
    rw [hsteps] at ihParts ⊢
    have hstart : passes 0 = coerceBranch (coerceDeep definitions lower) definitions steps schema value := by
      unfold coerceBranch
      cases hchosen : chosenBranch? schema with
      | none => exact hnone hchosen
      | some branch => exact ihChosen branch hchosen (lower + 1) hlevels
    have hheight : ∀ index, index ≤ (allBranches schema).length → (passes index).height = value.height := by
      refine fun index hindex => height_passes ?_ (fun index branch hbranch => ?_) hindex
      · cases hchosen : chosenBranch? schema with
        | none => rw [hnone hchosen]
        | some branch => rw [ihChosen branch hchosen _ (Nat.le_refl _), height_coerceDeep]
      · rw [ihBranches index branch hbranch _ (Nat.le_refl _), height_coerceDeep]
    have hfold : (allBranches schema).foldl
        (fun value branch => coerceHere (coerceDeep definitions lower) definitions steps branch value)
          (passes 0) = passes (allBranches schema).length := by
      refine foldl_eq_passes passes _ fun index branch hbranch => ?_
      obtain ⟨hindex, -⟩ := List.getElem?_eq_some_iff.1 hbranch
      exact ihBranches index branch hbranch (lower + 1) (by rw [hheight index (Nat.le_of_lt hindex)]; exact hlevels)
    rw [coerceDeep, coerceHere_of_direct hv hdirect, ← hstart, hfold]
    refine coerceParts_congr_partOf fun inner part hpart => ihParts inner part hpart lower ?_
    have hlower := hpart.height_lt
    rw [converted, height_coerceScalar, hheight _ (Nat.le_refl _)] at hlower
    omega

theorem Coerces.eq_coerceFrom {schema : Json} (h : Coerces definitions depth schema value answer) :
    answer = coerceFrom definitions (stepLimit - depth) schema value :=
  h.eq value.height (Nat.le_refl _)

/-- A document after the branch of `anyOf` that is taken and so many branches of `allOf`. -/
def passesFrom (definitions : Members Json) (steps : Nat) (schema : Members Json) (value : Json)
    (index : Nat) : Json :=
  ((allBranches schema).take index).foldl
    (fun value branch => coerceFrom definitions steps branch value)
    (match chosenBranch? schema with
      | some branch => coerceFrom definitions steps branch value
      | none => value)

theorem passesFrom_succ {steps index : Nat} {branch : Json} (h : (allBranches schema)[index]? = some branch) :
    passesFrom definitions steps schema value (index + 1) =
      coerceFrom definitions steps branch (passesFrom definitions steps schema value index) := by
  rw [passesFrom, List.take_add_one, h, List.foldl_append]
  rfl

theorem height_passesFrom (steps index : Nat) :
    (passesFrom definitions steps schema value index).height = value.height := by
  have hkeeps : ∀ inner part : Json, (coerceFrom definitions steps inner part).skeleton = part.skeleton :=
    fun inner part => skeleton_coerceDeep _ _ inner part
  refine Json.height_eq_of_skeleton ?_
  rw [passesFrom, skeleton_foldl hkeeps]
  split
  · exact hkeeps _ value
  · rfl

/-- The step of `exists_coerces` at a schema that is no reference: its branches keep the height and go one
step deeper, its parts are lower. -/
theorem exists_coerces_of_direct (hdepth : depth < stepLimit) (hv : value ≠ .null)
    (hdirect : definition? definitions schema = none)
    (hsame : ∀ inner other, other.height = value.height →
      ∃ answer, Coerces definitions (depth + 1) inner other answer)
    (hlower : ∀ inner part, part.height < value.height → ∃ answer, Coerces definitions depth inner part answer) :
    ∃ answer, Coerces definitions depth (.object schema) value answer := by
  have hpass : ∀ inner other, other.height = value.height → Coerces definitions (depth + 1) inner other
      (coerceFrom definitions (stepLimit - (depth + 1)) inner other) := by
    intro inner other hheight
    obtain ⟨answer, hanswer⟩ := hsame inner other hheight
    exact hanswer.eq_coerceFrom ▸ hanswer
  refine ⟨_, @Coerces.direct _ depth schema value (passesFrom definitions (stepLimit - (depth + 1)) schema value)
    (coerceFrom definitions (stepLimit - depth)) hdepth hv hdirect ?_ ?_ ?_ ?_⟩
  · intro branch hchosen
    rw [passesFrom, hchosen]
    exact hpass branch value rfl
  · intro hchosen
    rw [passesFrom, hchosen]
    rfl
  · intro index branch hbranch
    rw [passesFrom_succ hbranch]
    exact hpass branch _ (height_passesFrom _ index)
  · intro inner part hpart
    have hheight := hpart.height_lt
    rw [converted, height_coerceScalar, height_passesFrom] at hheight
    obtain ⟨answer, hanswer⟩ := hlower inner part hheight
    exact hanswer.eq_coerceFrom ▸ hanswer

/-- By the height of the document, and for one height by the steps that are left below `stepLimit`. -/
theorem exists_coerces (definitions : Members Json) (depth : Nat) (schema value : Json) :
    ∃ answer, Coerces definitions depth schema value answer := by
  induction hheight : value.height using Nat.strongRecOn generalizing value schema depth with
  | ind height ih =>
    induction hleft : stepLimit - depth generalizing schema value depth with
    | zero => exact ⟨value, .tooDeep (by omega)⟩
    | succ left ihLeft =>
      have hdepth : depth < stepLimit := by omega
      by_cases hv : value = .null
      · subst hv
        exact ⟨.null, .null depth schema⟩
      cases schema with
      | null | bool | number | string | array => exact ⟨value, .noObject rfl⟩
      | object schema =>
        cases htarget : definition? definitions schema with
        | some target =>
          obtain ⟨answer, hanswer⟩ := ihLeft (depth + 1) target value hheight (by omega)
          exact ⟨answer, .reference hdepth hv htarget hanswer⟩
        | none =>
          refine exists_coerces_of_direct hdepth hv htarget (fun inner other hother => ?_) fun inner part hpart => ?_
          · exact ihLeft (depth + 1) inner other (hother.trans hheight) (by omega)
          · exact ih part.height (hheight ▸ hpart) depth inner part rfl

theorem coerces_iff {schema : Json} : Coerces definitions depth schema value answer ↔
    answer = coerceFrom definitions (stepLimit - depth) schema value := by
  constructor
  · exact Coerces.eq_coerceFrom
  · rintro rfl
    obtain ⟨answer, hanswer⟩ := exists_coerces definitions depth schema value
    exact hanswer.eq_coerceFrom ▸ hanswer

end JsonSchema.Coercion

end ArgGuard
