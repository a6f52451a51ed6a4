import ArgGuard.JsonSchema.Coercion
import ArgGuard.Proofs.Json.Structure
import ArgGuard.Proofs.Shape.Parts

/-!
# What coercion does at one place

A schema governs the places of a document that are reached from it through references, branches of
`allOf`, items and properties; `Governs` says which schema stands where, and how many steps of references
and branches lead there. Coercion counts these steps along the whole way, not anew at every place. So
what it makes of the part at a place is what it makes of the part alone with the steps that are left
(`at?_coerceFrom`). As long as some are left everywhere below, their number has no influence
(`coerceFrom_eq`); where none is left, the part stays as it is.
-/

namespace ArgGuard.JsonSchema.Coercion

variable {definitions schema properties : Members Json} {value part branch : Json}
  {steps used : Nat} {below : Coercer}

/-- Coerces a document on its own, with some steps left. -/
def coerceFrom (definitions : Members Json) (steps : Nat) (schema value : Json) : Json :=
  coerceDeep definitions value.height steps schema value

theorem coerce_eq (definitions : Members Json) (schema value : Json) :
    coerce definitions schema value = coerceFrom definitions stepLimit schema value := rfl

def declared? (schema : Members Json) : Option (Members Json) :=
  (Members.get? schema "properties").bind Json.object?

/-- The schema at the end of a way stands over the part of the document at a place, and some steps of
references and branches lead there. -/
inductive Governs (definitions : Members Json) :
    Json → Json → List Json.Step → Nat → Json → Json → Prop
  | here (schema value : Json) : Governs definitions schema value [] 0 schema value
  | reference {schema : Members Json} {target value inner part : Json} {place : List Json.Step}
      {used : Nat} (htarget : definition? definitions schema = some target)
      (h : Governs definitions target value place used inner part) :
      Governs definitions (.object schema) value place (used + 1) inner part
  | branch {schema : Members Json} {branch value inner part : Json} {place : List Json.Step}
      {used : Nat} (hdirect : definition? definitions schema = none)
      (hbranch : branch ∈ allBranches schema)
      (h : Governs definitions branch value place used inner part) :
      Governs definitions (.object schema) value place (used + 1) inner part
  | item {schema : Members Json} {itemSchema item inner part : Json} {items : List Json} {index : Nat}
      {place : List Json.Step} {used : Nat} (hdirect : definition? definitions schema = none)
      (hschema : Members.get? schema "items" = some itemSchema) (hitem : items[index]? = some item)
      (h : Governs definitions itemSchema item place used inner part) :
      Governs definitions (.object schema) (.array items) (.item index :: place) used inner part
  | member {schema properties members : Members Json} {name : String}
      {property value inner part : Json} {place : List Json.Step} {used : Nat}
      (hdirect : definition? definitions schema = none) (hproperties : declared? schema = some properties)
      (hproperty : Members.get? properties name = some property)
      (hmember : Members.get? members name = some value)
      (h : Governs definitions property value place used inner part) :
      Governs definitions (.object schema) (.object members) (.member name :: place) used inner part

/-- Schemas of which a branch stands beside nothing but the type of objects, and none is of `anyOf`. -/
inductive Tame : Json → Prop
  | branch {schema : Members Json} {branch : Json} (hanyOf : chosenBranch? schema = none)
      (hbranches : allBranches schema = [branch]) (htypes : declaredTypes schema = ["object"])
      (hitems : Members.get? schema "items" = none)
      (hproperties : Members.get? schema "properties" = none) (hbranch : Tame branch) :
      Tame (.object schema)
  | plain {schema : Members Json} (hanyOf : chosenBranch? schema = none)
      (hbranches : allBranches schema = [])
      (hitems : ∀ itemSchema, Members.get? schema "items" = some itemSchema → Tame itemSchema)
      (hproperties : ∀ properties, declared? schema = some properties →
        ∀ name property, Members.get? properties name = some property → Tame property) :
      Tame (.object schema)

/-- Definitions that are tame, each of them. -/
def TameDefinitions (definitions : Members Json) : Prop :=
  ∀ name schema, Members.get? definitions name = some schema → Tame schema

theorem TameDefinitions.target {target : Json} (h : TameDefinitions definitions)
    (htarget : definition? definitions schema = some target) : Tame target := by
  unfold definition? at htarget
  simp only [Option.bind_eq_bind, Option.bind_eq_some_iff] at htarget
  obtain ⟨_, -, _, -, name, -, hname⟩ := htarget
  exact h name target hname

/-! ### Scalars -/

theorem convert?_isScalar {type : String} {converted : Json} (h : convert? value type = some converted) :
    value.isScalar = true ∧ converted.isScalar = true := by
  unfold convert? at h
  split at h
  · cases value <;> cases h <;> exact ⟨rfl, rfl⟩
  · cases value with
    | string text =>
      obtain ⟨n, -, rfl⟩ := Option.map_eq_some_iff.1 h
      exact ⟨rfl, rfl⟩
    | bool b => cases h; exact ⟨rfl, rfl⟩
    | null | number | array | object => cases h
  · cases value with
    | string text =>
      obtain ⟨n, -, rfl⟩ := Option.map_eq_some_iff.1 h
      exact ⟨rfl, rfl⟩
    | bool b => cases h; exact ⟨rfl, rfl⟩
    | null | number | array | object => cases h
  · cases value with
    | string | number =>
      simp only [Json.toBoolean?] at h
      split at h
      · cases h; exact ⟨rfl, rfl⟩
      · split at h <;> cases h
        exact ⟨rfl, rfl⟩
    | null | bool | array | object => cases h
  · cases h

/-- `coerceScalar` leaves a value alone, or makes a scalar of a scalar. -/
theorem coerceScalar_cases (types : List String) (value : Json) :
    coerceScalar types value = value ∨
      value.isScalar = true ∧ (coerceScalar types value).isScalar = true := by
  unfold coerceScalar
  split
  · exact .inl rfl
  · cases h : types.findSome? (convert? value) with
    | none => exact .inl rfl
    | some converted =>
      obtain ⟨type, -, htype⟩ := List.exists_of_findSome?_eq_some h
      exact .inr (convert?_isScalar htype)

theorem coerceScalar_of_not_isScalar (types : List String) (h : value.isScalar = false) :
    coerceScalar types value = value := by
  rcases coerceScalar_cases types value with hsame | ⟨hscalar, -⟩
  · exact hsame
  · rw [h] at hscalar; cases hscalar

theorem isScalar_coerceScalar (types : List String) (h : value.isScalar = true) :
    (coerceScalar types value).isScalar = true := by
  rcases coerceScalar_cases types value with hsame | ⟨-, hscalar⟩
  · rw [hsame]; exact h
  · exact hscalar

theorem coerceScalar_object (value : Json) : coerceScalar ["object"] value = value := by
  unfold coerceScalar
  split <;> rfl

theorem coerceParts_of_isScalar {coerce : Json → Json → Json} (h : value.isScalar = true) :
    coerceParts coerce schema value = value := by
  cases value <;> first | rfl | cases h

theorem get?_coerceMember {coerce : Json → Json → Json} (members : Members Json) (name : String) :
    Members.get? (members.map (coerceMember coerce properties)) name =
      (Members.get? members name).map fun value =>
        ((Members.get? properties name).map fun property => coerce property value).getD value := by
  rw [← Members.get?_mapEntries fun name value =>
    ((Members.get? properties name).map fun property => coerce property value).getD value]
  congr 1
  refine List.map_congr_left fun member _ => ?_
  unfold coerceMember
  cases Members.get? properties member.1 <;> rfl

/-! ### One place -/

theorem coerceHere_null (schema : Json) : coerceHere below definitions steps schema .null = .null := by
  cases steps with
  | zero => rfl
  | succ steps => cases schema <;> simp [coerceHere, Json.isNull]

theorem coerceDeep_null (depth : Nat) (schema : Json) :
    coerceDeep definitions depth steps schema .null = .null := by
  cases depth with
  | zero => rfl
  | succ => exact coerceHere_null schema

theorem coerceHere_reference {target : Json} (h : definition? definitions schema = some target) :
    coerceHere below definitions (steps + 1) (.object schema) value =
      coerceHere below definitions steps target value := by
  cases value with
  | null => rw [coerceHere_null, coerceHere_null]
  | bool | number | string | array | object => simp [coerceHere, Json.isNull, h]

/-- What the branch of `anyOf` that coercion takes makes of a value. -/
def coerceBranch (below : Coercer) (definitions : Members Json) (steps : Nat) (schema : Members Json)
    (value : Json) : Json :=
  match chosenBranch? schema with
  | some branch => coerceHere below definitions steps branch value
  | none => value

/-- Without a reference `coerceHere` goes through `coerceBranch` and `allBranches`, then `coerceScalar`,
then `coerceParts`. -/
theorem coerceHere_of_direct (hv : value ≠ .null) (hdirect : definition? definitions schema = none) :
    coerceHere below definitions (steps + 1) (.object schema) value =
      coerceParts (below (steps + 1)) schema (coerceScalar (declaredTypes schema)
        ((allBranches schema).foldl
          (fun value branch => coerceHere below definitions steps branch value)
          (coerceBranch below definitions steps schema value))) := by
  cases value with
  | null => exact absurd rfl hv
  | bool | number | string | array | object =>
    simp only [coerceHere, Json.isNull, hdirect, coerceBranch]
    rfl

theorem coerceHere_direct (hv : value ≠ .null) (hdirect : definition? definitions schema = none)
    (hanyOf : chosenBranch? schema = none) :
    coerceHere below definitions (steps + 1) (.object schema) value =
      coerceParts (below (steps + 1)) schema (coerceScalar (declaredTypes schema)
        ((allBranches schema).foldl
          (fun value branch => coerceHere below definitions steps branch value) value)) := by
  rw [coerceHere_of_direct hv hdirect, coerceBranch, hanyOf]

/-- A schema that leaves a value to another one, at the price of a step. -/
structure Passes (definitions : Members Json) (schema next : Json) : Prop where
  coerceHere : ∀ below steps value, coerceHere below definitions (steps + 1) schema value =
    Coercion.coerceHere below definitions steps next value
  governs : ∀ {value place used inner part}, Governs definitions next value place used inner part →
    Governs definitions schema value place (used + 1) inner part

/-- A tame schema without a reference or a branch. -/
structure Direct (definitions schema : Members Json) : Prop where
  direct : definition? definitions schema = none
  coerceHere : ∀ below steps value, value ≠ .null →
    coerceHere below definitions (steps + 1) (.object schema) value =
      coerceParts (below (steps + 1)) schema (coerceScalar (declaredTypes schema) value)
  items : ∀ itemSchema, Members.get? schema "items" = some itemSchema → Tame itemSchema
  properties : ∀ properties, declared? schema = some properties →
    ∀ name property, Members.get? properties name = some property → Tame property

theorem passes_reference {target : Json} (h : definition? definitions schema = some target) :
    Passes definitions (.object schema) target where
  coerceHere _ _ _ := coerceHere_reference h
  governs hgoverns := .reference h hgoverns

theorem passes_branch (hdirect : definition? definitions schema = none)
    (hanyOf : chosenBranch? schema = none) (hbranches : allBranches schema = [branch])
    (htypes : declaredTypes schema = ["object"]) (hitems : Members.get? schema "items" = none)
    (hproperties : Members.get? schema "properties" = none) :
    Passes definitions (.object schema) branch where
  coerceHere below steps value := by
    have hparts : ∀ coerce value, coerceParts coerce schema value = value := by
      intro coerce value
      cases value <;> simp [coerceParts, hitems, hproperties]
    by_cases hv : value = .null
    · rw [hv, coerceHere_null, coerceHere_null]
    · rw [coerceHere_direct hv hdirect hanyOf, hbranches, htypes, coerceScalar_object, hparts]
      rfl
  governs hgoverns := .branch hdirect (hbranches ▸ List.mem_singleton.2 rfl) hgoverns

theorem direct_plain (hdirect : definition? definitions schema = none) (hanyOf : chosenBranch? schema = none)
    (hbranches : allBranches schema = [])
    (hitems : ∀ itemSchema, Members.get? schema "items" = some itemSchema → Tame itemSchema)
    (hproperties : ∀ properties, declared? schema = some properties →
      ∀ name property, Members.get? properties name = some property → Tame property) :
    Direct definitions schema where
  direct := hdirect
  coerceHere below steps value hv := by
    rw [coerceHere_direct hv hdirect hanyOf, hbranches]
    rfl
  items := hitems
  properties := hproperties

/-- A `Tame` schema `Passes` the value on to a tame schema, or is `Direct`. -/
theorem Tame.passes_or_direct (hdefinitions : TameDefinitions definitions) {schema : Json}
    (h : Tame schema) :
    (∃ next, Tame next ∧ Passes definitions schema next) ∨
      ∃ members, schema = .object members ∧ Direct definitions members := by
  cases h with
  | @branch schema branch hanyOf hbranches htypes hitems hproperties hbranch =>
    cases hdirect : definition? definitions schema with
    | some target => exact .inl ⟨target, hdefinitions.target hdirect, passes_reference hdirect⟩
    | none =>
      exact .inl ⟨branch, hbranch, passes_branch hdirect hanyOf hbranches htypes hitems hproperties⟩
  | @plain schema hanyOf hbranches hitems hproperties =>
    cases hdirect : definition? definitions schema with
    | some target => exact .inl ⟨target, hdefinitions.target hdirect, passes_reference hdirect⟩
    | none =>
      exact .inr ⟨schema, rfl, direct_plain hdirect hanyOf hbranches hitems hproperties⟩

/-! ### The depth does not matter -/

theorem coerceParts_congr {coerce other : Json → Json → Json}
    (hitems : ∀ items, value = .array items → ∀ itemSchema, Members.get? schema "items" = some itemSchema →
      ∀ item ∈ items, coerce itemSchema item = other itemSchema item)
    (hmembers : ∀ members, value = .object members → ∀ properties, declared? schema = some properties →
      ∀ member ∈ members, ∀ property, Members.get? properties member.1 = some property →
        coerce property member.2 = other property member.2) :
    coerceParts coerce schema value = coerceParts other schema value := by
  cases value with
  | null | bool | number | string => rfl
  | array items =>
    simp only [coerceParts]
    cases hschema : Members.get? schema "items" with
    | none => rfl
    | some itemSchema =>
      exact congrArg Json.array (List.map_congr_left fun item hitem =>
        hitems items rfl itemSchema hschema item hitem)
  | object members =>
    simp only [coerceParts]
    cases hproperties : (Members.get? schema "properties").bind Json.object? with
    | none => rfl
    | some properties =>
      refine congrArg Json.object (List.map_congr_left fun member hmember => ?_)
      simp only [coerceMember]
      cases hproperty : Members.get? properties member.1 with
      | none => rfl
      | some property =>
        exact congrArg (Prod.mk member.1)
          (hmembers members rfl properties hproperties member hmember property hproperty)

theorem Direct.coerceParts_congr {coerce other : Json → Json → Json} (h : Direct definitions schema)
    (hparts : ∀ inner part, Tame inner → part.height < value.height →
      coerce inner part = other inner part) :
    coerceParts coerce schema (coerceScalar (declaredTypes schema) value) =
      coerceParts other schema (coerceScalar (declaredTypes schema) value) := by
  by_cases hs : value.isScalar = true
  · rw [coerceParts_of_isScalar (isScalar_coerceScalar _ hs),
      coerceParts_of_isScalar (isScalar_coerceScalar _ hs)]
  · rw [coerceScalar_of_not_isScalar _ (Bool.eq_false_iff.2 hs)]
    refine Coercion.coerceParts_congr ?_ ?_
    · rintro items rfl itemSchema hschema item hitem
      have hle := Json.height_le_itemsHeight hitem
      exact hparts _ _ (h.items _ hschema) (by rw [Json.height]; omega)
    · rintro members rfl properties hproperties member hmember property hproperty
      have hle := Json.height_le_membersHeight hmember
      exact hparts _ _ (h.properties _ hproperties _ _ hproperty) (by rw [Json.height]; omega)

/-- Depths from `value.height` on make no difference. -/
theorem coerceDeep_congr (hdefinitions : TameDefinitions definitions) {schema : Json} (h : Tame schema)
    {depth other : Nat} (hd : value.height ≤ depth) (ho : value.height ≤ other) (steps : Nat) :
    coerceDeep definitions depth steps schema value = coerceDeep definitions other steps schema value := by
  induction depth generalizing value schema other steps with
  | zero => exact absurd hd (Nat.not_le.2 value.height_pos)
  | succ depth ihDepth =>
    obtain ⟨other, rfl⟩ := Nat.exists_eq_add_of_le' (Nat.le_trans value.height_pos ho)
    -- references and branches stay at the value and take a step each
    induction steps generalizing schema with
    | zero => rfl
    | succ steps ihSteps =>
      by_cases hv : value = .null
      · subst hv
        exact (coerceHere_null _).trans (coerceHere_null _).symm
      · rcases h.passes_or_direct hdefinitions with ⟨next, hnext, hpasses⟩ | ⟨members, rfl, hdirect⟩
        · exact (hpasses.coerceHere _ _ _).trans
            ((ihSteps hnext).trans (hpasses.coerceHere _ _ _).symm)
        · refine (hdirect.coerceHere _ _ _ hv).trans
            (Eq.trans ?_ (hdirect.coerceHere _ _ _ hv).symm)
          refine hdirect.coerceParts_congr fun inner part hinner hlower => ?_
          exact ihDepth hinner (by omega) (by omega) _

/-! ### Values on their own -/

theorem coerceFrom_zero (schema value : Json) : coerceFrom definitions 0 schema value = value := by
  unfold coerceFrom
  cases value.height <;> rfl

theorem coerceFrom_null (steps : Nat) (schema : Json) :
    coerceFrom definitions steps schema .null = .null :=
  coerceHere_null schema

theorem Passes.coerceFrom {schema next : Json} (h : Passes definitions schema next) (steps : Nat)
    (value : Json) : Coercion.coerceFrom definitions (steps + 1) schema value =
      Coercion.coerceFrom definitions steps next value := by
  unfold Coercion.coerceFrom
  obtain ⟨depth, hdepth⟩ := Nat.exists_eq_add_of_le' value.height_pos
  rw [hdepth]
  exact h.coerceHere _ _ _

/-- Under a `Direct` schema the parts are coerced with the steps that there are at the value. -/
theorem Direct.coerceFrom (hdefinitions : TameDefinitions definitions) (h : Direct definitions schema)
    (steps : Nat) (hv : value ≠ .null) :
    Coercion.coerceFrom definitions (steps + 1) (.object schema) value =
      coerceParts (Coercion.coerceFrom definitions (steps + 1)) schema
        (coerceScalar (declaredTypes schema) value) := by
  unfold Coercion.coerceFrom
  obtain ⟨depth, hdepth⟩ := Nat.exists_eq_add_of_le' value.height_pos
  rw [hdepth]
  refine (h.coerceHere _ _ _ hv).trans (h.coerceParts_congr fun inner part hinner hlower => ?_)
  exact coerceDeep_congr hdefinitions hinner (by omega) (Nat.le_refl _) _

/-! ### Places -/

theorem Governs.at? {schema inner : Json} {place : List Json.Step}
    (h : Governs definitions schema value place used inner part) : value.at? place = some part := by
  induction h with
  | here => rfl
  | reference _ _ ih | branch _ _ _ ih => exact ih
  | item _ _ hitem _ ih => rw [Json.at?_item, hitem]; exact ih
  | member _ _ _ hmember _ ih => rw [Json.at?_member, hmember]; exact ih

theorem Tame.direct (h : Tame (.object schema)) (hdirect : definition? definitions schema = none)
    (hparts : (Members.get? schema "items").isSome = true ∨ (declared? schema).isSome = true) :
    Direct definitions schema := by
  cases h with
  | branch hanyOf hbranches htypes hitems hproperties hbranch =>
    simp [declared?, hitems, hproperties] at hparts
  | plain hanyOf hbranches hitems hproperties =>
    exact direct_plain hdirect hanyOf hbranches hitems hproperties

section
variable (hdefinitions : TameDefinitions definitions)
include hdefinitions

theorem Governs.tame {schema inner : Json} {place : List Json.Step}
    (hgoverns : Governs definitions schema value place used inner part) (h : Tame schema) : Tame inner := by
  induction hgoverns with
  | here => exact h
  | reference htarget _ ih => exact ih (hdefinitions.target htarget)
  | branch hdirect hbranch _ ih =>
    cases h with
    | plain _ hbranches =>
      rw [hbranches] at hbranch
      cases hbranch
    | branch _ hbranches _ _ _ htame =>
      rw [hbranches, List.mem_singleton] at hbranch
      exact ih (hbranch ▸ htame)
  | item hdirect hschema _ _ ih =>
    exact ih ((h.direct hdirect (.inl (by rw [hschema]; rfl))).items _ hschema)
  | member hdirect hproperties hproperty _ _ ih =>
    exact ih ((h.direct hdirect (.inr (by rw [hproperties]; rfl))).properties _ hproperties _ _ hproperty)

/-- By induction on `Governs`: a place is reached through the schema that is passed to, which takes a step,
or down into a part. -/
theorem at?_coerceFrom {schema inner : Json} {place : List Json.Step} (h : Tame schema)
    (hgoverns : Governs definitions schema value place used inner part) (steps : Nat) :
    (coerceFrom definitions steps schema value).at? place =
      some (coerceFrom definitions (steps - used) inner part) := by
  induction hgoverns generalizing steps with
  | here => rfl
  | reference htarget _ ih =>
    cases steps with
    | zero => simpa [coerceFrom_zero] using ih (hdefinitions.target htarget) 0
    | succ steps =>
      rw [(passes_reference htarget).coerceFrom, Nat.add_sub_add_right]
      exact ih (hdefinitions.target htarget) steps
  | branch hdirect hbranch _ ih =>
    cases h with
    | plain _ hbranches =>
      rw [hbranches] at hbranch
      cases hbranch
    | branch hanyOf hbranches htypes hitems hproperties htame =>
      rw [hbranches, List.mem_singleton] at hbranch
      subst hbranch
      cases steps with
      | zero => simpa [coerceFrom_zero] using ih htame 0
      | succ steps =>
        rw [(passes_branch hdirect hanyOf hbranches htypes hitems hproperties).coerceFrom,
          Nat.add_sub_add_right]
        exact ih htame steps
  | @item schema itemSchema item _ _ items index _ _ hdirect hschema hitem _ ih =>
    have hd := h.direct hdirect (.inl (by rw [hschema]; rfl))
    rw [← ih (hd.items _ hschema) steps]
    cases steps with
    | zero => simp only [coerceFrom_zero, Json.at?_item, hitem, Option.bind_some]
    | succ steps =>
      rw [hd.coerceFrom hdefinitions steps (by simp), coerceScalar_of_not_isScalar _ rfl, coerceParts,
        hschema]
      simp only [Json.at?_item, List.getElem?_map, hitem, Option.map_some, Option.bind_some]
  | @member schema properties members name property value _ _ _ _ hdirect hproperties hproperty hmember
      _ ih =>
    have hd := h.direct hdirect (.inr (by rw [hproperties]; rfl))
    rw [← ih (hd.properties _ hproperties _ _ hproperty) steps]
    cases steps with
    | zero => simp only [coerceFrom_zero, Json.at?_member, hmember, Option.bind_some]
    | succ steps =>
      rw [hd.coerceFrom hdefinitions steps (by simp), coerceScalar_of_not_isScalar _ rfl, coerceParts,
        show (Members.get? schema "properties").bind Json.object? = _ from hproperties]
      simp only [Json.at?_member, get?_coerceMember, hmember, hproperty, Option.map_some,
        Option.bind_some, Option.getD_some]

/-- As long as steps are left at all places that are governed, it does not matter how many. -/
theorem coerceFrom_eq {schema : Json} (h : Tame schema) (hd : value.hasDistinctNames = true) {other : Nat}
    (hsteps : ∀ place used inner part, Governs definitions schema value place used inner part →
      used < steps ∧ used < other) :
    coerceFrom definitions steps schema value = coerceFrom definitions other schema value := by
  induction hheight : value.height using Nat.strongRecOn generalizing value schema steps other with
  | ind height ih =>
  -- what is passed on is the same value with one step less
  induction steps generalizing schema other with
  | zero => exact absurd (hsteps _ _ _ _ (.here _ _)).1 (Nat.not_lt_zero _)
  | succ steps ihSteps =>
    obtain ⟨other, rfl⟩ := Nat.exists_eq_add_of_le' (hsteps _ _ _ _ (.here _ _)).2
    by_cases hv : value = .null
    · rw [hv, coerceFrom_null, coerceFrom_null]
    · rcases h.passes_or_direct hdefinitions with ⟨next, hnext, hpasses⟩ | ⟨members, rfl, hdirect⟩
      · rw [hpasses.coerceFrom, hpasses.coerceFrom]
        refine ihSteps hnext fun place used inner part hgoverns => ?_
        have hused := hsteps _ _ _ _ (hpasses.governs hgoverns)
        omega
      · rw [hdirect.coerceFrom hdefinitions _ hv, hdirect.coerceFrom hdefinitions _ hv]
        by_cases hs : value.isScalar = true
        · rw [coerceParts_of_isScalar (isScalar_coerceScalar _ hs),
            coerceParts_of_isScalar (isScalar_coerceScalar _ hs)]
        · rw [coerceScalar_of_not_isScalar _ (Bool.eq_false_iff.2 hs)]
          refine coerceParts_congr ?_ ?_
          · rintro items rfl itemSchema hschema item hitem
            have hle := Json.height_le_itemsHeight hitem
            rw [Json.height] at hheight
            obtain ⟨index, hindex⟩ := List.getElem?_of_mem hitem
            exact ih item.height (by omega) (hdirect.items _ hschema)
              (Json.hasDistinctNames_array.1 hd item hitem)
              (fun place used inner part hgoverns =>
                hsteps _ _ _ _ (.item hdirect.direct hschema hindex hgoverns)) rfl
          · rintro members rfl properties hproperties member hmember property hproperty
            have hle := Json.height_le_membersHeight hmember
            rw [Json.height] at hheight
            obtain ⟨hnames, hmembers⟩ := Json.hasDistinctNames_object.1 hd
            exact ih member.2.height (by omega) (hdirect.properties _ hproperties _ _ hproperty)
              (hmembers member hmember)
              (fun place used inner part hgoverns => hsteps _ _ _ _
                (.member hdirect.direct hproperties hproperty (Members.get?_of_mem hnames hmember)
                  hgoverns)) rfl

end

end ArgGuard.JsonSchema.Coercion
