import ArgGuard.JsonSchema.Value
import ArgGuard.Proofs.JsonSchema.Coercion
import ArgGuard.Proofs.JsonSchema.Definitions

/-!
# Values that satisfy their schema already

Coercion is for values that do not have the types that a schema declares. `Satisfies` says when a value
does: it is what the keywords on types, references, branches, items and properties mean, without any
conversion. Schemas may refer to one another in a circle, so it is the greatest relation of its kind.

A value that satisfies its schema should come out of coercion as it went in, and does so through every
keyword but one. Of the branches of `anyOf` coercion takes the first that is not for `null`, whether the
value satisfies it or not, and a number that satisfies only a later branch may become a text there:
`later_branch_converted`. `satisfied_unchanged` says that nothing else goes wrong. If the value is not
misled by `anyOf` in this way at any place that coercion comes to, it is left alone.
-/

namespace ArgGuard.JsonSchema

open Coercion

variable {definitions schema : Members Json} {value inner part : Json} {satisfies : Json → Json → Prop}

/-! ### Satisfaction -/

/-- The words of a `type` keyword, which is one or several. -/
def typeWords : Json → List String
  | .string word => [word]
  | .array words => words.filterMap Json.string?
  | _ => []

/-- The value has one of the types. A double without a fraction is an integer. -/
def HasDeclaredType (declared value : Json) : Prop :=
  ∃ word ∈ typeWords declared, ∃ type,
    TypeName.ofWord? word = some type ∧ type.holds true value = true

/-- What the keywords of a schema ask of a value, given what satisfies the schemas inside. -/
structure MeetsKeywords (satisfies : Json → Json → Prop) (schema : Members Json) (value : Json) : Prop where
  type : ∀ declared, Members.get? schema "type" = some declared → HasDeclaredType declared value
  anyOf : ∀ branches, Members.get? schema "anyOf" = some (.array branches) →
    ∃ branch ∈ branches, satisfies branch value
  allOf : ∀ branches, Members.get? schema "allOf" = some (.array branches) →
    ∀ branch ∈ branches, satisfies branch value
  items : ∀ itemSchema items, Members.get? schema "items" = some itemSchema → value = .array items →
    ∀ item ∈ items, satisfies itemSchema item
  properties : ∀ properties members, Members.get? schema "properties" = some (.object properties) →
    value = .object members → ∀ member ∈ members, ∀ property,
      Members.get? properties member.1 = some property → satisfies property member.2

/-- What a schema asks of a value. Beside a reference to a definition nothing else counts, as in the
earlier drafts; in the later ones a schema asks for more. -/
inductive Meets (definitions : Members Json) (satisfies : Json → Json → Prop) : Json → Json → Prop
  | anything (value : Json) : Meets definitions satisfies (.bool true) value
  | reference {schema : Members Json} {name : String} {target value : Json}
      (hreference : Members.get? schema "$ref" = some (.string (definitionsPath ++ name)))
      (htarget : Members.get? definitions name = some target) (h : satisfies target value) :
      Meets definitions satisfies (.object schema) value
  | keywords {schema : Members Json} {value : Json}
      (hdirect : ∀ name, Members.get? schema "$ref" = some (.string (definitionsPath ++ name)) →
        Members.get? definitions name = none)
      (h : MeetsKeywords satisfies schema value) : Meets definitions satisfies (.object schema) value

/-- A value satisfies a schema if there is a relation that holds of the two and asks, wherever it holds,
for what the schema asks. -/
def Satisfies (definitions : Members Json) (schema value : Json) : Prop :=
  ∃ satisfies : Json → Json → Prop,
    (∀ inner part, satisfies inner part → Meets definitions satisfies inner part) ∧ satisfies schema value

theorem MeetsKeywords.mono {other : Json → Json → Prop} (h : MeetsKeywords satisfies schema value)
    (hle : ∀ inner part, satisfies inner part → other inner part) : MeetsKeywords other schema value where
  type := h.type
  anyOf branches hbranches := by
    obtain ⟨branch, hmem, hbranch⟩ := h.anyOf branches hbranches
    exact ⟨branch, hmem, hle _ _ hbranch⟩
  allOf branches hbranches branch hmem := hle _ _ (h.allOf branches hbranches branch hmem)
  items itemSchema items hschema hvalue item hitem := hle _ _ (h.items _ _ hschema hvalue item hitem)
  properties properties members hproperties hvalue member hmember property hproperty :=
    hle _ _ (h.properties _ _ hproperties hvalue member hmember property hproperty)

theorem Meets.mono {other : Json → Json → Prop} (h : Meets definitions satisfies inner value)
    (hle : ∀ inner part, satisfies inner part → other inner part) : Meets definitions other inner value := by
  cases h with
  | anything => exact .anything _
  | reference hreference htarget h => exact .reference hreference htarget (hle _ _ h)
  | keywords hdirect h => exact .keywords hdirect (h.mono hle)

theorem Satisfies.meets (h : Satisfies definitions inner value) :
    Meets definitions (Satisfies definitions) inner value := by
  obtain ⟨satisfies, hmeets, hvalue⟩ := h
  exact (hmeets _ _ hvalue).mono fun inner part hpart => ⟨satisfies, hmeets, hpart⟩

theorem Meets.satisfied (h : Meets definitions (Satisfies definitions) inner value) :
    Satisfies definitions inner value := by
  refine ⟨fun other part => Satisfies definitions other part ∨ other = inner ∧ part = value, ?_, .inr ⟨rfl, rfl⟩⟩
  rintro other part (hpart | ⟨rfl, rfl⟩)
  · exact hpart.meets.mono fun _ _ => .inl
  · exact h.mono fun _ _ => .inl

theorem Satisfies.of_type {declared : Json} (h : HasDeclaredType declared value) :
    Satisfies definitions (.object [("type", declared)]) value :=
  Meets.satisfied <| .keywords (by rintro _ ⟨⟩)
    { type := by rintro _ ⟨⟩; exact h
      anyOf := by rintro _ ⟨⟩
      allOf := by rintro _ ⟨⟩
      items := by rintro _ _ ⟨⟩
      properties := by rintro _ _ ⟨⟩ }

theorem Satisfies.of_anyOf {branches : List Json} {branch : Json} (hmem : branch ∈ branches)
    (h : Satisfies definitions branch value) :
    Satisfies definitions (.object [("anyOf", .array branches)]) value :=
  Meets.satisfied <| .keywords (by rintro _ ⟨⟩)
    { type := by rintro _ ⟨⟩
      anyOf := by rintro _ ⟨⟩; exact ⟨branch, hmem, h⟩
      allOf := by rintro _ ⟨⟩
      items := by rintro _ _ ⟨⟩
      properties := by rintro _ _ ⟨⟩ }

/-! ### Where coercion comes to -/

/-- Coercion by a schema comes to a part of the value with a schema of its own. -/
inductive Reaches (definitions : Members Json) : Json → Json → Json → Json → Prop
  | here (schema value : Json) : Reaches definitions schema value schema value
  | reference {schema : Members Json} {target value inner part : Json}
      (htarget : definition? definitions schema = some target)
      (h : Reaches definitions target value inner part) :
      Reaches definitions (.object schema) value inner part
  | taken {schema : Members Json} {branch value inner part : Json}
      (hdirect : definition? definitions schema = none) (htaken : chosenBranch? schema = some branch)
      (h : Reaches definitions branch value inner part) :
      Reaches definitions (.object schema) value inner part
  | branch {schema : Members Json} {branch value inner part : Json}
      (hdirect : definition? definitions schema = none) (hbranch : branch ∈ allBranches schema)
      (h : Reaches definitions branch value inner part) :
      Reaches definitions (.object schema) value inner part
  | item {schema : Members Json} {itemSchema item inner part : Json} {items : List Json}
      (hdirect : definition? definitions schema = none)
      (hschema : Members.get? schema "items" = some itemSchema) (hitem : item ∈ items)
      (h : Reaches definitions itemSchema item inner part) :
      Reaches definitions (.object schema) (.array items) inner part
  | member {schema properties members : Members Json} {member : String × Json} {property inner part : Json}
      (hdirect : definition? definitions schema = none) (hproperties : declared? schema = some properties)
      (hmember : member ∈ members) (hproperty : Members.get? properties member.1 = some property)
      (h : Reaches definitions property member.2 inner part) :
      Reaches definitions (.object schema) (.object members) inner part

/-- The branch of `anyOf` that coercion takes is not satisfied and changes the value, which satisfies
another branch. -/
inductive Misled (definitions : Members Json) : Json → Json → Prop
  | intro {schema : Members Json} {branches : List Json} {taken other value : Json} {depth steps : Nat}
      (hbranches : Members.get? schema "anyOf" = some (.array branches))
      (htaken : chosenBranch? schema = some taken) (hnot : ¬Satisfies definitions taken value)
      (hother : other ∈ branches) (hsatisfied : Satisfies definitions other value)
      (hchanged : coerceDeep definitions depth steps taken value ≠ value) :
      Misled definitions (.object schema) value

/-- Nowhere on its way is the value misled. -/
def NeverMisled (definitions : Members Json) (schema value : Json) : Prop :=
  ∀ inner part, Reaches definitions schema value inner part → ¬Misled definitions inner part

theorem NeverMisled.here {schema value : Json} (h : NeverMisled definitions schema value) :
    ¬Misled definitions schema value :=
  h _ _ (.here _ _)

theorem NeverMisled.along {schema value : Json} (h : NeverMisled definitions schema value)
    (hway : ∀ other place, Reaches definitions inner part other place →
      Reaches definitions schema value other place) :
    NeverMisled definitions inner part :=
  fun other place hreaches => h other place (hway other place hreaches)

/-! ### References -/

theorem definition?_eq_some_iff {target : Json} :
    definition? definitions schema = some target ↔
      ∃ name, Members.get? schema "$ref" = some (.string (definitionsPath ++ name)) ∧
        Members.get? definitions name = some target := by
  simp only [definition?, Option.bind_eq_bind, Option.bind_eq_some_iff, afterText?_eq_some_iff]
  constructor
  · rintro ⟨found, hfound, reference, hreference, name, rfl, hname⟩
    refine ⟨name, ?_, hname⟩
    cases found <;> cases hreference
    exact hfound
  · rintro ⟨name, hreference, hname⟩
    exact ⟨_, hreference, _, rfl, name, rfl, hname⟩

theorem definition?_eq_none_iff :
    definition? definitions schema = none ↔
      ∀ name, Members.get? schema "$ref" = some (.string (definitionsPath ++ name)) →
        Members.get? definitions name = none := by
  simp only [Option.eq_none_iff_forall_ne_some, ne_eq, definition?_eq_some_iff]
  grind

/-! ### One keyword at a time -/

theorem hasType_eq {word : String} {type : TypeName} (htype : TypeName.ofWord? word = some type)
    (hv : value ≠ .null) : hasType value word = type.holds true value := by
  simp only [hasType, htype]
  cases value with
  | null => exact absurd rfl hv
  | number n => cases type <;> first | rfl | (cases n <;> rfl)
  | bool | string | array | object => cases type <;> rfl

/-- `coerceScalar` converts no value that has one of the `declaredTypes`. -/
theorem coerceScalar_of_hasDeclaredType (hv : value ≠ .null)
    (h : ∀ declared, Members.get? schema "type" = some declared → HasDeclaredType declared value) :
    coerceScalar (declaredTypes schema) value = value := by
  cases hdeclared : Members.get? schema "type" with
  | none => simp [coerceScalar, declaredTypes, hdeclared]
  | some declared =>
    obtain ⟨word, hword, type, htype, hholds⟩ := h declared hdeclared
    -- the type of a value that is not `null` is not left out
    have hnull : word ≠ "null" := by
      rintro rfl
      cases htype
      cases value with
      | null => exact hv rfl
      | bool | number | string | array | object => cases hholds
    have hmem : word ∈ declaredTypes schema := by
      rw [declaredTypes, hdeclared]
      cases declared with
      | string => exact hword
      | array words => exact List.mem_filter.2 ⟨hword, decide_eq_true hnull⟩
      | null | bool | number | object => cases hword
    rw [coerceScalar, if_pos]
    rw [Bool.or_eq_true, List.any_eq_true]
    exact .inr ⟨word, hmem, (hasType_eq htype hv).trans hholds⟩

theorem chosenBranch?_eq_some_iff {taken : Json} :
    chosenBranch? schema = some taken ↔ ∃ branches,
      Members.get? schema "anyOf" = some (.array branches) ∧ branches.find? (!isForNull ·) = some taken := by
  simp only [chosenBranch?, Option.bind_eq_bind, Option.bind_eq_some_iff]
  constructor
  · rintro ⟨found, hfound, branches, hbranches, htaken⟩
    refine ⟨branches, ?_, htaken⟩
    cases found <;> cases hbranches
    exact hfound
  · rintro ⟨branches, hbranches, htaken⟩
    exact ⟨_, hbranches, branches, rfl, htaken⟩

theorem exists_of_mem_allBranches {branch : Json} (h : branch ∈ allBranches schema) :
    ∃ branches, Members.get? schema "allOf" = some (.array branches) ∧ branch ∈ branches := by
  rw [allBranches] at h
  cases hall : Members.get? schema "allOf" with
  | none => simp [hall] at h
  | some found =>
    cases found with
    | array branches => exact ⟨branches, rfl, by simpa [hall, Json.array?] using h⟩
    | null | bool | number | string | object => simp [hall, Json.array?] at h

theorem declared?_eq_some_iff {properties : Members Json} :
    declared? schema = some properties ↔ Members.get? schema "properties" = some (.object properties) := by
  rw [declared?, Option.bind_eq_some_iff]
  constructor
  · rintro ⟨found, hfound, hproperties⟩
    cases found <;> cases hproperties
    exact hfound
  · exact fun h => ⟨_, h, rfl⟩

theorem coerceParts_eq_self {coerce : Json → Json → Json}
    (hitems : ∀ itemSchema items, Members.get? schema "items" = some itemSchema → value = .array items →
      ∀ item ∈ items, coerce itemSchema item = item)
    (hmembers : ∀ properties members, declared? schema = some properties → value = .object members →
      ∀ member ∈ members, ∀ property, Members.get? properties member.1 = some property →
        coerce property member.2 = member.2) :
    coerceParts coerce schema value = value := by
  cases value with
  | null | bool | number | string => rfl
  | array items =>
    rw [coerceParts]
    split
    · rename_i itemSchema hschema
      exact congrArg Json.array
        ((List.map_congr_left (hitems itemSchema items hschema rfl)).trans (List.map_id items))
    · rfl
  | object members =>
    rw [coerceParts]
    split
    · rename_i properties hproperties
      refine congrArg Json.object ((List.map_congr_left fun member hmember => ?_).trans (List.map_id members))
      rw [coerceMember]
      split
      · rename_i property hproperty
        exact Prod.ext rfl (hmembers properties members hproperties rfl member hmember property hproperty)
      · rfl
    · rfl

theorem foldl_eq_self {coerce : Json → Json → Json} {branches : List Json}
    (h : ∀ branch ∈ branches, coerce branch value = value) :
    branches.foldl (fun value branch => coerce branch value) value = value := by
  induction branches with
  | nil => rfl
  | cons branch rest ih =>
    rw [List.forall_mem_cons] at h
    rw [List.foldl_cons, h.1, ih h.2]

/-- The value satisfies the `chosenBranch?`, or else it would be `Misled`. -/
theorem coerceBranch_eq_self {depth steps : Nat} (h : MeetsKeywords (Satisfies definitions) schema value)
    (hclear : ¬Misled definitions (.object schema) value)
    (htaken : ∀ taken, chosenBranch? schema = some taken → Satisfies definitions taken value →
      coerceDeep definitions (depth + 1) steps taken value = value) :
    coerceBranch (coerceDeep definitions depth) definitions steps schema value = value := by
  rw [coerceBranch]
  split
  · rename_i taken hchosen
    obtain ⟨branches, hbranches, -⟩ := chosenBranch?_eq_some_iff.1 hchosen
    obtain ⟨other, hother, hsatisfied⟩ := h.anyOf branches hbranches
    by_cases hfits : Satisfies definitions taken value
    · exact htaken taken hchosen hfits
    · by_contra hne
      have hchanged : coerceDeep definitions (depth + 1) steps taken value ≠ value := hne
      exact hclear (.intro hbranches hchosen hfits hother hsatisfied hchanged)
  · rfl

/-! ### The whole way -/

/-- By the number of steps, which references and branches take at one place. -/
theorem coerceHere_eq_self {depth : Nat} (steps : Nat)
    (hbelow : ∀ steps inner part, Satisfies definitions inner part → NeverMisled definitions inner part →
      coerceDeep definitions depth steps inner part = part)
    (h : Satisfies definitions inner value) (hclear : NeverMisled definitions inner value) :
    coerceHere (coerceDeep definitions depth) definitions steps inner value = value := by
  induction steps generalizing inner with
  | zero => rfl
  | succ steps ih =>
    by_cases hv : value = .null
    · rw [hv]; exact coerceHere_null _
    · have hmeets := h.meets
      cases hmeets with
      | anything => rfl
      | @reference schema name target _ hreference htarget hsatisfied =>
        have hdefinition := definition?_eq_some_iff.2 ⟨name, hreference, htarget⟩
        rw [coerceHere_reference hdefinition]
        exact ih hsatisfied (hclear.along fun _ _ => .reference hdefinition)
      | @keywords schema _ hnone hkeywords =>
        have hdirect := definition?_eq_none_iff.2 hnone
        have hany : coerceBranch (coerceDeep definitions depth) definitions steps schema value = value :=
          coerceBranch_eq_self hkeywords hclear.here fun taken htaken hfits =>
            ih hfits (hclear.along fun _ _ => .taken hdirect htaken)
        have hall : (allBranches schema).foldl (fun value branch =>
            coerceHere (coerceDeep definitions depth) definitions steps branch value) value = value := by
          refine foldl_eq_self fun branch hbranch => ?_
          obtain ⟨branches, hbranches, hmem⟩ := exists_of_mem_allBranches hbranch
          exact ih (hkeywords.allOf branches hbranches branch hmem)
            (hclear.along fun _ _ => .branch hdirect hbranch)
        rw [coerceHere_of_direct hv hdirect, hany, hall, coerceScalar_of_hasDeclaredType hv hkeywords.type]
        refine coerceParts_eq_self ?_ ?_
        · rintro itemSchema items hschema rfl item hitem
          exact hbelow _ _ _ (hkeywords.items itemSchema items hschema rfl item hitem)
            (hclear.along fun _ _ => .item hdirect hschema hitem)
        · rintro properties members hproperties rfl member hmember property hproperty
          have hfits := hkeywords.properties properties members (declared?_eq_some_iff.1 hproperties) rfl
            member hmember property hproperty
          exact hbelow _ _ _ hfits
            (hclear.along fun _ _ => .member hdirect hproperties hmember hproperty)

theorem coerceDeep_eq_self (depth steps : Nat) (h : Satisfies definitions inner value)
    (hclear : NeverMisled definitions inner value) :
    coerceDeep definitions depth steps inner value = value := by
  induction depth generalizing steps inner value with
  | zero => rfl
  | succ depth ih => exact coerceHere_eq_self steps (fun steps _ _ => ih steps) h hclear

/-! ### Where `anyOf` does not mislead -/

theorem Satisfies.eq_null (h : Satisfies definitions (.object [("type", .string "null")]) value) :
    value = .null := by
  have hmeets := h.meets
  cases hmeets with
  | reference hreference => cases hreference
  | keywords _ hkeywords =>
    obtain ⟨word, hword, type, htype, hholds⟩ := hkeywords.type _ rfl
    obtain rfl := List.mem_singleton.1 hword
    cases htype
    cases value with
    | null => rfl
    | bool | number | string | array | object => cases hholds

theorem not_misled_of_none (h : Members.get? schema "anyOf" = none) :
    ¬Misled definitions (.object schema) value := by
  rintro ⟨hfound⟩
  cases hfound.symm.trans h

theorem not_misled_of_nullable {branch : Json}
    (hbranches : Members.get? schema "anyOf" = some (.array [branch, .object [("type", .string "null")]])) :
    ¬Misled definitions (.object schema) value := by
  rintro ⟨hfound, htaken, hnot, hother, hsatisfied, hchanged⟩
  cases hfound.symm.trans hbranches
  rcases List.mem_pair.1 hother with rfl | rfl
  · obtain ⟨branches, hfound', htaken⟩ := chosenBranch?_eq_some_iff.1 htaken
    cases hfound.symm.trans hfound'
    rcases List.mem_pair.1 (List.mem_of_find?_eq_some htaken) with rfl | rfl
    · exact hnot hsatisfied
    · cases List.find?_some htaken
  · rw [hsatisfied.eq_null] at hchanged
    exact hchanged (coerceDeep_null _ _)

/-! ### Coercion of what is satisfied -/

/-- A value that `Satisfies` its schema comes out of `coerce` unchanged, unless `anyOf` misleads it
somewhere: the `chosenBranch?` there does not fit the value and changes it, though another branch fits. -/
theorem satisfied_unchanged (h : Satisfies definitions inner value)
    (hclear : NeverMisled definitions inner value) : coerce definitions inner value = value :=
  coerceDeep_eq_self value.height stepLimit h hclear

/-- A key is a number or a text. -/
def keyTypes : Json := .object [("type", .array [.string "integer", .string "string"])]

/-- The definition of a key, or `null`. -/
def keyOrNull : Json :=
  .object [("anyOf", .array [.object [("$ref", .string "#/definitions/Key")], .object [("type", .string "null")]])]

theorem satisfied_unchanged_key :
    coerce [("Key", keyTypes)] keyOrNull (.ofInt 7) = .ofInt 7 := by
  have hreference : Members.get? [("$ref", Json.string "#/definitions/Key")] "$ref" =
      some (.string (definitionsPath ++ "Key")) := rfl
  have hdefinition : definition? [("Key", keyTypes)] [("$ref", .string "#/definitions/Key")] = some keyTypes :=
    definition?_eq_some_iff.2 ⟨"Key", hreference, rfl⟩
  have hkey : Satisfies [("Key", keyTypes)] keyTypes (.ofInt 7) :=
    .of_type ⟨"integer", .head _, .integer, rfl, rfl⟩
  refine satisfied_unchanged (.of_anyOf (.head _) (Meets.reference hreference rfl hkey).satisfied) ?_
  intro inner part hreaches
  cases hreaches with
  | here => exact not_misled_of_nullable rfl
  | reference htarget => cases htarget
  | branch _ hbranch => cases hbranch
  | taken _ htaken h =>
    cases htaken
    cases h with
    | here => exact not_misled_of_none rfl
    | taken _ htaken => cases htaken
    | branch _ hbranch => cases hbranch
    | reference htarget h =>
      cases htarget.symm.trans hdefinition
      cases h with
      | here => exact not_misled_of_none rfl
      | reference htarget => cases htarget
      | taken _ htaken => cases htaken
      | branch _ hbranch => cases hbranch

/-- A text, or else an integer. -/
def textOrInteger : Json :=
  .object [("anyOf", .array [.object [("type", .string "string")], .object [("type", .string "integer")]])]

/-- An integer satisfies the second branch, and is made a text by the first. -/
theorem later_branch_converted :
    Satisfies [] textOrInteger (.ofInt 5) ∧ coerce [] textOrInteger (.ofInt 5) = .string "5" := by
  refine ⟨.of_anyOf (.tail _ (.head _)) (.of_type ⟨"integer", .head _, .integer, rfl, rfl⟩), ?_⟩
  rfl

end ArgGuard.JsonSchema
