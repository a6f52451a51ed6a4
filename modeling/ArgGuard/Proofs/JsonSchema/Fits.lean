import ArgGuard.Proofs.Json.Structure
import ArgGuard.Proofs.JsonSchema.Linking
import ArgGuard.Proofs.JsonSchema.Reading

/-!
# Validation of positions

A document fits a schema if validation finds nothing wrong with it. For each kind of bare schema there is
a lemma on the documents that do: scalars, enumerations, lists, references and objects of slots. In a linked
table that knows the references to input objects, `judgeDeep_iff_fits` puts them together by induction on
the levels of validation: the documents without failures are those that fit the position strictly. At the
top, a reference from elsewhere leads to a position (`failures_reference_iff`) or to an object of slots
(`failures_slots_iff`).
-/

namespace ArgGuard.JsonSchema

namespace Schema

variable {below : Judge} {follow : View Link} {value : Json}

/-! ### What the terms find -/

theorem judgeTerms_eq {terms : List Schema} (h : ∀ term ∈ terms, isLeftOver term = false)
    (seen : List String) : judgeTerms below follow seen terms value =
      terms.flatMap fun term => judge below follow term value := by
  induction terms with
  | nil => rw [judgeTerms, List.flatMap_nil]
  | cons term rest ih =>
    rw [List.forall_mem_cons] at h
    rw [judgeTerms, h.1, if_neg Bool.false_ne_true, ih h.2, List.flatMap_cons]

theorem judge_all_iff {terms : List Schema} (h : ∀ term ∈ terms, isLeftOver term = false) :
    judge below follow (.all terms) value = [] ↔ ∀ term ∈ terms, judge below follow term value = [] := by
  rw [judge, judgeTerms_eq h, List.flatMap_eq_nil_iff]

theorem judgeItems_iff {schema : Schema} {items : List Json} (index : Nat) :
    judgeItems below schema index items = [] ↔ ∀ item ∈ items, below schema item = [] := by
  induction items generalizing index with
  | nil => simp [judgeItems]
  | cons item rest ih =>
    rw [judgeItems, List.append_eq_nil_iff, List.map_eq_nil_iff, ih, List.forall_mem_cons]

theorem judgeDeclared_iff {declared : List (String × Schema)} {members : Members Json} :
    judgeDeclared below declared members = [] ↔ ∀ property ∈ declared, ∀ value,
      Members.get? members property.1 = some value → below property.2 value = [] := by
  rw [judgeDeclared, List.flatMap_eq_nil_iff]
  refine forall₂_congr fun property _ => ?_
  dsimp only
  cases Members.get? members property.1 with
  | none => simp
  | some value => simp

theorem failures_required_iff {names : List String} {members : Members Json} :
    (Assertion.required names).failures (.object members) = [] ↔
      ∀ name ∈ names, Members.contains members name = true := by
  rw [Assertion.failures, List.map_eq_nil_iff, Assertion.violations, Assertion.missing,
    List.map_eq_nil_iff, List.filter_eq_nil_iff]
  · simp
  · simp

theorem checked_iff {holds : Bool} {violation : Violation} :
    Assertion.checked holds violation = [] ↔ holds = true := by
  cases holds <;> simp [Assertion.checked]

theorem holds_null_iff {wide : Bool} : TypeName.null.holds wide value = true ↔ value = .null := by
  cases value <;> simp [TypeName.holds]

/-- A `typeTest` beside `null` takes no double for an integer. -/
theorem judge_typeTest_iff {type : TypeName} (hnull : type ≠ .null) (nullable : Bool) :
    judge below follow (typeTest type nullable) value = [] ↔
      nullable = true ∧ value = .null ∨ type.holds (!nullable) value = true := by
  cases nullable with
  | false =>
    have hfailures : judge below follow (typeTest type false) value =
        (Assertion.checked (type.holds true value) (.wrongType type)).map (.here value) := rfl
    rw [hfailures, List.map_eq_nil_iff, checked_iff]
    simp
  | true =>
    have hfailures : judge below follow (typeTest type true) value =
        (Assertion.checked ((TypeName.all.filter [type, .null].contains).any (·.holds false value))
          (.noneOfTypes (TypeName.all.filter [type, .null].contains))).map (.here value) := rfl
    have hany : (TypeName.all.filter [type, .null].contains).any (·.holds false value) = true ↔
        TypeName.null.holds false value = true ∨ type.holds false value = true := by
      have hall : type ∈ TypeName.all ∧ TypeName.null ∈ TypeName.all := by cases type <;> decide
      rw [List.any_eq_true]
      constructor
      · rintro ⟨other, hother, hholds⟩
        have hmem : other = type ∨ other = .null := by simpa using (List.mem_filter.1 hother).2
        rcases hmem with rfl | rfl
        · exact .inr hholds
        · exact .inl hholds
      · rintro (hholds | hholds)
        · exact ⟨.null, List.mem_filter.2 ⟨hall.2, by simp⟩, hholds⟩
        · exact ⟨type, List.mem_filter.2 ⟨hall.1, by simp⟩, hholds⟩
    rw [hfailures, List.map_eq_nil_iff, checked_iff, hany, holds_null_iff]
    simp

/-! ### Bare schemas -/

theorem judge_scalar_iff (scalar : Builtin) (nullable : Bool) :
    judge below follow (.all [typeTest scalar.typeName nullable]) value = [] ↔
      nullable = true ∧ value = .null ∨ scalar.typeName.holds (!nullable) value = true := by
  have hnull : scalar.typeName ≠ .null := by cases scalar <;> decide
  rw [judge_all_iff (by simp [typeTest, isLeftOver]), List.forall_mem_singleton, judge_typeTest_iff hnull]

theorem judge_enumeration_iff {values : List String} (nullable : Bool) :
    judge below follow (.all [typeTest .string nullable,
      .assertion (.among (values.map .string ++ if nullable then [.null] else []))]) value = [] ↔
      nullable = true ∧ value = .null ∨ ∃ text ∈ values, value = .string text := by
  have hamong : ∀ values, judge below follow (.assertion (.among values)) value = [] ↔
      ∃ wanted ∈ values, Json.equal wanted value = true := by
    intro values
    have hfailures : judge below follow (.assertion (.among values)) value =
        (Assertion.checked (values.any (·.equal value)) (.notAmong values)).map (.here value) := rfl
    rw [hfailures, List.map_eq_nil_iff, checked_iff, List.any_eq_true]
  rw [judge_all_iff (by simp [typeTest, isLeftOver]), List.forall_mem_cons, List.forall_mem_singleton,
    judge_typeTest_iff (by decide), hamong]
  cases value <;> cases nullable <;> simp [TypeName.holds, Json.equal, Json.equalBy]

theorem judge_list_iff {items : Schema} (nullable : Bool) :
    judge below follow (.all [typeTest .array nullable, .items 0 items]) value = [] ↔
      nullable = true ∧ value = .null ∨
        ∃ parts, value = .array parts ∧ ∀ part ∈ parts, below items part = [] := by
  rw [judge_all_iff (by simp [typeTest, isLeftOver]), List.forall_mem_cons, List.forall_mem_singleton,
    judge_typeTest_iff (by decide)]
  cases value with
  | array parts =>
    have hitems : judge below follow (.items 0 items) (.array parts) = judgeItems below items 0 parts := rfl
    rw [hitems, judgeItems_iff]
    simp [TypeName.holds]
  | null | bool | number | string | object => simp [TypeName.holds, judge]

theorem judge_object_iff {properties : List (String × Schema)} {required : List String} (nullable : Bool) :
    judge below follow (objectSchema properties required nullable) value = [] ↔
      nullable = true ∧ value = .null ∨ ∃ members, value = .object members ∧
        (∀ name ∈ required, Members.contains members name = true) ∧
        ∀ property ∈ properties, ∀ part, Members.get? members property.1 = some part →
          below property.2 part = [] := by
  have hplain : ∀ term ∈ typeTest .object nullable :: .properties properties ::
      (if required.isEmpty then [] else [.assertion (.required required)]), isLeftOver term = false := by
    cases required <;> simp [typeTest, isLeftOver]
  rw [objectSchema, judge_all_iff hplain, List.forall_mem_cons, List.forall_mem_cons,
    judge_typeTest_iff (by decide)]
  cases value with
  | object members =>
    have hproperties : judge below follow (.properties properties) (.object members) =
        judgeDeclared below properties members := rfl
    have hrequired : (∀ term ∈ if required.isEmpty then [] else [Schema.assertion (.required required)],
        judge below follow term (.object members) = []) ↔
          ∀ name ∈ required, Members.contains members name = true := by
      rw [← failures_required_iff]
      cases required <;> simp [judge, Assertion.failures, Assertion.violations, Assertion.missing]
    rw [hproperties, judgeDeclared_iff, hrequired]
    simp [TypeName.holds, and_comm]
  | null => cases required <;> simp [TypeName.holds, judge, Assertion.failures, Assertion.violations]
  | bool | number | string | array => simp [TypeName.holds]

theorem judge_reference_iff {context : Context} {target : String} (nullable : Bool) :
    judge below follow (referenceSchema context target nullable) value = [] ↔
      (nullable = false → TypeName.object.holds true value = true) ∧
        follow.failures ⟨context, target.toList, false⟩ value = [] := by
  have hreference : judge below follow (.all [.reference ⟨context, target.toList, false⟩]) value = [] ↔
      follow.failures ⟨context, target.toList, false⟩ value = [] := by
    rw [judge_all_iff (by simp [isLeftOver]), List.forall_mem_singleton, judge]
  cases nullable with
  | true => simpa [referenceSchema] using hreference
  | false =>
    have hbranch : judge below follow (.allOf [.all [.reference ⟨context, target.toList, false⟩]]) value =
        judge below follow (.all [.reference ⟨context, target.toList, false⟩]) value ++ [] := rfl
    have hplain : ∀ term ∈ [typeTest .object false,
        .allOf [.all [.reference ⟨context, target.toList, false⟩]]], isLeftOver term = false := by
      simp [typeTest, isLeftOver]
    rw [referenceSchema, if_neg Bool.false_ne_true, judge_all_iff hplain, List.forall_mem_cons,
      List.forall_mem_singleton, judge_typeTest_iff (by decide), hbranch, List.append_nil, hreference]
    simp

theorem bareSchema_free {enumerations : Members (List String)} {position : Position}
    (h : position.isShaped enumerations = false) (context : Context) :
    bareSchema context enumerations position = .all [] := by
  obtain ⟨name, leaf, nonNull, rfl, hleaf, hscalar, henumeration⟩ := Position.exists_of_not_isShaped h
  rw [bareSchema, if_neg hleaf, hscalar, henumeration]

theorem judge_slots_iff {context : Context} {enumerations : Members (List String)}
    {slots : Members Position} (hfree : ∀ value, below (.all []) value = []) (nullable : Bool) :
    judge below follow (slotsSchema context enumerations slots nullable) value = [] ↔
      nullable = true ∧ value = .null ∨ ∃ members, value = .object members ∧
        Fills enumerations (fun position part => below (bareSchema context enumerations position) part = [])
          slots members := by
  have hfree : ∀ position part, position.isShaped enumerations = false →
      below (bareSchema context enumerations position) part = [] := by
    intro position part hshape
    rw [bareSchema_free hshape]
    exact hfree part
  rw [slotsSchema, judge_object_iff]
  refine or_congr_right (exists_congr fun members => and_congr_right fun _ => ?_)
  rw [fills_iff_shaped hfree]
  simp only [List.forall_mem_map]

/-! ### Known references -/

theorem mem_references_named {declared : List (String × Schema)} {property : String × Schema} {link : Link}
    (hproperty : property ∈ declared) (hlink : link ∈ property.2.references) :
    link ∈ referencesOfNamed declared := by
  induction declared with
  | nil => cases hproperty
  | cons first rest ih =>
    obtain ⟨name, schema⟩ := first
    rw [referencesOfNamed, List.mem_append]
    rcases List.mem_cons.1 hproperty with rfl | hrest
    · exact .inl hlink
    · exact .inr (ih hrest)

theorem mem_references_list {context : Context} {enumerations : Members (List String)} {item : Position}
    {nonNull : Bool} {link : Link} (hlink : link ∈ (bareSchema context enumerations item).references) :
    link ∈ (bareSchema context enumerations (.list item nonNull)).references := by
  simpa [bareSchema, references, referencesOfList, typeTest] using hlink

theorem mem_references_reference (context : Context) (target : String) (nullable : Bool) :
    ⟨context, target.toList, false⟩ ∈ (referenceSchema context target nullable).references := by
  cases nullable <;> simp [referenceSchema, references, referencesOfList, typeTest]

theorem mem_references_slots {context : Context} {enumerations : Members (List String)}
    {slots : Members Position} {slot : String × Position} {nullable : Bool} {link : Link}
    (hslot : slot ∈ slots) (hlink : link ∈ (bareSchema context enumerations slot.2).references) :
    link ∈ (slotsSchema context enumerations slots nullable).references := by
  cases hshape : slot.2.isShaped enumerations with
  | false =>
    rw [bareSchema_free hshape] at hlink
    cases hlink
  | true =>
    have hproperty : (slot.1, bareSchema context enumerations slot.2) ∈
        (shapedSlots enumerations slots).map fun slot => (slot.1, bareSchema context enumerations slot.2) :=
      List.mem_map.2 ⟨slot, List.mem_filter.2 ⟨hslot, hshape⟩, rfl⟩
    have hnamed := mem_references_named hproperty hlink
    simp [slotsSchema, objectSchema, references, referencesOfList, typeTest, hnamed]

end Schema

/-- A table that knows every reference in a schema. -/
def LinkTable.Knows (table : LinkTable) (schema : Schema) : Prop :=
  ∀ link ∈ schema.references, (table.lookup link).isSome = true

/-- A table in which every known reference to an input object leads to an object with its fields, and
the references there are known again. -/
structure LinkTable.HasTypes (graph : TypeGraph) (context : Context) (table : LinkTable) : Prop where
  slots : ∀ name type schema, graph.find? name = some type → type.kind = .inputObject →
    table.lookup ⟨context, (Dialect.jsonSchema.referenceId name none none).toList, false⟩ = some schema →
      schema = slotsSchema context graph.enumerations type.slots true
  known : ∀ link schema, table.lookup link = some schema → table.Knows schema

/-- One level of validation follows every reference in a context that a table knows. -/
def LinkTable.Followed (table : LinkTable) (context : Context) (below : Judge) (follow : View Link) : Prop :=
  ∀ link schema, link.context = context → table.lookup link = some schema →
    ∃ next, ∀ value, follow.failures link value = Schema.judge below next schema value

theorem LinkTable.length_ne_zero {table : LinkTable} {link : Link} {schema : Schema}
    (hlink : table.lookup link = some schema) : table.length ≠ 0 := by
  intro hlength
  rw [List.length_eq_zero_iff.1 hlength] at hlink
  cases hlink

theorem LinkTable.length_ne_one {table : LinkTable} {link other : Link} {schema another : Schema}
    (hlink : table.lookup link = some schema) (hother : table.lookup other = some another)
    (hne : link ≠ other) : table.length ≠ 1 := by
  intro hlength
  obtain ⟨⟨only, contents⟩, rfl⟩ := List.length_eq_one_iff.1 hlength
  have honly : ∀ {link schema}, List.lookup link [(only, contents)] = some schema → link = only := by
    intro link schema hlink
    by_contra hne
    rw [List.lookup_cons, beq_false_of_ne hne] at hlink
    cases hlink
  exact hne ((honly hlink).trans (honly hother).symm)

namespace Schema

/-! ### Levels of validation -/

theorem exists_follow (below : Judge) (table : LinkTable) (hops : Nat) : ∃ follow : View Link,
    (∀ schema value, (linkedView below table hops).failures schema value = judge below follow schema value) ∧
      ∀ link schema, hops ≠ 0 → table.lookup link = some schema →
        ∃ next, ∀ value, follow.failures link value = judge below next schema value := by
  induction hops with
  | zero => exact ⟨.blank, fun _ _ => rfl, fun _ _ h => absurd rfl h⟩
  | succ hops ih =>
    obtain ⟨next, hnext, -⟩ := ih
    refine ⟨_, fun _ _ => rfl, fun link schema _ hlink => ⟨next, fun value => ?_⟩⟩
    rw [← hnext]
    dsimp only [atTarget]
    rw [hlink]

theorem judgeDeep_succ (table : LinkTable) (depth : Nat) : ∃ follow : View Link,
    (∀ schema value, judgeDeep table (depth + 1) schema value =
      judge (judgeDeep table depth) follow schema value) ∧
      ∀ context, table.Followed context (judgeDeep table depth) follow := by
  obtain ⟨follow, hjudge, hfollow⟩ := exists_follow (judgeDeep table depth) table table.length
  exact ⟨follow, hjudge, fun _ link schema _ hlink =>
    hfollow link schema (LinkTable.length_ne_zero hlink) hlink⟩

theorem judgeDeep_free (table : LinkTable) (depth : Nat) (value : Json) :
    judgeDeep table depth (.all []) value = [] := by
  cases depth with
  | zero => rfl
  | succ depth =>
    obtain ⟨follow, hjudge, -⟩ := judgeDeep_succ table depth
    rw [hjudge, judge_all_iff (by simp)]
    simp

/-- A known reference is judged as the schema to which it leads. If it comes from another context, there is
a hop left for the references there (`Followed`). -/
theorem failures_reference {table : LinkTable} {start : Link} {schema : Schema}
    (hstart : table.lookup start = some schema) (value : Json) : ∃ depth follow, value.height = depth + 1 ∧
      failures table (.reference start) value = judge (judgeDeep table depth) follow schema value ∧
      ∀ context, start.context ≠ context → table.Followed context (judgeDeep table depth) follow := by
  obtain ⟨depth, hdepth⟩ := Nat.exists_eq_add_of_le' value.height_pos
  obtain ⟨hops, hhops⟩ := Nat.exists_eq_succ_of_ne_zero (LinkTable.length_ne_zero hstart)
  obtain ⟨follow, hjudge, hfollow⟩ := exists_follow (judgeDeep table depth) table hops
  refine ⟨depth, follow, hdepth, ?_, fun context hcontext link schema hlink hschema => ?_⟩
  · rw [← hjudge, failures, hdepth, judgeDeep, hhops]
    change atTarget table _ start value = _
    rw [atTarget, hstart]
  · have hne : link ≠ start := fun heq => hcontext (heq ▸ hlink)
    have hlength := LinkTable.length_ne_one hschema hstart hne
    exact hfollow link schema (by omega) hschema

/-! ### Validation of positions -/

section
variable {graph : TypeGraph} {table : LinkTable} {context : Context} (htypes : table.HasTypes graph context)
  (hgraph : graph.SettlesInputs)
include htypes hgraph

/-- The step of `judgeDeep_iff_fits`: one level of `judge`, over the shapes of `bareSchema`. -/
theorem judge_iff_fits (hfree : ∀ value, below (.all []) value = []) (hfollow : table.Followed context below follow)
    {position : Position} (hposition : graph.Settles position)
    (hknown : table.Knows (bareSchema context graph.enumerations position))
    (hbelow : ∀ inner part, part.height < value.height → graph.Settles inner →
      table.Knows (bareSchema context graph.enumerations inner) →
      (below (bareSchema context graph.enumerations inner) part = [] ↔ Fits graph true inner part)) :
    judge below follow (bareSchema context graph.enumerations position) value = [] ↔
      Fits graph true position value := by
  have hnull : ∀ nonNull : Bool, (!nonNull) = true ∧ value = .null ↔ nonNull = false ∧ value = .null := by
    simp
  obtain ⟨hclassifies, hid⟩ := hposition
  cases position with
  | list item nonNull =>
    rw [bareSchema, judge_list_iff, fits_list_iff, hnull]
    refine or_congr_right (exists_congr fun parts => and_congr_right ?_)
    rintro rfl
    refine forall₂_congr fun part hpart => hbelow item part ?_ ⟨hclassifies, hid⟩ ?_
    · exact Nat.lt_succ_of_le (Json.height_le_itemsHeight hpart)
    · exact fun link hlink => hknown link (mem_references_list hlink)
  | named name leaf nonNull =>
    by_cases hleaf : leaf = .inputObject
    · subst hleaf
      obtain ⟨type, htype, (hname : type.name = name), hinput⟩ := hclassifies.inputObject rfl
      obtain ⟨hd, hfields⟩ := hgraph type htype hinput
      have hfind := TypeGraph.find?_eq_some_iff.2 ⟨htype, hname⟩
      rw [bareSchema, if_pos rfl] at hknown ⊢
      obtain ⟨schema, hschema⟩ := Option.isSome_iff_exists.1 (hknown _ (mem_references_reference _ _ _))
      obtain ⟨next, hnext⟩ := hfollow _ _ rfl hschema
      obtain rfl := htypes.slots name type schema hfind hinput hschema
      rw [judge_reference_iff, hnext, judge_slots_iff hfree, TypeName.object_and_iff,
        fits_inputObject_iff hfind]
      refine or_congr_right (exists_congr fun members => and_congr_right ?_)
      rintro rfl
      -- a field may be of this type again, but its value is a part of this one
      refine Fills.congr fun slot hslot part hpart => hbelow slot.2 part ?_ (hfields slot hslot) ?_
      · exact Nat.lt_succ_of_le (Json.height_le_membersHeight (Members.mem_of_get? hpart))
      · exact fun link hlink => htypes.known _ _ hschema link (mem_references_slots hslot hlink)
    · rw [bareSchema, if_neg hleaf]
      cases hname : Builtin.ofName? name with
      | some scalar =>
        rw [fits_scalar_iff hleaf hname, judge_scalar_iff, hnull, Bool.not_not, Bool.not_true, Bool.or_false]
      | none =>
        cases hvalues : Members.get? graph.enumerations name with
        | some values =>
          rw [fits_enumeration_iff hleaf hname hvalues, ← hnull]
          exact judge_enumeration_iff _
        | none =>
          refine iff_of_true ((judge_all_iff (by simp)).2 (by simp)) (.free ?_)
          rw [Position.isShaped_named hleaf, hname, Members.contains, hvalues]
          rfl

theorem judgeDeep_iff_fits {position : Position} (hposition : graph.Settles position)
    (hknown : table.Knows (bareSchema context graph.enumerations position)) {depth : Nat}
    (hdepth : value.height ≤ depth) :
    judgeDeep table depth (bareSchema context graph.enumerations position) value = [] ↔
      Fits graph true position value := by
  induction depth generalizing position value with
  | zero => exact absurd value.height_pos (Nat.not_lt.2 hdepth)
  | succ depth ih =>
    obtain ⟨follow, hjudge, hfollow⟩ := judgeDeep_succ table depth
    rw [hjudge]
    exact judge_iff_fits htypes hgraph (judgeDeep_free table depth) (hfollow context) hposition hknown
      fun inner part hpart hinner hknown =>
        ih hinner hknown (Nat.le_of_lt_succ (Nat.lt_of_lt_of_le hpart hdepth))

variable {start : Link}

theorem failures_reference_iff {position : Position} (hposition : graph.Settles position)
    (hcontext : start.context ≠ context)
    (hstart : table.lookup start = some (bareSchema context graph.enumerations position)) :
    failures table (.reference start) value = [] ↔ Fits graph true position value := by
  obtain ⟨depth, follow, hdepth, hfailures, hfollow⟩ := failures_reference hstart value
  rw [hfailures]
  refine judge_iff_fits htypes hgraph (judgeDeep_free table depth) (hfollow context hcontext) hposition
    (htypes.known _ _ hstart) fun inner part hpart hinner hknown => ?_
  exact judgeDeep_iff_fits htypes hgraph hinner hknown (Nat.le_of_lt_succ (Nat.lt_of_lt_of_eq hpart hdepth))

theorem failures_slots_iff {slots : Members Position} (hslots : ∀ slot ∈ slots, graph.Settles slot.2)
    {nullable : Bool}
    (hstart : table.lookup start = some (slotsSchema context graph.enumerations slots nullable)) :
    failures table (.reference start) value = [] ↔ nullable = true ∧ value = .null ∨
      ∃ members, value = .object members ∧ Fills graph.enumerations (Fits graph true) slots members := by
  obtain ⟨depth, follow, hdepth, hfailures, -⟩ := failures_reference hstart value
  rw [hfailures, judge_slots_iff (judgeDeep_free table depth)]
  refine or_congr_right (exists_congr fun members => and_congr_right ?_)
  rintro rfl
  refine Fills.congr fun slot hslot part hpart => judgeDeep_iff_fits htypes hgraph (hslots slot hslot) ?_ ?_
  · exact fun link hlink => htypes.known _ _ hstart link (mem_references_slots hslot hlink)
  · exact Nat.le_trans (Json.height_le_membersHeight (Members.mem_of_get? hpart))
      (Nat.le_of_succ_le_succ (Nat.le_of_eq hdepth))

end

end Schema

end ArgGuard.JsonSchema
