import ArgGuard.Proofs.Shape.References

/-!
# Checking with and without conversion

A check that converts nothing answers every value as it is (`check_value_plain`). Whether one that
converts takes the same values is decided kind by kind: a value that is of a kind already is left alone,
with one exception, the whole number that stands for an identifier and becomes a text. So in units and
shapes that ask for no identifier conversion is conservative (`accepted_converting`): a value that is
accepted without it is accepted with it, and is not touched. The bounds and the other constraints need no
argument of their own, since both checks come to the same shapes with the same values.
-/

namespace ArgGuard.Shape

variable {table : UnitTable} {shape target : Shape} {value converted answer : Json}

/-- The rules of a check that converts nothing. -/
def plainRules (table : UnitTable) : CheckRules := ⟨table, false⟩

def convertingRules (table : UnitTable) : CheckRules := ⟨table, true⟩

/-- A shape that does not ask for an identifier. -/
def AsksNoId (shape : Shape) : Prop := shape.kind ≠ some .id

/-! ### What is taken -/

theorem eq_of_coerce_plain {kind : ShapeKind} (h : coerce false kind value = some converted) :
    converted = value := by
  rcases coerce_cases h with rfl | ⟨hcoercing, -⟩ | ⟨hcoercing, -⟩
  · rfl
  · cases hcoercing
  · cases hcoercing

/-- `coerce` converts no value that is of the kind already, unless the kind is `id`. -/
theorem coerce_converting {kind : ShapeKind} (hkind : kind ≠ .id)
    (h : coerce false kind value = some converted) : coerce true kind value = some value := by
  obtain rfl := eq_of_coerce_plain h
  cases kind with
  | id => exact absurd rfl hkind
  | string | integer | float | boolean | array | object | ref => cases converted <;> simp_all [coerce]

theorem eq_of_targetOf_plain (h : targetOf (plainRules table) shape value = .ok (target, converted)) :
    converted = value := by
  obtain ⟨-, ⟨-, rfl⟩ | ⟨kind, -, hc⟩⟩ := targetOf_eq_ok_iff.1 h
  · rfl
  · exact eq_of_coerce_plain hc

theorem targetOf_converting (hid : target.AsksNoId)
    (h : targetOf (plainRules table) shape value = .ok (target, converted)) :
    targetOf (convertingRules table) shape value = .ok (target, value) := by
  obtain ⟨hr, ⟨hk, -⟩ | ⟨kind, hk, hc⟩⟩ := targetOf_eq_ok_iff.1 h
  · exact targetOf_eq_ok_iff.2 ⟨hr, .inl ⟨hk, rfl⟩⟩
  · exact targetOf_eq_ok_iff.2
      ⟨hr, .inr ⟨kind, hk, coerce_converting (fun he => hid (he ▸ hk)) hc⟩⟩

/-! ### The answered value -/

theorem map_checkPart_value {rules : CheckRules} {part : Option Shape} {items : List Json}
    (h : ∀ shape, part = some shape → ∀ item ∈ items, (check rules shape item).value = item) :
    (items.map fun item => (checkPart rules part item).value) = items := by
  refine (List.map_congr_left fun item hitem => ?_).trans (List.map_id items)
  cases part with
  | none => rfl
  | some shape => exact h shape rfl item hitem

theorem map_checkMember_value {rules : CheckRules} {properties : Members Shape} {members : Members Json}
    (h : ∀ member ∈ members, ∀ property, Members.get? properties member.1 = some property →
      (check rules property member.2).value = member.2) :
    (members.map fun member =>
      (member.1, (checkPart rules (Members.get? properties member.1) member.2).value)) = members := by
  refine (List.map_congr_left fun member hmember => ?_).trans (List.map_id members)
  cases hp : Members.get? properties member.1 with
  | none => rfl
  | some property => exact Prod.ext rfl (h member hmember property hp)

theorem check_value_plain (table : UnitTable) (shape : Shape) (value : Json) :
    (check (plainRules table) shape value).value = value := by
  induction value using Json.induct generalizing shape with
  | null => rw [check_null]; rfl
  | bool | number | string =>
    rw [check_scalar rfl, withTarget_eq]
    split
    · rename_i target converted ht
      exact eq_of_targetOf_plain ht
    · rfl
  | array items ih =>
    cases ht : targetOf (plainRules table) shape (.array items) with
    | error cause => rw [check_of_error (by simp) ht]
    | ok pair =>
      obtain ⟨target, converted⟩ := pair
      obtain rfl := eq_of_targetOf_plain ht
      rw [check_array ht]
      exact congrArg Json.array (map_checkPart_value fun inner _ item hitem => ih item hitem inner)
  | object members ih =>
    cases ht : targetOf (plainRules table) shape (.object members) with
    | error cause => rw [check_of_error (by simp) ht]
    | ok pair =>
      obtain ⟨target, converted⟩ := pair
      obtain rfl := eq_of_targetOf_plain ht
      rw [check_object ht]
      exact congrArg Json.object
        (map_checkMember_value fun member hmember property _ => ih member hmember property)

/-! ### Both checks -/

section
variable (htable : ∀ entry ∈ table, Everywhere AsksNoId entry.2)
include htable

/-- By induction on the value: `plainRules` and `convertingRules` take the same target for it. -/
theorem accepted_converting (hshape : Everywhere AsksNoId shape) (hd : value.hasDistinctNames = true)
    (h : (check (plainRules table) shape value).failures = []) :
    (check (convertingRules table) shape value).failures = [] ∧
      (check (convertingRules table) shape value).value = value := by
  induction value using Json.induct generalizing shape with
  | null => rw [check_null] at h ⊢; exact ⟨h, rfl⟩
  | bool | number | string =>
    obtain ⟨target, converted, ht, hs, ha⟩ := (accepts_scalar_iff rfl).1 h
    obtain rfl := eq_of_targetOf_plain ht
    have hon := targetOf_converting (hshape.resolve htable (targetOf_resolve ht)).here ht
    refine ⟨(accepts_scalar_iff rfl).2 ⟨target, _, hon, hs, ha⟩, ?_⟩
    rw [check_scalar rfl, withTarget_eq, hon]
    rfl
  | array items ih =>
    obtain ⟨target, ht, ha, hw, hitems⟩ := accepts_array_iff.1 h
    have htarget := hshape.resolve htable (targetOf_resolve ht)
    have hon := targetOf_converting htarget.here ht
    have hparts : ∀ inner, target.items = some inner → ∀ item ∈ items,
        (check (convertingRules table) inner item).failures = [] ∧
          (check (convertingRules table) inner item).value = item := by
      intro inner hinner item hitem
      have haccepted := hitems item hitem
      rw [hinner, checkPart_some] at haccepted
      exact ih item hitem (htarget.item hinner) (Json.hasDistinctNames_array.1 hd item hitem) haccepted
    constructor
    · refine accepts_array_iff.2 ⟨target, hon, ha, hw, fun item hitem => ?_⟩
      cases hinner : target.items with
      | none => rfl
      | some inner => exact (hparts inner hinner item hitem).1
    · rw [check_array hon]
      exact congrArg Json.array
        (map_checkPart_value fun inner hinner item hitem => (hparts inner hinner item hitem).2)
  | object members ih =>
    obtain ⟨target, ht, ha, hm, hu, hmembers⟩ := accepts_object_iff.1 h
    obtain ⟨hnames, hdistinct⟩ := Json.hasDistinctNames_object.1 hd
    have htarget := hshape.resolve htable (targetOf_resolve ht)
    have hon := targetOf_converting htarget.here ht
    have hparts : ∀ member ∈ members, ∀ property,
        Members.get? target.properties member.1 = some property →
          (check (convertingRules table) property member.2).failures = [] ∧
            (check (convertingRules table) property member.2).value = member.2 := by
      intro member hmember property hproperty
      have haccepted := hmembers member.1 member.2 (Members.get?_of_mem hnames hmember)
      rw [hproperty, checkPart_some] at haccepted
      exact ih member hmember (htarget.property hproperty) (hdistinct member hmember) haccepted
    constructor
    · refine accepts_object_iff.2 ⟨target, hon, ha, hm, hu, fun name value hvalue => ?_⟩
      cases hproperty : Members.get? target.properties name with
      | none => rfl
      | some property => exact (hparts _ (Members.mem_of_get? hvalue) property hproperty).1
    · rw [check_object hon]
      exact congrArg Json.object (map_checkMember_value fun member hmember property hproperty =>
        (hparts member hmember property hproperty).2)

/-- `convertingRules` accept what `plainRules` accept, and answer it as it is. -/
theorem conversion_conservative (hshape : Everywhere AsksNoId shape) (hd : value.hasDistinctNames = true)
    (h : (check (plainRules table) shape value).result = .ok answer) :
    answer = value ∧ (check (convertingRules table) shape value).result = .ok value := by
  obtain ⟨haccepted, hanswer⟩ := result_eq_ok_iff.1 h
  refine ⟨?_, result_eq_ok_iff.2 (accepted_converting htable hshape hd haccepted)⟩
  rw [← hanswer, check_value_plain]

end

/-- Pages of a result: how long they are, which words they must have, and the page that follows. -/
def pageTable : UnitTable :=
  [("Page",
    { kind := some .object
      required := ["size"]
      properties :=
        [("size", { kind := some .integer }),
          ("words", { kind := some .array, items := some { kind := some .string }, uniqueItems := true }),
          ("next", { kind := some .ref, nullable := true, target := some "Page" })] })]

theorem pageTable_asksNoId : ∀ entry ∈ pageTable, Everywhere AsksNoId entry.2 := by
  have hleaf : ∀ shape : Shape, shape.AsksNoId → shape.items = none → shape.properties = [] →
      Everywhere AsksNoId shape := fun shape hid hitems hproperties =>
    .intro hid (by simp [hitems]) (by simp [hproperties])
  have hword : Everywhere AsksNoId { kind := some .string } := hleaf _ (by simp [AsksNoId]) rfl rfl
  rw [pageTable, List.forall_mem_singleton]
  refine .intro (by simp [AsksNoId]) (fun part hpart => by cases hpart) ?_
  simp only [List.forall_mem_cons]
  refine ⟨hleaf _ (by simp [AsksNoId]) rfl rfl, .intro (by simp [AsksNoId]) (fun part hpart => ?_) (by simp),
    hleaf _ (by simp [AsksNoId]) rfl rfl, by simp⟩
  cases hpart; exact hword

/-- A page of three with the word `"3"`, and an empty last one behind it. -/
def threeAndLast : Json :=
  .object [("size", .ofInt 3), ("words", .array [.string "3"]),
    ("next", .object [("size", .ofInt 0), ("next", .null)])]

theorem conversion_conservative_page :
    (∀ entry ∈ pageTable, Everywhere AsksNoId entry.2) ∧ threeAndLast.hasDistinctNames = true ∧
      (check (plainRules pageTable) { kind := some .ref, target := some "Page" } threeAndLast).result =
        .ok threeAndLast ∧
      (check (convertingRules pageTable) { kind := some .ref, target := some "Page" } threeAndLast).result =
        .ok threeAndLast := by
  have hpage : Everywhere AsksNoId { kind := some .ref, target := some "Page" } :=
    .intro (by simp [AsksNoId]) (by simp) (by simp)
  have hplain : (check (plainRules pageTable) { kind := some .ref, target := some "Page" }
      threeAndLast).result = .ok threeAndLast :=
    result_eq_ok_iff.2 ⟨by decide +kernel, check_value_plain _ _ _⟩
  exact ⟨pageTable_asksNoId, by decide, hplain,
    (conversion_conservative pageTable_asksNoId hpage (by decide) hplain).2⟩

/-- The number of an identifier is accepted as it is where nothing is converted, and becomes a text
elsewhere. -/
example : (check (plainRules []) { kind := some .id } (.ofInt 7)).value = .ofInt 7 ∧
    (check (convertingRules []) { kind := some .id } (.ofInt 7)).value = .string "7" :=
  ⟨rfl, rfl⟩

end ArgGuard.Shape
