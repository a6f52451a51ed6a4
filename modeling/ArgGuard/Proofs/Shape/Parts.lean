import ArgGuard.Proofs.Json.Structure
import ArgGuard.Proofs.Members
import ArgGuard.Shape.Checker

/-!
# The check of a value from the checks of its parts

`check` runs through a value with two helpers for lists. Here it is put back together: `targetOf` is
what the shape asks of the value before its parts are looked at, `checkPart` is the check of one item
or member, and `check_array`, `check_object` and `check_scalar` say how the whole check is composed
of them. From then on nobody unfolds `check`: `accepts_array_iff` and `accepts_object_iff` say when
a value is accepted, `check_congr` that units are looked up by their names alone, and `Visits` names
the pairs of a shape and a part that a check comes across.
-/

namespace ArgGuard

/-- Texts, numbers and truth values. -/
def Json.isScalar : Json → Bool
  | .bool _ | .number _ | .string _ => true
  | .null | .array _ | .object _ => false

namespace Shape

variable {rules : CheckRules} {shape target : Shape} {value converted : Json}

/-! ### The kind of a value -/

theorem convert_array (kind : ShapeKind) (items : List Json) : convert kind (.array items) = none := by
  cases kind <;> rfl

theorem convert_object (kind : ShapeKind) (members : Members Json) :
    convert kind (.object members) = none := by
  cases kind <;> rfl

theorem coerce_array {coercing : Bool} {kind : ShapeKind} {items : List Json}
    (h : coerce coercing kind (.array items) = some converted) :
    kind = .array ∧ converted = .array items := by
  cases kind <;> cases coercing <;> simp_all [coerce, convert_array]

theorem coerce_object {coercing : Bool} {kind : ShapeKind} {members : Members Json}
    (h : coerce coercing kind (.object members) = some converted) :
    kind = .object ∧ converted = .object members := by
  cases kind <;> cases coercing <;> simp_all [coerce, convert_object]

theorem convert_cases {kind : ShapeKind} (h : convert kind value = some converted) :
    (kind = .string ∧ ∃ text, converted = .string text) ∨
      (kind = .integer ∧ ∃ n, converted = .ofInt n) ∨
      (kind = .float ∧ ∃ n, converted = .number n) ∨
      (kind = .boolean ∧ ∃ b, converted = .bool b) := by
  cases kind with
  | string =>
    refine .inl ⟨rfl, ?_⟩
    cases value <;> cases h <;> exact ⟨_, rfl⟩
  | integer =>
    refine .inr (.inl ⟨rfl, ?_⟩)
    cases value with
    | string text =>
      obtain ⟨n, -, rfl⟩ := Option.map_eq_some_iff.1 h
      exact ⟨n, rfl⟩
    | bool b => cases h; exact ⟨_, rfl⟩
    | null | number | array | object => cases h
  | float =>
    refine .inr (.inr (.inl ⟨rfl, ?_⟩))
    cases value with
    | string text =>
      obtain ⟨x, -, rfl⟩ := Option.map_eq_some_iff.1 h
      exact ⟨.real x, rfl⟩
    | bool b => cases h; exact ⟨_, rfl⟩
    | null | number | array | object => cases h
  | boolean =>
    refine .inr (.inr (.inr ⟨rfl, ?_⟩))
    cases value with
    | string | number =>
      simp only [convert, Json.toBoolean?] at h
      split at h
      · cases h; exact ⟨_, rfl⟩
      · split at h <;> cases h
        exact ⟨_, rfl⟩
    | null | bool | array | object => cases h
  | id | array | object | ref => cases h

/-- What `convert` answers is of the kind: `coerce` has nothing left to do. -/
theorem coerce_convert {coercing : Bool} {kind : ShapeKind} (h : convert kind value = some converted) :
    coerce coercing kind converted = some converted := by
  rcases convert_cases h with ⟨rfl, _, rfl⟩ | ⟨rfl, _, rfl⟩ | ⟨rfl, _, rfl⟩ | ⟨rfl, _, rfl⟩ <;> rfl

theorem coerce_cases {coercing : Bool} {kind : ShapeKind}
    (h : coerce coercing kind value = some converted) :
    converted = value ∨ coercing = true ∧ convert kind value = some converted ∨
      coercing = true ∧ kind = .id ∧
        ∃ n, value = .number n ∧ converted = .string (Json.numberText n) := by
  unfold coerce at h
  split at h
  all_goals grind

theorem coerce_coerce {coercing : Bool} {kind : ShapeKind}
    (h : coerce coercing kind value = some converted) :
    coerce coercing kind converted = some converted := by
  rcases coerce_cases h with rfl | ⟨-, hc⟩ | ⟨-, rfl, n, -, rfl⟩
  · exact h
  · exact coerce_convert hc
  · rfl

theorem isScalar_coerce {coercing : Bool} {kind : ShapeKind} (hv : value.isScalar = true)
    (h : coerce coercing kind value = some converted) : converted.isScalar = true := by
  rcases coerce_cases h with rfl | ⟨-, hc⟩ | ⟨-, -, n, -, rfl⟩
  · exact hv
  · rcases convert_cases hc with ⟨-, _, rfl⟩ | ⟨-, _, rfl⟩ | ⟨-, _, rfl⟩ | ⟨-, _, rfl⟩ <;> rfl
  · rfl

/-! ### What stands for the shape and the value -/

/-- The shape that a shape stands for, and the value as one of its kind. -/
def targetOf (rules : CheckRules) (shape : Shape) (value : Json) : Except CheckCause (Shape × Json) :=
  match resolve rules.table referenceLimit shape with
  | .error cause => .error cause
  | .ok target =>
    match target.kind with
    | none => .ok (target, value)
    | some kind =>
      match coerce rules.coercing kind value with
      | some converted => .ok (target, converted)
      | none => .error (.wrongKind kind value.kind)

theorem withTarget_eq (proceed : Shape → Json → Checked) :
    withTarget rules shape value proceed =
      match targetOf rules shape value with
      | .ok (target, converted) => proceed target converted
      | .error cause => ⟨value, [.here cause]⟩ := by
  unfold withTarget targetOf
  cases resolve rules.table referenceLimit shape with
  | error cause => rfl
  | ok target =>
    cases hk : target.kind with
    | none => simp only [hk]
    | some kind => cases hc : coerce rules.coercing kind value <;> simp only [hk, hc]

theorem targetOf_eq_ok_iff :
    targetOf rules shape value = .ok (target, converted) ↔
      resolve rules.table referenceLimit shape = .ok target ∧
        (target.kind = none ∧ converted = value ∨
          ∃ kind, target.kind = some kind ∧ coerce rules.coercing kind value = some converted) := by
  unfold targetOf
  cases resolve rules.table referenceLimit shape with
  | error cause => simp
  | ok next =>
    cases hk : next.kind with
    | none => grind
    | some kind => cases hc : coerce rules.coercing kind value <;> grind

theorem targetOf_resolve (h : targetOf rules shape value = .ok (target, converted)) :
    resolve rules.table referenceLimit shape = .ok target := (targetOf_eq_ok_iff.1 h).1

/-- `targetOf` takes what it answered as it is. -/
theorem targetOf_targetOf (h : targetOf rules shape value = .ok (target, converted)) :
    targetOf rules shape converted = .ok (target, converted) := by
  obtain ⟨hr, ⟨hk, rfl⟩ | ⟨kind, hk, hc⟩⟩ := targetOf_eq_ok_iff.1 h
  · exact h
  · exact targetOf_eq_ok_iff.2 ⟨hr, .inr ⟨kind, hk, coerce_coerce hc⟩⟩

theorem targetOf_array {items : List Json}
    (h : targetOf rules shape (.array items) = .ok (target, converted)) :
    (target.kind = none ∨ target.kind = some .array) ∧ converted = .array items := by
  obtain ⟨-, ⟨hk, rfl⟩ | ⟨kind, hk, hc⟩⟩ := targetOf_eq_ok_iff.1 h
  · exact ⟨.inl hk, rfl⟩
  · obtain ⟨rfl, rfl⟩ := coerce_array hc
    exact ⟨.inr hk, rfl⟩

theorem targetOf_object {members : Members Json}
    (h : targetOf rules shape (.object members) = .ok (target, converted)) :
    (target.kind = none ∨ target.kind = some .object) ∧ converted = .object members := by
  obtain ⟨-, ⟨hk, rfl⟩ | ⟨kind, hk, hc⟩⟩ := targetOf_eq_ok_iff.1 h
  · exact ⟨.inl hk, rfl⟩
  · obtain ⟨rfl, rfl⟩ := coerce_object hc
    exact ⟨.inr hk, rfl⟩

theorem targetOf_array_congr {items : List Json} (others : List Json)
    (h : targetOf rules shape (.array items) = .ok (target, .array items)) :
    targetOf rules shape (.array others) = .ok (target, .array others) := by
  refine targetOf_eq_ok_iff.2 ⟨targetOf_resolve h, ?_⟩
  rcases (targetOf_array h).1 with hk | hk
  · exact .inl ⟨hk, rfl⟩
  · exact .inr ⟨.array, hk, rfl⟩

theorem targetOf_object_congr {members : Members Json} (others : Members Json)
    (h : targetOf rules shape (.object members) = .ok (target, .object members)) :
    targetOf rules shape (.object others) = .ok (target, .object others) := by
  refine targetOf_eq_ok_iff.2 ⟨targetOf_resolve h, ?_⟩
  rcases (targetOf_object h).1 with hk | hk
  · exact .inl ⟨hk, rfl⟩
  · exact .inr ⟨.object, hk, rfl⟩

theorem isScalar_targetOf (hv : value.isScalar = true)
    (h : targetOf rules shape value = .ok (target, converted)) : converted.isScalar = true := by
  obtain ⟨-, ⟨-, rfl⟩ | ⟨kind, -, hc⟩⟩ := targetOf_eq_ok_iff.1 h
  · exact hv
  · exact isScalar_coerce hv hc

/-! ### The parts of a value -/

/-- The check of an item or member; one that no shape governs passes. -/
def checkPart (rules : CheckRules) (part : Option Shape) (value : Json) : Checked :=
  match part with
  | some shape => check rules shape value
  | none => ⟨value, []⟩

@[simp] theorem checkPart_some : checkPart rules (some shape) value = check rules shape value := rfl

@[simp] theorem checkPart_none : checkPart rules none value = ⟨value, []⟩ := rfl

theorem checkMembers_eq (properties : Members Shape) (members : Members Json) :
    checkMembers rules properties members =
      members.map fun entry => (entry.1, checkPart rules (Members.get? properties entry.1) entry.2) := by
  induction members with
  | nil => rfl
  | cons head rest ih =>
    obtain ⟨name, value⟩ := head
    rw [checkMembers, ih, List.map_cons]
    rfl

theorem checkItems_value (index : Nat) (items : List Json) :
    (checkItems rules shape index items).1 = items.map fun item => (check rules shape item).value := by
  induction items generalizing index with
  | nil => rfl
  | cons item rest ih => rw [checkItems, List.map_cons, ← ih (index + 1)]

theorem mem_checkItems_failures {index : Nat} {items : List Json} {failure : CheckFailure} :
    failure ∈ (checkItems rules shape index items).2 ↔
      ∃ position item, items[position]? = some item ∧
        ∃ inner ∈ (check rules shape item).failures,
          failure = inner.under (toString (index + position)) := by
  induction items generalizing index with
  | nil => simp [checkItems]
  | cons item rest ih =>
    rw [checkItems]
    simp only [List.mem_append, List.mem_map, ih]
    constructor
    · rintro (⟨inner, hin, rfl⟩ | ⟨position, part, hp, inner, hin, rfl⟩)
      · exact ⟨0, item, rfl, inner, hin, rfl⟩
      · exact ⟨position + 1, part, hp, inner, hin, by rw [Nat.add_right_comm, Nat.add_assoc]⟩
    · rintro ⟨position, part, hp, inner, hin, rfl⟩
      cases position with
      | zero => cases hp; exact .inl ⟨inner, hin, rfl⟩
      | succ position =>
        exact .inr ⟨position, part, hp, inner, hin, by rw [Nat.add_right_comm, Nat.add_assoc]⟩

/-- The failures of the items of an array, each under its index. -/
def itemFailures (rules : CheckRules) (part : Option Shape) (items : List Json) : List CheckFailure :=
  match part with
  | some shape => (checkItems rules shape 0 items).2
  | none => []

theorem mem_itemFailures {part : Option Shape} {items : List Json} {failure : CheckFailure} :
    failure ∈ itemFailures rules part items ↔
      ∃ (position : Nat) (item : Json), items[position]? = some item ∧
        ∃ inner ∈ (checkPart rules part item).failures,
          failure = inner.under (toString position) := by
  cases part with
  | none => simp [itemFailures]
  | some shape => simp only [itemFailures, mem_checkItems_failures, Nat.zero_add, checkPart_some]

theorem itemFailures_eq_nil_iff {part : Option Shape} {items : List Json} :
    itemFailures rules part items = [] ↔
      ∀ item ∈ items, (checkPart rules part item).failures = [] := by
  simp only [List.eq_nil_iff_forall_not_mem, mem_itemFailures]
  constructor
  · intro h item hitem inner hin
    obtain ⟨position, hp⟩ := List.getElem?_of_mem hitem
    exact h _ ⟨position, item, hp, inner, hin, rfl⟩
  · rintro h _ ⟨position, item, hp, inner, hin, -⟩
    exact h item (List.mem_of_getElem? hp) inner hin

def memberChecks (rules : CheckRules) (properties : Members Shape) (members : Members Json) :
    Members Checked :=
  members.map fun entry => (entry.1, checkPart rules (Members.get? properties entry.1) entry.2)

theorem get?_memberChecks (properties : Members Shape) (members : Members Json) (name : String) :
    Members.get? (memberChecks rules properties members) name =
      (Members.get? members name).map (checkPart rules (Members.get? properties name)) :=
  Members.get?_mapEntries (fun name value => checkPart rules (Members.get? properties name) value) name

theorem mem_memberFailures {properties : Members Shape} {members : Members Json}
    {failure : CheckFailure} :
    failure ∈ propertyFailures properties (memberChecks rules properties members) ↔
      ∃ name value, Members.get? members name = some value ∧
        ∃ inner ∈ (checkPart rules (Members.get? properties name) value).failures,
          failure = inner.under name := by
  simp only [propertyFailures, List.mem_flatMap, get?_memberChecks]
  constructor
  · rintro ⟨⟨name, property⟩, -, h⟩
    cases hv : Members.get? members name with
    | none => simp [hv] at h
    | some value =>
      simp only [hv, Option.map_some, List.mem_map] at h
      obtain ⟨inner, hin, rfl⟩ := h
      exact ⟨name, value, hv, inner, hin, rfl⟩
  · rintro ⟨name, value, hv, inner, hin, rfl⟩
    cases hp : Members.get? properties name with
    | none => simp [hp] at hin
    | some property =>
      refine ⟨(name, property), Members.mem_of_get? hp, ?_⟩
      simp only [hv, Option.map_some, List.mem_map]
      exact ⟨inner, hin, rfl⟩

theorem memberFailures_eq_nil_iff {properties : Members Shape} {members : Members Json} :
    propertyFailures properties (memberChecks rules properties members) = [] ↔
      ∀ name value, Members.get? members name = some value →
        (checkPart rules (Members.get? properties name) value).failures = [] := by
  simp only [List.eq_nil_iff_forall_not_mem, mem_memberFailures]
  constructor
  · exact fun h name value hv inner hin => h _ ⟨name, value, hv, inner, hin, rfl⟩
  · rintro h _ ⟨name, value, hv, inner, hin, -⟩
    exact h name value hv inner hin

/-! ### The whole check -/

@[simp] theorem check_null : check rules shape .null = checkNull shape := by rw [check]

theorem check_scalar (hv : value.isScalar = true) :
    check rules shape value = withTarget rules shape value checkScalar := by
  cases value with
  | null | array | object => cases hv
  | bool | number | string => rw [check]

theorem check_of_error {cause : CheckCause} (hv : value ≠ .null)
    (h : targetOf rules shape value = .error cause) :
    check rules shape value = ⟨value, [.here cause]⟩ := by
  cases value with
  | null => exact absurd rfl hv
  | bool | number | string | array | object => rw [check, withTarget_eq, h]

theorem check_array {items : List Json}
    (h : targetOf rules shape (.array items) = .ok (target, .array items)) :
    check rules shape (.array items) =
      ⟨.array (items.map fun item => (checkPart rules target.items item).value),
        (allowedCauses target (.array items) ++ arrayCauses target items).map .here ++
          itemFailures rules target.items items⟩ := by
  rw [check, withTarget_eq, h]
  cases hi : target.items with
  | none => simp [hi, itemFailures]
  | some itemShape => simp [hi, itemFailures, checkItems_value]

theorem check_object {members : Members Json}
    (h : targetOf rules shape (.object members) = .ok (target, .object members)) :
    check rules shape (.object members) =
      ⟨.object (members.map fun entry =>
          (entry.1, (checkPart rules (Members.get? target.properties entry.1) entry.2).value)),
        (allowedCauses target (.object members) ++ missingCauses target members).map .here ++
          propertyFailures target.properties (memberChecks rules target.properties members) ++
          unexpectedFailures target members⟩ := by
  rw [check, withTarget_eq, h]
  simp [checkMembers_eq, memberChecks, Members.mapValues]

theorem accepts_scalar_iff (hv : value.isScalar = true) :
    (check rules shape value).failures = [] ↔
      ∃ target converted, targetOf rules shape value = .ok (target, converted) ∧
        scalarCauses target converted = [] ∧ allowedCauses target converted = [] := by
  rw [check_scalar hv, withTarget_eq]
  cases targetOf rules shape value with
  | error cause => simp
  | ok pair =>
    obtain ⟨target, converted⟩ := pair
    simp only [checkScalar, List.map_eq_nil_iff, List.append_eq_nil_iff]
    constructor
    · exact fun hc => ⟨target, converted, rfl, hc⟩
    · rintro ⟨_, _, heq, hc⟩
      cases heq; exact hc

theorem accepts_array_iff {items : List Json} :
    (check rules shape (.array items)).failures = [] ↔
      ∃ target, targetOf rules shape (.array items) = .ok (target, .array items) ∧
        allowedCauses target (.array items) = [] ∧ arrayCauses target items = [] ∧
        ∀ item ∈ items, (checkPart rules target.items item).failures = [] := by
  cases h : targetOf rules shape (.array items) with
  | error cause => simp [check_of_error (by simp) h]
  | ok pair =>
    obtain ⟨target, converted⟩ := pair
    obtain rfl := (targetOf_array h).2
    simp only [check_array h, List.append_eq_nil_iff, List.map_eq_nil_iff, itemFailures_eq_nil_iff]
    constructor
    · rintro ⟨⟨ha, hw⟩, hi⟩
      exact ⟨target, rfl, ha, hw, hi⟩
    · rintro ⟨_, heq, ha, hw, hi⟩
      cases heq; exact ⟨⟨ha, hw⟩, hi⟩

theorem accepts_object_iff {members : Members Json} :
    (check rules shape (.object members)).failures = [] ↔
      ∃ target, targetOf rules shape (.object members) = .ok (target, .object members) ∧
        allowedCauses target (.object members) = [] ∧ missingCauses target members = [] ∧
        unexpectedFailures target members = [] ∧
        ∀ name value, Members.get? members name = some value →
          (checkPart rules (Members.get? target.properties name) value).failures = [] := by
  cases h : targetOf rules shape (.object members) with
  | error cause => simp [check_of_error (by simp) h]
  | ok pair =>
    obtain ⟨target, converted⟩ := pair
    obtain rfl := (targetOf_object h).2
    simp only [check_object h, List.append_eq_nil_iff, List.map_eq_nil_iff, memberFailures_eq_nil_iff]
    constructor
    · rintro ⟨⟨⟨ha, hm⟩, hp⟩, hu⟩
      exact ⟨target, rfl, ha, hm, hu, hp⟩
    · rintro ⟨_, heq, ha, hm, hu, hp⟩
      cases heq; exact ⟨⟨⟨ha, hm⟩, hp⟩, hu⟩

theorem result_eq_ok_iff {checked : Checked} {answer : Json} :
    checked.result = .ok answer ↔ checked.failures = [] ∧ checked.value = answer := by
  unfold Checked.result
  cases checked.failures <;> simp

theorem result_eq_error_iff {checked : Checked} {failures : List CheckFailure} :
    checked.result = .error failures ↔ failures ≠ [] ∧ checked.failures = failures := by
  unfold Checked.result
  cases checked.failures with
  | nil => simp [eq_comm]
  | cons first rest =>
    simp only [List.isEmpty_cons, Bool.false_eq_true, if_false, Except.error.injEq]
    exact ⟨fun heq => ⟨heq ▸ List.cons_ne_nil _ _, heq⟩, And.right⟩

/-! ### Tables that read alike -/

section
variable {other : CheckRules} (hcoercing : rules.coercing = other.coercing)
  (htable : ∀ id, Members.get? rules.table id = Members.get? other.table id)
include htable

theorem resolve_congr (hops : Nat) (shape : Shape) :
    resolve rules.table hops shape = resolve other.table hops shape := by
  induction hops generalizing shape with
  | zero =>
    rw [resolve, resolve]
    simp only [htable]
    cases Members.get? other.table (shape.target.getD "") <;> rfl
  | succ hops ih =>
    rw [resolve, resolve]
    simp only [htable]
    cases Members.get? other.table (shape.target.getD "") with
    | none => rfl
    | some next => simp only [ih next]

include hcoercing

theorem targetOf_congr (shape : Shape) (value : Json) : targetOf rules shape value = targetOf other shape value := by
  rw [targetOf, targetOf, resolve_congr htable, hcoercing]

/-- `check` looks at the table through `Members.get?` alone. -/
theorem check_congr (shape : Shape) (value : Json) : check rules shape value = check other shape value := by
  induction value using Json.induct generalizing shape with
  | null => rw [check_null, check_null]
  | bool | number | string =>
    rw [check, check, withTarget_eq, withTarget_eq, targetOf_congr hcoercing htable]
  | array items ih =>
    have hitems : ∀ shape index, checkItems rules shape index items = checkItems other shape index items := by
      intro shape index
      induction items generalizing index with
      | nil => rfl
      | cons item rest ihRest =>
        rw [checkItems, checkItems, ih item List.mem_cons_self,
          ihRest (fun part hpart => ih part (List.mem_cons_of_mem _ hpart))]
    rw [check, check, withTarget_eq, withTarget_eq, targetOf_congr hcoercing htable]
    simp only [hitems]
  | object members ih =>
    have hmembers : ∀ properties, checkMembers rules properties members =
        checkMembers other properties members := by
      intro properties
      rw [checkMembers_eq, checkMembers_eq]
      refine List.map_congr_left fun member hmember => ?_
      cases Members.get? properties member.1 with
      | none => rfl
      | some property => rw [checkPart_some, checkPart_some, ih member hmember]
    rw [check, check, withTarget_eq, withTarget_eq, targetOf_congr hcoercing htable]
    simp only [hmembers]

end

/-! ### The places of a check -/

/-- The check of a value against a shape comes across a part of the value, and checks it against a
shape of its own. A member counts if it is the first of its name, the one that others see. -/
inductive Visits (rules : CheckRules) : Shape → Json → Shape → Json → Prop
  | here (shape : Shape) (value : Json) : Visits rules shape value shape value
  | item {shape target itemShape inner : Shape} {items : List Json} {item part : Json}
      (htarget : targetOf rules shape (.array items) = .ok (target, .array items))
      (hshape : target.items = some itemShape) (hitem : item ∈ items)
      (hinner : Visits rules itemShape item inner part) :
      Visits rules shape (.array items) inner part
  | member {shape target property inner : Shape} {members : Members Json} {name : String}
      {value part : Json}
      (htarget : targetOf rules shape (.object members) = .ok (target, .object members))
      (hshape : Members.get? target.properties name = some property)
      (hmember : Members.get? members name = some value)
      (hinner : Visits rules property value inner part) :
      Visits rules shape (.object members) inner part

end Shape
end ArgGuard
