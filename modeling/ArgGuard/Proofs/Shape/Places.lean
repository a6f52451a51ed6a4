import ArgGuard.Proofs.Json.Pointer
import ArgGuard.Proofs.Shape.References

/-!
# Where failures are found

The failures of a check are found at the places it comes to. `ComesTo` says which part of the value stands
at such a place and what shape it is checked against; `ownFailures` is what is wrong with this part apart
from its own parts. `mem_failures_iff` puts the two together: a check reports what is wrong with every part
that it comes to, under the pointer that leads there. `ownFailures_cases` says where the rest of the path
comes from: only an unexpected property adds a step, and this step leads to the property. A reference is
at fault only where it does not resolve (`reference_failure`).
-/

namespace ArgGuard

/-- The failure seen from the document around the place. -/
def CheckFailure.below (place : Pointer) (failure : CheckFailure) : CheckFailure :=
  { failure with path := place ++ failure.path }

namespace CheckCause

/-- Whether a cause lies with a reference and not with the value. -/
def ofReference : CheckCause → Bool
  | .unresolved _ | .tooDeep _ => true
  | _ => false

/-- Whether a cause is a limit of the shape that a value of the right kind breaks. -/
def isLimit : CheckCause → Bool
  | .isNull | .unresolved _ | .tooDeep _ | .wrongKind _ _ | .missingProperty _ | .unexpectedProperty => false
  | _ => true

theorem ofReference_of_isLimit {cause : CheckCause} (h : cause.isLimit = true) :
    cause.ofReference = false := by
  cases cause <;> first | rfl | cases h

end CheckCause

namespace Shape

variable {rules : CheckRules} {shape target inner : Shape} {value part converted : Json}
  {members : Members Json} {name : String} {failure own : CheckFailure} {place : Pointer}

/-- The check of a value comes to a place inside of it, and checks the part there against a shape of its
own. Of members of one name it comes to the first. -/
inductive ComesTo (rules : CheckRules) : Shape → Json → Pointer → Shape → Json → Prop
  | here (shape : Shape) (value : Json) : ComesTo rules shape value [] shape value
  | item {shape target itemShape inner : Shape} {items : List Json} {index : Nat} {item part : Json}
      {place : Pointer} (htarget : targetOf rules shape (.array items) = .ok (target, .array items))
      (hshape : target.items = some itemShape) (hitem : items[index]? = some item)
      (h : ComesTo rules itemShape item place inner part) :
      ComesTo rules shape (.array items) (toString index :: place) inner part
  | member {shape target property inner : Shape} {members : Members Json} {name : String}
      {value part : Json} {place : Pointer}
      (htarget : targetOf rules shape (.object members) = .ok (target, .object members))
      (hshape : Members.get? target.properties name = some property)
      (hmember : Members.get? members name = some value)
      (h : ComesTo rules property value place inner part) :
      ComesTo rules shape (.object members) (name :: place) inner part

/-- The place of a check is a pointer to the part that is checked there. -/
theorem ComesTo.resolve? (h : ComesTo rules shape value place inner part) :
    value.resolve? place = some part := by
  induction h with
  | here => rfl
  | item _ _ hitem _ ih => rw [Json.resolve?_index, hitem]; exact ih
  | member _ _ hmember _ ih => rw [Json.resolve?_member, hmember]; exact ih

/-! ### Causes of one value -/

theorem mem_causeIf {condition : Bool} {cause found : CheckCause} :
    found ∈ causeIf condition cause ↔ condition = true ∧ found = cause := by
  cases condition <;> simp [causeIf]

theorem mem_causeAt {α : Type} {limit : Option α} {broken : α → Bool} {cause : α → CheckCause}
    {found : CheckCause} :
    found ∈ causeAt limit broken cause ↔
      ∃ bound, limit = some bound ∧ broken bound = true ∧ found = cause bound := by
  cases limit <;> simp [causeAt, mem_causeIf]

theorem isLimit_scalarCauses {cause : CheckCause} (h : cause ∈ scalarCauses shape value) :
    cause.isLimit = true := by
  cases value with
  | string text =>
    simp only [scalarCauses, stringCauses, List.mem_append, mem_causeAt] at h
    rcases h with ((h | h) | h) | h <;> (obtain ⟨_, -, -, rfl⟩ := h; rfl)
  | number n =>
    simp only [scalarCauses, numberCauses, List.mem_append, mem_causeAt] at h
    rcases h with (((h | h) | h) | h) | h <;> (obtain ⟨_, -, -, rfl⟩ := h; rfl)
  | null | bool | array | object => cases h

theorem isLimit_allowedCauses {cause : CheckCause} (h : cause ∈ allowedCauses shape value) :
    cause.isLimit = true := by
  obtain ⟨_, -, -, rfl⟩ := mem_causeAt.1 h
  rfl

theorem isLimit_arrayCauses {items : List Json} {cause : CheckCause}
    (h : cause ∈ arrayCauses shape items) : cause.isLimit = true := by
  simp only [arrayCauses, List.mem_append, mem_causeAt, mem_causeIf] at h
  rcases h with (h | h) | h
  · obtain ⟨_, -, -, rfl⟩ := h; rfl
  · obtain ⟨_, -, -, rfl⟩ := h; rfl
  · rw [h.2]; rfl

/-! ### What is wrong at one place -/

/-- What is wrong with a value that has the right kind, apart from its parts. -/
def contentFailures (shape : Shape) : Json → List CheckFailure
  | .array items => (allowedCauses shape (.array items) ++ arrayCauses shape items).map .here
  | .object members =>
    (allowedCauses shape (.object members) ++ missingCauses shape members).map .here ++
      unexpectedFailures shape members
  | value => (scalarCauses shape value ++ allowedCauses shape value).map .here

/-- What is wrong with a value, apart from its parts. -/
def ownFailures (rules : CheckRules) (shape : Shape) (value : Json) : List CheckFailure :=
  if value.isNull then (checkNull shape).failures
  else
    match targetOf rules shape value with
    | .error cause => [.here cause]
    | .ok (target, converted) => contentFailures target converted

theorem ownFailures_of_ok (hv : value ≠ .null) (ht : targetOf rules shape value = .ok (target, converted)) :
    ownFailures rules shape value = contentFailures target converted := by
  cases value with
  | null => exact absurd rfl hv
  | bool | number | string | array | object => simp [ownFailures, Json.isNull, ht]

theorem ownFailures_of_error {cause : CheckCause} (hv : value ≠ .null)
    (ht : targetOf rules shape value = .error cause) : ownFailures rules shape value = [.here cause] := by
  cases value with
  | null => exact absurd rfl hv
  | bool | number | string | array | object => simp [ownFailures, Json.isNull, ht]

/-- An object in which a property is missing that the check asks for. -/
def Lacks (rules : CheckRules) (shape : Shape) (value : Json) (name : String) : Prop :=
  ∃ members target, value = .object members ∧
    targetOf rules shape value = .ok (target, .object members) ∧ name ∈ target.required ∧
      Members.contains members name = false

/-- An object with a property that the check does not admit. -/
def Refuses (rules : CheckRules) (shape : Shape) (value : Json) (name : String) : Prop :=
  ∃ members target, value = .object members ∧
    targetOf rules shape value = .ok (target, .object members) ∧ target.closed = true ∧
      Members.contains target.properties name = false ∧ Members.contains members name = true

theorem resolve_error_ofReference {table : UnitTable} {hops : Nat} {cause : CheckCause}
    (h : resolve table hops shape = .error cause) : cause.ofReference = true := by
  induction hops generalizing shape with
  | zero =>
    by_cases hk : shape.kind = some .ref
    · cases hn : Members.get? table (shape.target.getD "") with
      | none => rw [resolve_of_missing hk hn] at h; cases h; rfl
      | some next => rw [resolve_zero hk hn] at h; cases h; rfl
    · rw [resolve_of_kind_ne hk] at h; cases h
  | succ hops ih =>
    by_cases hk : shape.kind = some .ref
    · cases hn : Members.get? table (shape.target.getD "") with
      | none => rw [resolve_of_missing hk hn] at h; cases h; rfl
      | some next => rw [resolve_succ hk hn] at h; exact ih h
    · rw [resolve_of_kind_ne hk] at h; cases h

theorem targetOf_error_cases {cause : CheckCause} (h : targetOf rules shape value = .error cause) :
    resolve rules.table referenceLimit shape = .error cause ∨ ∃ kind, cause = .wrongKind kind value.kind := by
  unfold targetOf at h
  split at h
  · rename_i found hr
    cases h
    exact .inl hr
  · split at h
    · cases h
    · rename_i kind _
      split at h <;> cases h
      exact .inr ⟨kind, rfl⟩

/-- A failure of the value itself that is not about one of its properties. -/
def Plain (own : CheckFailure) : Prop :=
  own.path = [] ∧ own.cause ≠ .unexpectedProperty ∧ ∀ name, own.cause ≠ .missingProperty name

theorem plain_of_isLimit (hpath : own.path = []) (hlimit : own.cause.isLimit = true) : Plain own := by
  refine ⟨hpath, fun hcause => ?_, fun name hcause => ?_⟩ <;> (rw [hcause] at hlimit; cases hlimit)

theorem isLimit_here {causes : List CheckCause} (hcauses : ∀ cause ∈ causes, cause.isLimit = true)
    (h : own ∈ causes.map .here) : own.path = [] ∧ own.cause.isLimit = true := by
  obtain ⟨cause, hmem, rfl⟩ := List.mem_map.1 h
  exact ⟨rfl, hcauses cause hmem⟩

theorem contentFailures_cases (h : own ∈ contentFailures shape value) :
    (own.path = [] ∧ own.cause.isLimit = true) ∨ ∃ members, value = .object members ∧
      ((own.path = [] ∧ ∃ name ∈ shape.required, own.cause = .missingProperty name ∧
          Members.contains members name = false) ∨
        ∃ name, own.path = [name] ∧ own.cause = .unexpectedProperty ∧ shape.closed = true ∧
          Members.contains shape.properties name = false ∧ Members.contains members name = true) := by
  cases value with
  | null | bool | number | string =>
    exact .inl (isLimit_here (List.forall_mem_append.2 ⟨fun _ => isLimit_scalarCauses,
      fun _ => isLimit_allowedCauses⟩) h)
  | array items =>
    exact .inl (isLimit_here (List.forall_mem_append.2 ⟨fun _ => isLimit_allowedCauses,
      fun _ => isLimit_arrayCauses⟩) h)
  | object members =>
    rw [contentFailures, List.map_append, List.mem_append, List.mem_append] at h
    rcases h with (h | h) | h
    · exact .inl (isLimit_here (fun _ => isLimit_allowedCauses) h)
    · obtain ⟨cause, hcause, rfl⟩ := List.mem_map.1 h
      obtain ⟨name, hname, rfl⟩ := List.mem_map.1 hcause
      obtain ⟨hrequired, hlacks⟩ := List.mem_filter.1 hname
      exact .inr ⟨members, rfl, .inl ⟨rfl, name, hrequired, rfl, by simpa using hlacks⟩⟩
    · unfold unexpectedFailures at h
      split at h
      · rename_i hclosed
        obtain ⟨name, hname, rfl⟩ := List.mem_map.1 h
        obtain ⟨hname, hunknown⟩ := List.mem_filter.1 hname
        exact .inr ⟨members, rfl, .inr ⟨name, rfl, rfl, hclosed, by simpa using hunknown,
          Members.mem_names_iff.1 hname⟩⟩
      · cases h

/-- `ownFailures` stand at the value, unless one is about a property that was not expected. -/
theorem ownFailures_cases (h : own ∈ ownFailures rules shape value) :
    Plain own ∨
      (own.path = [] ∧ ∃ name, own.cause = .missingProperty name ∧ Lacks rules shape value name) ∨
      ∃ name, own.path = [name] ∧ own.cause = .unexpectedProperty ∧ Refuses rules shape value name := by
  by_cases hv : value = .null
  · subst hv
    obtain ⟨cause, hmem, rfl⟩ := List.mem_map.1 (show own ∈ (checkNull shape).failures from h)
    rw [(mem_causeIf.1 hmem).2]
    exact .inl ⟨rfl, by simp [CheckFailure.here], by simp [CheckFailure.here]⟩
  cases ht : targetOf rules shape value with
  | error cause =>
    rw [ownFailures_of_error hv ht, List.mem_singleton] at h
    subst h
    refine .inl ⟨rfl, ?_, fun name => ?_⟩ <;>
      · rintro rfl
        rcases targetOf_error_cases ht with hresolve | ⟨kind, hkind⟩
        · cases resolve_error_ofReference hresolve
        · cases hkind
  | ok pair =>
    obtain ⟨target, converted⟩ := pair
    rw [ownFailures_of_ok hv ht] at h
    rcases contentFailures_cases h with ⟨hpath, hlimit⟩ | ⟨members, rfl, hproperty⟩
    · exact .inl (plain_of_isLimit hpath hlimit)
    have hvalue : value = .object members := by
      cases value with
      | null => exact absurd rfl hv
      | bool | number | string => cases isScalar_targetOf rfl ht
      | array items => cases (targetOf_array ht).2
      | object given => exact (targetOf_object ht).2.symm
    rcases hproperty with ⟨hpath, name, hrequired, hcause, hlacks⟩ |
      ⟨name, hpath, hcause, hclosed, hunknown, hgiven⟩
    · exact .inr (.inl ⟨hpath, name, hcause, members, target, hvalue, ht, hrequired, hlacks⟩)
    · exact .inr (.inr ⟨name, hpath, hcause, members, target, hvalue, ht, hclosed, hunknown, hgiven⟩)

/-! ### What is wrong at all places -/

theorem mem_checkPart {property : Option Shape} {failure : CheckFailure}
    (h : failure ∈ (checkPart rules property value).failures) :
    ∃ shape, property = some shape ∧ failure ∈ (check rules shape value).failures := by
  cases property with
  | none => cases h
  | some shape => exact ⟨shape, rfl, h⟩

theorem mem_failures_array {items : List Json}
    (ht : targetOf rules shape (.array items) = .ok (target, .array items)) :
    failure ∈ (check rules shape (.array items)).failures ↔
      failure ∈ ownFailures rules shape (.array items) ∨
        ∃ (index : Nat) (item : Json), items[index]? = some item ∧
          ∃ found ∈ (checkPart rules target.items item).failures, failure = found.under (toString index) := by
  rw [check_array ht, ownFailures_of_ok (by simp) ht, List.mem_append, mem_itemFailures, contentFailures]

theorem mem_failures_object
    (ht : targetOf rules shape (.object members) = .ok (target, .object members)) :
    failure ∈ (check rules shape (.object members)).failures ↔
      failure ∈ ownFailures rules shape (.object members) ∨
        ∃ name value, Members.get? members name = some value ∧
          ∃ found ∈ (checkPart rules (Members.get? target.properties name) value).failures,
            failure = found.under name := by
  rw [check_object ht, ownFailures_of_ok (by simp) ht, List.mem_append, List.mem_append, mem_memberFailures,
    contentFailures, List.mem_append, or_right_comm]

theorem failures_of_error {cause : CheckCause} (hv : value ≠ .null)
    (ht : targetOf rules shape value = .error cause) :
    (check rules shape value).failures = ownFailures rules shape value := by
  rw [check_of_error hv ht, ownFailures_of_error hv ht]

theorem failures_scalar (hv : value.isScalar = true) :
    (check rules shape value).failures = ownFailures rules shape value := by
  have hnull : value ≠ .null := by rintro rfl; cases hv
  cases ht : targetOf rules shape value with
  | error cause => exact failures_of_error hnull ht
  | ok pair =>
    obtain ⟨target, converted⟩ := pair
    have hscalar := isScalar_targetOf hv ht
    rw [check_scalar hv, withTarget_eq, ht, ownFailures_of_ok hnull ht]
    cases converted with
    | null | array | object => cases hscalar
    | bool | number | string => rfl

theorem failures_of_own (h : own ∈ ownFailures rules shape value) :
    own ∈ (check rules shape value).failures := by
  cases value with
  | null => rw [check_null]; exact h
  | bool b => rwa [failures_scalar rfl]
  | number n => rwa [failures_scalar rfl]
  | string s => rwa [failures_scalar rfl]
  | array items =>
    cases ht : targetOf rules shape (.array items) with
    | error cause => rwa [failures_of_error (by simp) ht]
    | ok pair =>
      obtain ⟨target, converted⟩ := pair
      obtain rfl := (targetOf_array ht).2
      exact (mem_failures_array ht).2 (.inl h)
  | object members =>
    cases ht : targetOf rules shape (.object members) with
    | error cause => rwa [failures_of_error (by simp) ht]
    | ok pair =>
      obtain ⟨target, converted⟩ := pair
      obtain rfl := (targetOf_object ht).2
      exact (mem_failures_object ht).2 (.inl h)

theorem ComesTo.failures (hplace : ComesTo rules shape value place inner part)
    (h : failure ∈ (check rules inner part).failures) :
    failure.below place ∈ (check rules shape value).failures := by
  induction hplace with
  | here => exact h
  | item ht hs hitem _ ih =>
    exact (mem_failures_array ht).2 (.inr ⟨_, _, hitem, _, by rw [hs]; exact ih h, rfl⟩)
  | member ht hs hm _ ih =>
    exact (mem_failures_object ht).2 (.inr ⟨_, _, hm, _, by rw [hs]; exact ih h, rfl⟩)

theorem exists_place (h : failure ∈ (check rules shape value).failures) :
    ∃ place inner part, ComesTo rules shape value place inner part ∧
      ∃ own ∈ ownFailures rules inner part, failure = own.below place := by
  induction value using Json.induct generalizing shape failure with
  | null => rw [check_null] at h; exact ⟨[], shape, _, .here .., failure, h, rfl⟩
  | bool b => rw [failures_scalar rfl] at h; exact ⟨[], shape, _, .here .., failure, h, rfl⟩
  | number n => rw [failures_scalar rfl] at h; exact ⟨[], shape, _, .here .., failure, h, rfl⟩
  | string s => rw [failures_scalar rfl] at h; exact ⟨[], shape, _, .here .., failure, h, rfl⟩
  | array items ih =>
    cases ht : targetOf rules shape (.array items) with
    | error cause =>
      rw [failures_of_error (by simp) ht] at h
      exact ⟨[], shape, _, .here .., failure, h, rfl⟩
    | ok pair =>
      obtain ⟨target, converted⟩ := pair
      obtain rfl := (targetOf_array ht).2
      rcases (mem_failures_array ht).1 h with h | ⟨index, item, hitem, found, hfound, rfl⟩
      · exact ⟨[], shape, _, .here .., failure, h, rfl⟩
      · obtain ⟨itemShape, hs, hfound⟩ := mem_checkPart hfound
        obtain ⟨place, inner, part, hplace, own, hown, rfl⟩ := ih item (List.mem_of_getElem? hitem) hfound
        exact ⟨_, inner, part, .item ht hs hitem hplace, own, hown, rfl⟩
  | object members ih =>
    cases ht : targetOf rules shape (.object members) with
    | error cause =>
      rw [failures_of_error (by simp) ht] at h
      exact ⟨[], shape, _, .here .., failure, h, rfl⟩
    | ok pair =>
      obtain ⟨target, converted⟩ := pair
      obtain rfl := (targetOf_object ht).2
      rcases (mem_failures_object ht).1 h with h | ⟨name, value, hm, found, hfound, rfl⟩
      · exact ⟨[], shape, _, .here .., failure, h, rfl⟩
      · obtain ⟨property, hs, hfound⟩ := mem_checkPart hfound
        obtain ⟨place, inner, part, hplace, own, hown, rfl⟩ := ih _ (Members.mem_of_get? hm) hfound
        exact ⟨_, inner, part, .member ht hs hm hplace, own, hown, rfl⟩

/-- The failures of `check` are the `ownFailures` of every part that it `ComesTo`, each below the place of
the part. -/
theorem mem_failures_iff : failure ∈ (check rules shape value).failures ↔
    ∃ place inner part, ComesTo rules shape value place inner part ∧
      ∃ own ∈ ownFailures rules inner part, failure = own.below place := by
  constructor
  · exact exists_place
  · rintro ⟨place, inner, part, hplace, own, hown, rfl⟩
    exact hplace.failures (failures_of_own hown)

/-! ### Failures of references -/

theorem ComesTo.visits (h : ComesTo rules shape value place inner part) :
    Visits rules shape value inner part := by
  induction h with
  | here => exact .here ..
  | item ht hs hitem _ ih => exact .item ht hs (List.mem_of_getElem? hitem) ih
  | member ht hs hm _ ih => exact .member ht hs hm ih

theorem contentFailures_ofReference (h : own ∈ contentFailures shape value) :
    own.cause.ofReference = false := by
  rcases contentFailures_cases h with ⟨-, hlimit⟩ | ⟨_, -, ⟨-, _, -, hcause, -⟩ | ⟨_, -, hcause, -⟩⟩
  · exact CheckCause.ofReference_of_isLimit hlimit
  · rw [hcause]; rfl
  · rw [hcause]; rfl

theorem reference_failure (h : failure ∈ (check rules shape value).failures)
    (hc : failure.cause.ofReference = true) :
    ∃ inner part, Visits rules shape value inner part ∧
      resolve rules.table referenceLimit inner = .error failure.cause := by
  obtain ⟨place, inner, part, hplace, own, hown, rfl⟩ := exists_place h
  refine ⟨inner, part, hplace.visits, ?_⟩
  change own.cause.ofReference = true at hc
  by_cases hv : part = .null
  · subst hv
    obtain ⟨cause, hmem, rfl⟩ := List.mem_map.1 (show own ∈ (checkNull inner).failures from hown)
    rw [(mem_causeIf.1 hmem).2] at hc
    cases hc
  cases ht : targetOf rules inner part with
  | error cause =>
    rw [ownFailures_of_error hv ht, List.mem_singleton] at hown
    subst hown
    rcases targetOf_error_cases ht with hresolve | ⟨kind, rfl⟩
    · exact hresolve
    · cases hc
  | ok pair =>
    rw [ownFailures_of_ok hv ht] at hown
    rw [contentFailures_ofReference hown] at hc
    cases hc

end Shape

end ArgGuard
