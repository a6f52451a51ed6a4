import ArgGuard.Proofs.Json.Structure
import ArgGuard.Proofs.Schema.Bare
import ArgGuard.Proofs.Schema.Fits
import ArgGuard.Proofs.Schema.Restriction
import ArgGuard.Proofs.Shape.Conformance

/-!
# Checks of positions

Over a position without an override the reader sees one shape, `Position.bareShape`, and this module says
what a check that converts nothing makes of it. Each kind of shape has its lemma: the values a scalar, an
enumeration, a list and a reference accept. Together they are the rules of `Fits` (`Shape.rules_accepts`), so
the check accepts the values that fit the position in the wider reading (`Shape.accepts_iff_fits`).
-/

namespace ArgGuard

namespace Shape

/-- The shape of a scalar and nothing else. -/
def bareScalar (scalar : Builtin) (nullable : Bool) : Shape :=
  { kind := some scalar.shapeKind, nullable := nullable }

/-- The shape of an enumeration. -/
def bareNames (values : List String) (nullable : Bool) : Shape :=
  { kind := some .string, nullable := nullable, allowed := some (values.map .string) }

/-- The shape of a list of items and nothing else. -/
def bareList (items : Shape) (nullable : Bool) : Shape :=
  { kind := some .array, nullable := nullable, items := some items }

/-- The shape of a reference. -/
def bareReference (name : String) (nullable : Bool) : Shape :=
  { kind := some .ref, nullable := nullable, target := some name }

end Shape

/-- The shape of a position over which nothing was laid. -/
def Position.bareShape (enumerations : Members (List String)) : Position → Shape
  | named name leaf nonNull =>
    if leaf = .inputObject then .bareReference name (!nonNull)
    else match Builtin.ofName? name with
      | some scalar => .bareScalar scalar (!nonNull)
      | none =>
        match Members.get? enumerations name with
        | some values => .bareNames values (!nonNull)
        | none => {}
  | list item nonNull => .bareList (bareShape enumerations item) (!nonNull)

namespace Shape

theorem ofFragment_array_of_ok {items : Fragment} {inner : Shape} (h : ofFragment items = .ok inner)
    (nullable : Bool) :
    ofFragment (Dialect.native.array items nullable) = .ok (bareList inner nullable) := by
  refine ofFragment_eq_ok_iff.2 ⟨bareList inner nullable, ?_, rfl⟩
  refine takeKeys_cons_eq_ok_iff.2 ⟨_, rfl, takeKeys_cons_eq_ok_iff.2 ⟨_, rfl, ?_⟩⟩
  exact takeKeys_cons_eq_ok_iff.2 ⟨_, takeKey_items_of_ok h, rfl⟩

theorem takeMembers_total {members : Members Json} {before : Shape}
    (h : ∀ member ∈ members, ∃ inner shape, member.2 = .object inner ∧ ofFragment inner = .ok shape) :
    ∃ properties, takeMembers members before = .ok { before with properties := properties } := by
  induction members generalizing before with
  | nil => exact ⟨before.properties, by cases before; rw [takeMembers]⟩
  | cons member rest ih =>
    obtain ⟨name, value⟩ := member
    obtain ⟨inner, property, rfl, hread⟩ := h _ List.mem_cons_self
    obtain ⟨properties, hrest⟩ := ih fun other hother => h other (List.mem_cons_of_mem _ hother)
    refine ⟨properties, ?_⟩
    rw [takeMembers, ofValue_eq_ok_iff.2 ⟨inner, rfl, hread⟩]
    exact hrest

theorem ofFragment_object_total {properties : Members Fragment} (required : List String)
    (h : ∀ entry ∈ properties, ∃ shape, ofFragment entry.2 = .ok shape) :
    ∃ shape, ofFragment (Dialect.native.object properties required) = .ok shape := by
  have hmembers : ∀ member ∈ Members.mapValues Json.object properties,
      ∃ inner shape, member.2 = .object inner ∧ ofFragment inner = .ok shape := by
    intro member hmember
    obtain ⟨entry, hentry, rfl⟩ := List.mem_map.1 hmember
    obtain ⟨shape, hshape⟩ := h entry hentry
    exact ⟨entry.2, shape, rfl, hshape⟩
  obtain ⟨taken, htaken⟩ : ∃ taken, takeMembers (Members.mapValues Json.object properties)
      { kind := some .object } = .ok { kind := some .object, properties := taken } :=
    takeMembers_total hmembers
  have hrequired : takeKey "required" (Dialect.requiredValue required)
      { kind := some .object, properties := taken } =
        .ok { kind := some .object, properties := taken, required := required } := by
    rw [takeKey_scalar (by decide) (by decide)]
    exact bind_eq_ok_iff.2 ⟨required.map .string, rfl,
      bind_eq_ok_iff.2 ⟨required, requiredNames_texts required, rfl⟩⟩
  refine ⟨{ kind := some .object, properties := taken, required := required },
    ofFragment_eq_ok_iff.2 ⟨{ kind := some .object, properties := taken, required := required }, ?_, rfl⟩⟩
  refine takeKeys_cons_eq_ok_iff.2 ⟨_, rfl, takeKeys_cons_eq_ok_iff.2 ⟨_, rfl, ?_⟩⟩
  exact takeKeys_cons_eq_ok_iff.2 ⟨_, htaken, takeKeys_cons_eq_ok_iff.2 ⟨_, hrequired, rfl⟩⟩

end Shape

theorem Inference.IsPlain.ofFragment_bareFragment {inference : Inference} (h : inference.IsPlain .native)
    (position : Position) : Shape.ofFragment (inference.bareFragment position) =
      .ok (position.bareShape inference.enumerations) := by
  induction position with
  | list item nonNull ih =>
    rw [bareFragment, h.dialect, Shape.ofFragment_array_of_ok ih, Position.bareShape]
  | named name leaf nonNull =>
    rw [bareFragment, h.dialect, Position.bareShape]
    split
    · rfl
    · rw [h.infer_eq, standard, h.dialect]
      cases Builtin.ofName? name with
      | some scalar => exact Shape.ofFragment_primitive _ _
      | none => cases Members.get? inference.enumerations name <;> rfl

theorem Position.bareShape_free {enumerations : Members (List String)} {position : Position}
    (hshape : position.isShaped enumerations = false) : position.bareShape enumerations = {} := by
  obtain ⟨name, leaf, nonNull, rfl, hleaf, hscalar, henumeration⟩ := exists_of_not_isShaped hshape
  rw [bareShape, if_neg hleaf, hscalar, henumeration]

namespace Shape

variable {rules : CheckRules} {shape target inner : Shape} {value : Json} {nullable : Bool}

/-! ### What is taken without conversion -/

theorem coerce_scalar {scalar : Builtin} (hid : scalar ≠ .id) (value : Json) :
    coerce false scalar.shapeKind value = if scalar.typeName.holds true value then some value else none := by
  cases scalar with
  | id => exact absurd rfl hid
  | int =>
    cases value with
    | number n => cases n <;> rfl
    | null | bool | string | array | object => rfl
  | float | string | boolean => cases value <;> rfl

theorem targetOf_kind_iff (hcoercing : rules.coercing = false) {kind : ShapeKind}
    (hk : shape.kind = some kind) (hne : kind ≠ .ref) {converted : Json} :
    targetOf rules shape value = .ok (target, converted) ↔
      target = shape ∧ coerce false kind value = some converted := by
  have hr : resolve rules.table referenceLimit shape = .ok shape :=
    resolve_of_kind_ne (by rw [hk]; simpa using hne) _
  rw [targetOf_eq_ok_iff, hr, hcoercing]
  constructor
  · rintro ⟨heq, ⟨hnone, -⟩ | ⟨other, hother, hc⟩⟩
    · cases heq; rw [hk] at hnone; cases hnone
    · cases heq; cases hk.symm.trans hother
      exact ⟨rfl, hc⟩
  · rintro ⟨rfl, hc⟩
    exact ⟨rfl, .inr ⟨kind, hk, hc⟩⟩

theorem accepts_null_iff (hk : shape.kind.isSome = true) :
    (check rules shape .null).failures = [] ↔ shape.nullable = true := by
  rw [check_null, checkNull, hk, Bool.and_true, List.map_eq_nil_iff, causeIf]
  cases shape.nullable <;> simp

theorem targetOf_of_accepted (hv : value ≠ .null) (h : (check rules shape value).failures = []) :
    ∃ target converted, targetOf rules shape value = .ok (target, converted) := by
  cases ht : targetOf rules shape value with
  | ok found => exact ⟨found.1, found.2, rfl⟩
  | error cause => rw [check_of_error hv ht] at h; cases h

theorem coerce_false {kind : ShapeKind} {converted : Json} (h : coerce false kind value = some converted) :
    converted = value := by
  unfold coerce at h
  split at h
  case h_7 | h_8 => split at h <;> cases h; rfl
  case h_9 => cases h
  all_goals cases h; rfl

section
variable (hcoercing : rules.coercing = false)
include hcoercing

theorem targetOf_value {converted : Json} (h : targetOf rules shape value = .ok (target, converted)) :
    converted = value := by
  obtain ⟨-, ⟨-, heq⟩ | ⟨kind, -, hc⟩⟩ := targetOf_eq_ok_iff.1 h
  · exact heq
  · rw [hcoercing] at hc
    exact coerce_false hc

theorem check_value_eq (shape : Shape) (value : Json) : (check rules shape value).value = value := by
  have hpart : ∀ (part : Option Shape) (value : Json),
      (∀ shape, (check rules shape value).value = value) → (checkPart rules part value).value = value := by
    rintro (_ | shape) value h
    · rfl
    · exact h shape
  have hscalar : ∀ value : Json, value.isScalar = true →
      ∀ shape, (check rules shape value).value = value := by
    intro value hv shape
    rw [check_scalar hv, withTarget_eq]
    cases h : targetOf rules shape value with
    | error cause => rfl
    | ok found => exact targetOf_value hcoercing h
  induction value using Json.induct generalizing shape with
  | null => rw [check_null]; rfl
  | bool b => exact hscalar _ rfl shape
  | number n => exact hscalar _ rfl shape
  | string s => exact hscalar _ rfl shape
  | array items ih =>
    cases h : targetOf rules shape (.array items) with
    | error cause => rw [check_of_error (by simp) h]
    | ok found =>
      obtain ⟨target, converted⟩ := found
      obtain rfl := targetOf_value hcoercing h
      rw [check_array h]
      refine congrArg Json.array ((List.map_congr_left fun item hitem => ?_).trans (List.map_id items))
      exact hpart target.items item (ih item hitem)
  | object members ih =>
    cases h : targetOf rules shape (.object members) with
    | error cause => rw [check_of_error (by simp) h]
    | ok found =>
      obtain ⟨target, converted⟩ := found
      obtain rfl := targetOf_value hcoercing h
      rw [check_object h]
      refine congrArg Json.object ((List.map_congr_left fun member hmember => ?_).trans (List.map_id members))
      exact Prod.ext rfl (hpart _ member.2 (ih member hmember))

end
/-! ### Shapes that say one thing -/

theorem accepts_free (value : Json) : (check rules {} value).failures = [] := by
  have ht : ∀ value, targetOf rules {} value = .ok ({}, value) := fun value =>
    targetOf_eq_ok_iff.2 ⟨resolve_of_kind_ne (by simp) _, .inl ⟨rfl, rfl⟩⟩
  cases value with
  | null => rw [check_null]; rfl
  | bool | number | string => exact (accepts_scalar_iff rfl).2 ⟨_, _, ht _, rfl, rfl⟩
  | array items => exact accepts_array_iff.2 ⟨_, ht _, rfl, rfl, fun _ _ => rfl⟩
  | object members => exact accepts_object_iff.2 ⟨_, ht _, rfl, rfl, rfl, fun _ _ _ => rfl⟩

variable (hcoercing : rules.coercing = false)
include hcoercing

theorem accepts_scalar_shape {scalar : Builtin} (hid : scalar ≠ .id) :
    (check rules (bareScalar scalar nullable) value).failures = [] ↔
      nullable = true ∧ value = .null ∨ scalar.typeName.holds true value = true := by
  have htarget : ∀ target converted, targetOf rules (bareScalar scalar nullable) value =
      .ok (target, converted) ↔ target = bareScalar scalar nullable ∧ value = converted ∧
        scalar.typeName.holds true value = true := by
    intro target converted
    rw [targetOf_kind_iff hcoercing rfl scalar.shapeKind_ne_ref, coerce_scalar hid]
    simp [and_comm]
  by_cases hv : value = .null
  · subst hv
    rw [accepts_null_iff rfl]
    cases scalar <;> simp [bareScalar, Builtin.typeName, JsonSchema.TypeName.holds]
  · constructor
    · intro h
      obtain ⟨target, converted, ht⟩ := targetOf_of_accepted hv h
      exact .inr ((htarget _ _).1 ht).2.2
    · rintro (⟨-, hnull⟩ | hholds)
      · exact absurd hnull hv
      · have hscalar : value.isScalar = true := by
          cases scalar <;> cases value <;> first | rfl | cases hholds
        refine (accepts_scalar_iff hscalar).2 ⟨_, _, (htarget _ _).2 ⟨rfl, rfl, hholds⟩, ?_, rfl⟩
        cases value <;> rfl

theorem accepts_enumeration_shape {values : List String} :
    (check rules (bareNames values nullable) value).failures = [] ↔
      nullable = true ∧ value = .null ∨ ∃ text ∈ values, value = .string text := by
  have hallowed : ∀ text, allowedCauses (bareNames values nullable) (.string text) = [] ↔
      text ∈ values := by
    intro text
    simp [bareNames, allowedCauses, causeAt, causeIf, Json.same]
  by_cases hv : value = .null
  · subst hv
    rw [accepts_null_iff rfl]
    simp [bareNames]
  · constructor
    · intro h
      obtain ⟨target, converted, ht⟩ := targetOf_of_accepted hv h
      obtain ⟨rfl, hc⟩ := (targetOf_kind_iff hcoercing rfl (by simp)).1 ht
      cases value with
      | string text =>
        obtain ⟨target, converted, ht, -, ha⟩ := (accepts_scalar_iff rfl).1 h
        obtain ⟨rfl, hc⟩ := (targetOf_kind_iff hcoercing rfl (by simp)).1 ht
        cases hc
        exact .inr ⟨text, (hallowed text).1 ha, rfl⟩
      | null | bool | number | array | object => cases hc
    · rintro (⟨-, hnull⟩ | ⟨text, htext, rfl⟩)
      · exact absurd hnull hv
      · refine (accepts_scalar_iff rfl).2 ⟨_, .string text, ?_, rfl, (hallowed text).2 htext⟩
        exact (targetOf_kind_iff hcoercing rfl (by simp)).2 ⟨rfl, rfl⟩

theorem accepts_list_shape :
    (check rules (bareList inner nullable) value).failures = [] ↔
      nullable = true ∧ value = .null ∨
        ∃ items, value = .array items ∧ ∀ item ∈ items, (check rules inner item).failures = [] := by
  by_cases hv : value = .null
  · subst hv
    rw [accepts_null_iff rfl]
    simp [bareList]
  · constructor
    · intro h
      obtain ⟨target, converted, ht⟩ := targetOf_of_accepted hv h
      obtain ⟨rfl, hc⟩ := (targetOf_kind_iff hcoercing rfl (by simp)).1 ht
      cases value with
      | array items =>
        obtain ⟨target, ht, -, -, hitems⟩ := accepts_array_iff.1 h
        obtain ⟨rfl, -⟩ := (targetOf_kind_iff hcoercing rfl (by simp)).1 ht
        exact .inr ⟨items, rfl, hitems⟩
      | null | bool | number | string | object => cases hc
    · rintro (⟨-, hnull⟩ | ⟨items, rfl, hitems⟩)
      · exact absurd hnull hv
      · refine accepts_array_iff.2 ⟨bareList inner nullable, ?_, rfl, rfl, hitems⟩
        exact (targetOf_kind_iff hcoercing rfl (by simp)).2 ⟨rfl, rfl⟩

end Shape

/-! ### Objects -/

/-- The shape of an object with the slots as its properties. -/
structure Shape.HasSlots (enumerations : Members (List String)) (slots : Members Position) (shape : Shape) :
    Prop where
  kind : shape.kind = some .object
  nullable : shape.nullable = false
  allowed : shape.allowed = none
  closed : shape.closed = false
  required : shape.required = requiredSlots (shapedSlots enumerations slots)
  properties : ∀ name, Members.get? shape.properties name =
    (Members.get? (shapedSlots enumerations slots) name).map (Position.bareShape enumerations)

/-- A table in which the name of every input object leads to an object with its fields. -/
def UnitTable.HasTypes (graph : TypeGraph) (table : UnitTable) : Prop :=
  ∀ name type, graph.find? name = some type → type.kind = .inputObject →
    ∃ shape, Members.get? table name = some shape ∧ shape.HasSlots graph.enumerations type.slots

namespace Shape

theorem hasSlots_of_read {inference : Inference} {shape : Shape} {idOf : String → String} {id : String}
    {slots : Members Position} (h : inference.IsPlain .native) (hd : (Members.names slots).Nodup)
    (hread : ofFragment (Dialect.native.tag (Dialect.native.object
      (inference.slotProperties idOf (shapedSlots inference.enumerations slots))
      (requiredSlots (shapedSlots inference.enumerations slots))) id) = .ok shape) :
    shape.HasSlots inference.enumerations slots := by
  have hnames : Members.names (inference.slotProperties idOf (shapedSlots inference.enumerations slots)) =
      Members.names (shapedSlots inference.enumerations slots) := by
    simp [Members.names, Inference.slotProperties]
  have hproperties := Narrows.object_properties (hnames ▸ nodup_shapedSlots hd) hread
  obtain ⟨final, -, rfl⟩ := ofFragment_object ((ofFragment_tag id).1 hread)
  refine ⟨rfl, rfl, rfl, rfl, rfl, fun name => ?_⟩
  have hproperty := hproperties name
  rw [Inference.slotProperties, Members.get?_mapEntries fun name position =>
    inference.dialect.tag (inference.bareFragment position) (idOf name)] at hproperty
  cases hslot : Members.get? (shapedSlots inference.enumerations slots) name with
  | none =>
    rw [hslot] at hproperty
    cases hfinal : Members.get? final name with
    | none => rfl
    | some property =>
      rw [hfinal] at hproperty
      cases hproperty
  | some position =>
    rw [hslot] at hproperty
    cases hfinal : Members.get? final name with
    | none =>
      rw [hfinal] at hproperty
      cases hproperty
    | some property =>
      rw [hfinal] at hproperty
      obtain ⟨hproperty⟩ := hproperty
      rw [h.dialect, ofFragment_tag, h.ofFragment_bareFragment] at hproperty
      cases hproperty
      rfl

variable {rules : CheckRules} {shape target unit : Shape} {value : Json} {nullable : Bool} {name : String}
  {members : Members Json} {enumerations : Members (List String)} {slots : Members Position}

def Accepts (rules : CheckRules) (enumerations : Members (List String)) (position : Position) (value : Json) :
    Prop :=
  (check rules (position.bareShape enumerations) value).failures = []

theorem accepts_slots_iff (hslots : target.HasSlots enumerations slots) (hd : (Members.names slots).Nodup)
    (ht : targetOf rules shape (.object members) = .ok (target, .object members)) :
    (check rules shape (.object members)).failures = [] ↔
      Fills enumerations (Accepts rules enumerations) slots members := by
  have hmissing : missingCauses target members = [] ↔ ∀ slot ∈ slots,
      slot.2.isShaped enumerations = true → slot.2.nonNull = true →
        Members.contains members slot.1 = true := by
    refine Iff.trans ?_ (forall_requiredSlots_iff (P := fun name => Members.contains members name = true))
    rw [← hslots.required]
    simp [missingCauses]
  constructor
  · intro h
    obtain ⟨_, hother, -, hrequired, -, hparts⟩ := accepts_object_iff.1 h
    cases ht.symm.trans hother
    refine ⟨hmissing.1 hrequired, fun slot hslot value hvalue => ?_⟩
    cases hshape : slot.2.isShaped enumerations with
    | false =>
      rw [Accepts, Position.bareShape_free hshape]
      exact accepts_free value
    | true =>
      have hpart := hparts slot.1 value hvalue
      rwa [hslots.properties, get?_shapedSlots hd hslot hshape] at hpart
  · intro h
    refine accepts_object_iff.2 ⟨target, ht, ?_, hmissing.2 h.present, ?_, fun name value hvalue => ?_⟩
    · rw [allowedCauses, hslots.allowed]; rfl
    · rw [unexpectedFailures, hslots.closed]; rfl
    · rw [hslots.properties]
      cases hslot : Members.get? (shapedSlots enumerations slots) name with
      | none => rfl
      | some position => exact h.admitted _ (mem_of_get?_shapedSlots hslot).1 value hvalue

theorem accepts_reference_shape (hunit : Members.get? rules.table name = some unit)
    (hslots : unit.HasSlots enumerations slots) (hd : (Members.names slots).Nodup) :
    (check rules (bareReference name nullable) value).failures = [] ↔
      nullable = true ∧ value = .null ∨
        ∃ members, value = .object members ∧
          Fills enumerations (Accepts rules enumerations) slots members := by
  have hresolve : resolve rules.table referenceLimit (bareReference name nullable) = .ok unit := by
    rw [referenceLimit, resolve_succ rfl hunit, resolve_of_kind_ne (by simp [hslots.kind])]
  by_cases hv : value = .null
  · subst hv
    rw [accepts_null_iff rfl]
    simp [bareReference]
  · constructor
    · intro h
      obtain ⟨target, converted, ht⟩ := targetOf_of_accepted hv h
      obtain ⟨rfl, hc⟩ := targetOf_resolved hresolve hslots.kind ht
      obtain ⟨members, rfl⟩ := coerce_eq_object hc
      obtain rfl := (targetOf_object ht).2
      exact .inr ⟨members, rfl, (accepts_slots_iff hslots hd ht).1 h⟩
    · rintro (⟨-, hnull⟩ | ⟨members, rfl, hfills⟩)
      · exact absurd hnull hv
      · refine (accepts_slots_iff hslots hd ?_).2 hfills
        exact targetOf_eq_ok_iff.2 ⟨hresolve, .inr ⟨.object, hslots.kind, rfl⟩⟩

section
variable {graph : TypeGraph} (hcoercing : rules.coercing = false) (htypes : rules.table.HasTypes graph)
  (hgraph : graph.SettlesInputs)
include hcoercing htypes hgraph

theorem rules_accepts : Fits.Rules graph (Accepts rules graph.enumerations) where
  free position value hshape := by
    rw [Accepts, Position.bareShape_free hshape]
    exact accepts_free value
  scalar name leaf nonNull scalar value hleaf hname hscalar := by
    rw [Accepts, Position.bareShape, if_neg hleaf, hname, ← Bool.not_eq_true']
    exact accepts_scalar_shape hcoercing hscalar
  enumeration name leaf nonNull values value hleaf hname hvalues := by
    rw [Accepts, Position.bareShape, if_neg hleaf, hname, hvalues, ← Bool.not_eq_true']
    exact accepts_enumeration_shape hcoercing
  list item nonNull value := by
    rw [Accepts, Position.bareShape, accepts_list_shape hcoercing, Bool.not_eq_true']
    rfl
  inputObject type nonNull value htype hinput := by
    obtain ⟨unit, hunit, hslots⟩ :=
      htypes _ type (TypeGraph.find?_eq_some_iff.2 ⟨htype, rfl⟩) hinput
    rw [Accepts, Position.bareShape, if_pos rfl,
      accepts_reference_shape hunit hslots (hgraph type htype hinput).1, Bool.not_eq_true']

/-- `check` without conversion obeys `Fits.Rules`, so it accepts the values that fit. -/
theorem accepts_iff_fits {position : Position} (hposition : graph.Settles position) :
    Accepts rules graph.enumerations position value ↔ Fits graph false position value :=
  (rules_accepts hcoercing htypes hgraph).iff_fits hgraph hposition

end

end Shape

end ArgGuard
