import ArgGuard.Proofs.Schema.Positions
import ArgGuard.Proofs.Shape.References

/-!
# Values that conform to their type

`Conforms` says which documents are values of a position, without shapes: a recursive reading of the
type in the graph. A check against a shape that `Describes` a position answers such a value if nothing
is wrong with it (`conforms_of_accepted`), provided that the units of input objects are objects whose
properties describe the fields (`DescribesTypes`). The induction is on the value, not on the type: the
value is finite, while an input object may refer to itself.
-/

namespace ArgGuard

/-- The values of a built-in scalar. A whole number is an identifier only as long as scalars are not
converted. -/
def Builtin.Admits (coercing : Bool) : Builtin → Json → Prop
  | int, .number n => n.isIntegral = true
  | float, .number _ => True
  | string, .string _ => True
  | boolean, .bool _ => True
  | id, .string _ => True
  | id, .number n => coercing = false ∧ n.isIntegral = true
  | _, _ => False

/-- A value of a position. Of an object only the fields count whose leaf is a built-in scalar, an
enumeration or an input object. -/
inductive Conforms (graph : TypeGraph) (coercing : Bool) : Position → Json → Prop
  | null {position : Position} (hnullable : position.nullable = true) :
      Conforms graph coercing position .null
  | scalar {name : String} {scalar : Builtin} {nonNull : Bool} {value : Json}
      (hadmits : scalar.Admits coercing value) :
      Conforms graph coercing (.named name (.builtin scalar) nonNull) value
  | enumeration {name : String} {nonNull : Bool} {text : String} :
      Conforms graph coercing (.named name .enumeration nonNull) (.string text)
  | list {item : Position} {nonNull : Bool} {items : List Json}
      (hitems : ∀ value ∈ items, Conforms graph coercing item value) :
      Conforms graph coercing (.list item nonNull) (.array items)
  | inputObject {name : String} {nonNull : Bool} {type : GraphType} {members : Members Json}
      (htype : graph.find? name = some type) (hinput : type.kind = .inputObject)
      (hpresent : ∀ field ∈ type.fields, field.position.leaf.isTyped = true →
        field.position.nonNull = true → Members.contains members field.name = true)
      (hfields : ∀ field ∈ type.fields, field.position.leaf.isTyped = true →
        ∀ value, Members.get? members field.name = some value →
          Conforms graph coercing field.position value) :
      Conforms graph coercing (.named name .inputObject nonNull) (.object members)

/-- A shape that requires a property as its position asks, and describes it. -/
structure Expects (graph : TypeGraph) (shape : Shape) (position : Position) (name : String) : Prop where
  required : position.nonNull = true → name ∈ shape.required
  property : ∃ property, Members.get? shape.properties name = some property ∧
    Describes graph position property

/-- A table in which the name of an input object leads to an object that expects its fields. -/
def DescribesTypes (graph : TypeGraph) (table : UnitTable) : Prop :=
  ∀ name type shape, graph.find? name = some type → type.kind = .inputObject →
    Members.get? table name = some shape → shape.kind = some .object ∧
      ∀ field ∈ type.fields, field.position.leaf.isTyped = true →
        Expects graph shape field.position field.name

namespace Shape

variable {graph : TypeGraph} {rules : CheckRules} {shape target next : Shape} {value converted : Json}
  {position : Position} {kind : ShapeKind}

/-! ### What is taken -/

theorem coerce_eq_array {coercing : Bool} (h : coerce coercing .array value = some converted) :
    ∃ items, value = .array items := by
  cases value with
  | array items => exact ⟨items, rfl⟩
  | null | bool | number | string | object => cases coercing <;> cases h

theorem coerce_eq_object {coercing : Bool} (h : coerce coercing .object value = some converted) :
    ∃ members, value = .object members := by
  cases value with
  | object members => exact ⟨members, rfl⟩
  | null | bool | number | string | array => cases coercing <;> cases h

theorem coerce_eq_string {coercing : Bool} (h : coerce coercing .string value = some converted) :
    ∃ text, converted = .string text := by
  have hsettled := coerce_coerce h
  cases converted <;> simp_all [coerce, convert, Json.toText?]

theorem admits_of_coerce {scalar : Builtin} {coercing : Bool}
    (h : coerce coercing scalar.shapeKind value = some converted) : scalar.Admits coercing converted := by
  replace h := coerce_coerce h
  cases scalar <;> cases converted <;> cases coercing <;>
    simp [coerce, convert, Builtin.shapeKind, Builtin.Admits, Json.toText?, Json.toInteger?,
      Json.toNumber?, Json.toBoolean?, Json.ofBool, Json.ofInt] at h ⊢
  all_goals grind

theorem targetOf_resolved (hr : resolve rules.table referenceLimit shape = .ok next)
    (hk : next.kind = some kind) (h : targetOf rules shape value = .ok (target, converted)) :
    target = next ∧ coerce rules.coercing kind value = some converted := by
  obtain ⟨hresolve, hcoerce⟩ := targetOf_eq_ok_iff.1 h
  cases hr.symm.trans hresolve
  rcases hcoerce with ⟨hnone, -⟩ | ⟨other, hother, hcoerce⟩
  · rw [hk] at hnone; cases hnone
  · cases hk.symm.trans hother
    exact ⟨rfl, hcoerce⟩

theorem targetOf_kind (hk : shape.kind = some kind) (hne : kind ≠ .ref)
    (h : targetOf rules shape value = .ok (target, converted)) :
    target = shape ∧ coerce rules.coercing kind value = some converted :=
  targetOf_resolved (resolve_of_kind_ne (by rw [hk]; simpa using hne) _) hk h

/-- A reference to an input object is taken as the unit of the type, and only by an object. -/
theorem targetOf_inputObject {name : String} {type : GraphType}
    (htypes : DescribesTypes graph rules.table) (hkind : shape.kind = some .ref)
    (htarget : shape.target = some name) (htype : graph.find? name = some type)
    (hinput : type.kind = .inputObject) (h : targetOf rules shape value = .ok (target, converted)) :
    (∃ members, value = .object members) ∧ ∀ field ∈ type.fields,
      field.position.leaf.isTyped = true → Expects graph target field.position field.name := by
  cases hn : Members.get? rules.table (shape.target.getD "") with
  | none =>
    have hr := targetOf_resolve h
    rw [resolve_of_missing hkind hn] at hr
    cases hr
  | some next =>
    obtain ⟨hnext, hfields⟩ := htypes name type next htype hinput (by rwa [htarget] at hn)
    have hr : resolve rules.table referenceLimit shape = .ok next := by
      rw [referenceLimit, resolve_succ hkind hn, resolve_of_kind_ne (by rw [hnext]; simp)]
    obtain ⟨rfl, hcoerce⟩ := targetOf_resolved hr hnext h
    exact ⟨coerce_eq_object hcoerce, hfields⟩

theorem check_scalar_value (hv : value.isScalar = true)
    (h : targetOf rules shape value = .ok (target, converted)) :
    (check rules shape value).value = converted := by
  rw [check_scalar hv, withTarget_eq, h]; rfl

/-! ### The members of an accepted object -/

section
variable {members : Members Json} {name : String}
  (h : (check rules shape (.object members)).failures = [])
  (ht : targetOf rules shape (.object members) = .ok (target, .object members))
include h ht

theorem required_of_accepted (hrequired : name ∈ target.required) :
    Members.contains members name = true := by
  obtain ⟨other, hother, -, hmissing, -⟩ := accepts_object_iff.1 h
  cases ht.symm.trans hother
  rw [missingCauses, List.map_eq_nil_iff, List.filter_eq_nil_iff] at hmissing
  simpa using hmissing name hrequired

theorem member_of_accepted {property : Shape} (hp : Members.get? target.properties name = some property)
    (hv : Members.get? members name = some value) : (check rules property value).failures = [] := by
  obtain ⟨other, hother, -, -, -, hparts⟩ := accepts_object_iff.1 h
  cases ht.symm.trans hother
  have hpart := hparts name value hv
  rw [hp] at hpart
  exact hpart

end

theorem check_object_value {members : Members Json}
    (ht : targetOf rules shape (.object members) = .ok (target, .object members)) :
    ∃ answers, (check rules shape (.object members)).value = .object answers ∧ ∀ name,
      Members.get? answers name = (Members.get? members name).map fun value =>
        (checkPart rules (Members.get? target.properties name) value).value := by
  rw [check_object ht]
  exact ⟨_, rfl, Members.get?_mapEntries fun name value =>
    (checkPart rules (Members.get? target.properties name) value).value⟩

/-- What a shape `Expects` of a member is what the answer holds. -/
theorem answered_of_expects {members answers : Members Json} {name : String}
    (hexpects : Expects graph target position name)
    (h : (check rules shape (.object members)).failures = [])
    (ht : targetOf rules shape (.object members) = .ok (target, .object members))
    (hanswers : ∀ name, Members.get? answers name = (Members.get? members name).map fun value =>
      (checkPart rules (Members.get? target.properties name) value).value)
    (hconforms : ∀ value property, Members.get? members name = some value →
      Describes graph position property → (check rules property value).failures = [] →
        Conforms graph rules.coercing position (check rules property value).value) :
    (position.nonNull = true → Members.contains answers name = true) ∧
      ∀ value, Members.get? answers name = some value →
        Conforms graph rules.coercing position value := by
  constructor
  · intro hp
    rw [Members.contains, hanswers, Option.isSome_map]
    exact required_of_accepted h ht (hexpects.required hp)
  · intro value hv
    rw [hanswers, Option.map_eq_some_iff] at hv
    obtain ⟨old, hold, rfl⟩ := hv
    obtain ⟨property, hproperty, hdescribes⟩ := hexpects.property
    rw [hproperty]
    exact hconforms old property hold hdescribes (member_of_accepted h ht hproperty hold)

theorem object_of_accepted (hk : shape.kind = some .object) (hn : shape.nullable = false)
    (h : (check rules shape value).failures = []) :
    ∃ members, value = .object members ∧
      targetOf rules shape (.object members) = .ok (shape, .object members) := by
  cases value with
  | object members =>
    obtain ⟨target, ht, -⟩ := accepts_object_iff.1 h
    obtain ⟨rfl, -⟩ := targetOf_kind hk (by simp) ht
    exact ⟨members, rfl, ht⟩
  | null => simp [checkNull, causeIf, hk, hn] at h
  | array items =>
    obtain ⟨target, ht, -⟩ := accepts_array_iff.1 h
    cases (coerce_array (targetOf_kind hk (by simp) ht).2).1
  | bool | number | string =>
    obtain ⟨target, converted, ht, -⟩ := (accepts_scalar_iff rfl).1 h
    obtain ⟨members, hm⟩ := coerce_eq_object (targetOf_kind hk (by simp) ht).2
    cases hm

/-! ### Conformance -/

theorem conforms_of_accepted_scalar (htypes : DescribesTypes graph rules.table)
    (hdescribes : Describes graph position shape) (hv : value.isScalar = true)
    (h : (check rules shape value).failures = []) :
    Conforms graph rules.coercing position (check rules shape value).value := by
  obtain ⟨target, converted, ht, -, -⟩ := (accepts_scalar_iff hv).1 h
  rw [check_scalar_value hv ht]
  cases hdescribes with
  | @scalar _ scalar _ _ hkind _ =>
    exact .scalar (admits_of_coerce (targetOf_kind hkind scalar.shapeKind_ne_ref ht).2)
  | enumeration hkind _ =>
    obtain ⟨text, rfl⟩ := coerce_eq_string (targetOf_kind hkind (by simp) ht).2
    exact .enumeration
  | inputObject hkind _ htarget htype hinput =>
    obtain ⟨⟨members, rfl⟩, -⟩ := targetOf_inputObject htypes hkind htarget htype hinput ht
    cases hv
  | list hkind _ _ _ =>
    obtain ⟨items, rfl⟩ := coerce_eq_array (targetOf_kind hkind (by simp) ht).2
    cases hv

/-- By induction on the value, through `Describes` of the items of a list and of the fields of an input
object. -/
theorem conforms_of_accepted (htypes : DescribesTypes graph rules.table)
    (hdescribes : Describes graph position shape) (h : (check rules shape value).failures = []) :
    Conforms graph rules.coercing position (check rules shape value).value := by
  induction value using Json.induct generalizing position shape with
  | null =>
    rw [check_null] at h ⊢
    refine .null (hdescribes.nullable ▸ ?_)
    simpa [checkNull, causeIf, hdescribes.kind_isSome] using h
  | bool b => exact conforms_of_accepted_scalar htypes hdescribes rfl h
  | number n => exact conforms_of_accepted_scalar htypes hdescribes rfl h
  | string s => exact conforms_of_accepted_scalar htypes hdescribes rfl h
  | array items ih =>
    obtain ⟨target, ht, -, -, hitems⟩ := accepts_array_iff.1 h
    cases hdescribes with
    | @scalar _ scalar _ _ hkind _ =>
      have hcoerce := (targetOf_kind hkind scalar.shapeKind_ne_ref ht).2
      cases scalar <;> cases (coerce_array hcoerce).1
    | enumeration hkind _ => cases (coerce_array (targetOf_kind hkind (by simp) ht).2).1
    | inputObject hkind _ htarget htype hinput =>
      obtain ⟨⟨members, hm⟩, -⟩ := targetOf_inputObject htypes hkind htarget htype hinput ht
      cases hm
    | list hkind _ hshape hinner =>
      obtain ⟨rfl, -⟩ := targetOf_kind hkind (by simp) ht
      rw [check_array ht, hshape]
      rw [hshape] at hitems
      refine .list fun answer hanswer => ?_
      obtain ⟨item, hitem, rfl⟩ := List.mem_map.1 hanswer
      exact ih item hitem hinner (hitems item hitem)
  | object members ih =>
    obtain ⟨target, ht, -⟩ := accepts_object_iff.1 h
    cases hdescribes with
    | @scalar _ scalar _ _ hkind _ =>
      have hcoerce := (targetOf_kind hkind scalar.shapeKind_ne_ref ht).2
      cases scalar <;> cases (coerce_object hcoerce).1
    | enumeration hkind _ => cases (coerce_object (targetOf_kind hkind (by simp) ht).2).1
    | list hkind _ _ _ => cases (coerce_object (targetOf_kind hkind (by simp) ht).2).1
    | inputObject hkind _ htarget htype hinput =>
      obtain ⟨-, hexpects⟩ := targetOf_inputObject htypes hkind htarget htype hinput ht
      obtain ⟨answers, hvalue, hanswers⟩ := check_object_value ht
      -- a field may have the same type again, but its value is a part of this one
      have hmember := fun (field : GraphField) hfield htyped =>
        answered_of_expects (hexpects field hfield htyped) h ht hanswers
          fun value property hv hdescribes hf => ih _ (Members.mem_of_get? hv) hdescribes hf
      rw [hvalue]
      exact .inputObject htype hinput (fun field hfield htyped => (hmember field hfield htyped).1)
        fun field hfield htyped => (hmember field hfield htyped).2

end Shape

end ArgGuard
