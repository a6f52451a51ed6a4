import ArgGuard.Proofs.Schema.Positions
import ArgGuard.Proofs.Shape.References

/-!
# Shapes that admit less

A shape restricts another one if both are the same, or if they ask for the same kinds and the other
one asks for nothing more: no limits, no allowed values, no closed properties. Whatever the value, both
convert it alike, and where the first one finds nothing wrong the second one does not either
(`Restricts.check`). The units that references lead to may differ in
the same way, which `CheckRules.Loosens` says of two sets of rules. The induction is on the value: a
reference may lead back to the shape it stands in, but only with a part of the value.
-/

namespace ArgGuard

theorem Builtin.shapeKind_ne_array (scalar : Builtin) : scalar.shapeKind ≠ .array := by
  cases scalar <;> simp [shapeKind]

theorem Builtin.shapeKind_ne_object (scalar : Builtin) : scalar.shapeKind ≠ .object := by
  cases scalar <;> simp [shapeKind]

/-- A shape that admits no more than another one, which asks for nothing but kinds, the presence of
properties, and what stands below them. -/
inductive Shape.Restricts : Shape → Shape → Prop
  | refl (shape : Shape) : Restricts shape shape
  | scalar {shape : Shape} {scalar : Builtin} {nullable : Bool}
      (hkind : shape.kind = some scalar.shapeKind) (hnullable : shape.nullable = nullable) :
      Restricts shape { kind := some scalar.shapeKind, nullable := nullable }
  | array {shape inner items : Shape} {nullable : Bool} (hkind : shape.kind = some .array)
      (hnullable : shape.nullable = nullable) (hitems : shape.items = some inner)
      (hinner : Restricts inner items) :
      Restricts shape { kind := some .array, nullable := nullable, items := some items }
  | object {shape : Shape} {nullable : Bool} {properties : Members Shape} {required : List String}
      (hkind : shape.kind = some .object) (hnullable : shape.nullable = nullable)
      (hrequired : ∀ name ∈ required, name ∈ shape.required)
      (hproperties : ∀ name, Option.Rel Restricts (Members.get? shape.properties name)
        (Members.get? properties name)) :
      Restricts shape
        { kind := some .object, nullable := nullable, properties := properties, required := required }

/-- Rules under which every unit admits at least what it admits under others. -/
structure CheckRules.Loosens (free rules : CheckRules) : Prop where
  coercing : free.coercing = rules.coercing
  units : ∀ id, Option.Rel Shape.Restricts (Members.get? rules.table id) (Members.get? free.table id)

theorem CheckRules.Loosens.unit {free rules : CheckRules} (h : free.Loosens rules) (id : String) :
    Members.get? rules.table id = none ∧ Members.get? free.table id = none ∨
      ∃ unit other, Members.get? rules.table id = some unit ∧ Members.get? free.table id = some other ∧
        unit.Restricts other := by
  have hunits := h.units id
  cases hu : Members.get? rules.table id <;> cases hv : Members.get? free.table id <;>
    rw [hu, hv] at hunits <;> cases hunits
  · exact .inl ⟨rfl, rfl⟩
  · rename_i hunit
    exact .inr ⟨_, _, rfl, rfl, hunit⟩

namespace Shape

namespace Restricts

variable {rules free : CheckRules} {shape other target : Shape} {value : Json}

theorem kind (h : shape.Restricts other) : other.kind = shape.kind := by
  cases h with
  | refl => rfl
  | scalar hkind | array hkind | object hkind => exact hkind.symm

theorem nullable (h : shape.Restricts other) : other.nullable = shape.nullable := by
  cases h with
  | refl => rfl
  | scalar _ hnullable | array _ hnullable | object _ hnullable => exact hnullable.symm

theorem eq_of_kind_ref (h : shape.Restricts other) (hk : shape.kind = some .ref) : other = shape := by
  cases h with
  | refl => rfl
  | scalar hkind => exact absurd (Option.some.inj (hkind.symm.trans hk)) (Builtin.shapeKind_ne_ref _)
  | array hkind | object hkind => cases hkind.symm.trans hk

theorem rel_refl : ∀ part : Option Shape, Option.Rel Restricts part part
  | none => .none
  | some shape => .some (.refl shape)

/-- A scalar has no items to compare, but it does not take an array either. -/
theorem items (h : target.Restricts other) (hk : target.kind = none ∨ target.kind = some .array) :
    Option.Rel Restricts target.items other.items := by
  cases h with
  | refl => exact rel_refl _
  | array hkind hnullable hitems hinner => exact hitems ▸ .some hinner
  | scalar hkind => simp [hkind, Builtin.shapeKind_ne_array] at hk
  | object hkind => simp [hkind] at hk

theorem properties (h : target.Restricts other) (hk : target.kind = none ∨ target.kind = some .object)
    (name : String) : Option.Rel Restricts (Members.get? target.properties name)
      (Members.get? other.properties name) := by
  cases h with
  | refl => exact rel_refl _
  | object hkind hnullable hrequired hproperties => exact hproperties name
  | scalar hkind => simp [hkind, Builtin.shapeKind_ne_object] at hk
  | array hkind => simp [hkind] at hk

/-! ### What is taken -/

theorem resolve_of_kind_ne {hops : Nat} (h : shape.Restricts other) (hk : shape.kind ≠ some .ref) :
    ∃ target next, shape.resolve rules.table hops = .ok target ∧
      other.resolve free.table hops = .ok next ∧ target.Restricts next :=
  ⟨shape, other, Shape.resolve_of_kind_ne hk _, Shape.resolve_of_kind_ne (h.kind ▸ hk) _, h⟩

theorem resolve (hfree : free.Loosens rules) (hops : Nat) (h : shape.Restricts other) :
    (∃ cause, shape.resolve rules.table hops = .error cause ∧
        other.resolve free.table hops = .error cause) ∨
      ∃ target next, shape.resolve rules.table hops = .ok target ∧
        other.resolve free.table hops = .ok next ∧ target.Restricts next := by
  induction hops generalizing shape other with
  | zero =>
    by_cases hk : shape.kind = some .ref
    · obtain rfl := h.eq_of_kind_ref hk
      rcases hfree.unit (other.target.getD "") with ⟨hu, hv⟩ | ⟨unit, next, hu, hv, -⟩
      · exact .inl ⟨_, resolve_of_missing hk hu _, resolve_of_missing hk hv _⟩
      · exact .inl ⟨_, resolve_zero hk hu, resolve_zero hk hv⟩
    · exact .inr (h.resolve_of_kind_ne hk)
  | succ hops ih =>
    by_cases hk : shape.kind = some .ref
    · obtain rfl := h.eq_of_kind_ref hk
      rcases hfree.unit (other.target.getD "") with ⟨hu, hv⟩ | ⟨unit, next, hu, hv, hunit⟩
      · exact .inl ⟨_, resolve_of_missing hk hu _, resolve_of_missing hk hv _⟩
      · rw [resolve_succ hk hu, resolve_succ hk hv]
        exact ih hunit
    · exact .inr (h.resolve_of_kind_ne hk)

/-- Both `targetOf` fail with the same cause, or both take the value, converted alike. -/
theorem targetOf (hfree : free.Loosens rules) (h : shape.Restricts other) (value : Json) :
    (∃ cause, shape.targetOf rules value = .error cause ∧
        Shape.targetOf free other value = .error cause) ∨
      ∃ target next converted, Shape.targetOf rules shape value = .ok (target, converted) ∧
        Shape.targetOf free other value = .ok (next, converted) ∧ target.Restricts next := by
  unfold Shape.targetOf
  rcases h.resolve hfree referenceLimit with ⟨cause, hr, hs⟩ | ⟨target, next, hr, hs, hnext⟩
  · exact .inl ⟨cause, by rw [hr], by rw [hs]⟩
  · rw [hr, hs, hfree.coercing]
    simp only [hnext.kind]
    cases target.kind with
    | none => exact .inr ⟨target, next, value, rfl, rfl, hnext⟩
    | some kind =>
      dsimp only
      cases coerce rules.coercing kind value with
      | none => exact .inl ⟨_, rfl, rfl⟩
      | some converted => exact .inr ⟨target, next, converted, rfl, rfl, hnext⟩

/-! ### What is wrong with a value -/

theorem scalarCauses (h : target.Restricts other) (hc : Shape.scalarCauses target value = []) :
    Shape.scalarCauses other value = [] := by
  cases h with
  | refl => exact hc
  | scalar | array | object => cases value <;> rfl

theorem allowedCauses (h : target.Restricts other) (hc : Shape.allowedCauses target value = []) :
    Shape.allowedCauses other value = [] := by
  cases h with
  | refl => exact hc
  | scalar | array | object => rfl

theorem arrayCauses {items : List Json} (h : target.Restricts other)
    (hc : Shape.arrayCauses target items = []) : Shape.arrayCauses other items = [] := by
  cases h with
  | refl => exact hc
  | scalar | array | object => rfl

theorem missingCauses {members : Members Json} (h : target.Restricts other)
    (hc : Shape.missingCauses target members = []) : Shape.missingCauses other members = [] := by
  cases h with
  | refl => exact hc
  | scalar | array => rfl
  | object hkind hnullable hrequired =>
    simp only [Shape.missingCauses, List.map_eq_nil_iff, List.filter_eq_nil_iff] at hc ⊢
    exact fun name hname => hc name (hrequired name hname)

theorem unexpectedFailures {members : Members Json} (h : target.Restricts other)
    (hc : Shape.unexpectedFailures target members = []) :
    Shape.unexpectedFailures other members = [] := by
  cases h with
  | refl => exact hc
  | scalar | array | object => rfl

/-! ### The whole check -/

/-- Of two checks the second one has the same answer and finds nothing wrong if the first one does not. -/
def Relaxed (checked other : Checked) : Prop :=
  other.value = checked.value ∧ (checked.failures = [] → other.failures = [])

theorem checkPart {part otherPart : Option Shape} (h : Option.Rel Restricts part otherPart)
    (hcheck : ∀ shape other, shape.Restricts other →
      Relaxed (Shape.check rules shape value) (Shape.check free other value)) :
    Relaxed (Shape.checkPart rules part value) (Shape.checkPart free otherPart value) := by
  cases h with
  | none => exact ⟨rfl, id⟩
  | some h => exact hcheck _ _ h

theorem check_scalar (hfree : free.Loosens rules) (h : shape.Restricts other)
    (hv : value.isScalar = true) :
    Relaxed (Shape.check rules shape value) (Shape.check free other value) := by
  rw [Shape.check_scalar hv, Shape.check_scalar hv, withTarget_eq, withTarget_eq]
  rcases h.targetOf hfree value with ⟨cause, hr, hs⟩ | ⟨target, next, converted, hr, hs, hnext⟩
  · rw [hr, hs]; exact ⟨rfl, id⟩
  · rw [hr, hs]
    refine ⟨rfl, fun hf => ?_⟩
    simp only [checkScalar, List.map_eq_nil_iff, List.append_eq_nil_iff] at hf ⊢
    exact ⟨hnext.scalarCauses hf.1, hnext.allowedCauses hf.2⟩

/-- By induction on the value: the looser check answers the same, and finds nothing wrong where the stricter
one does not (`Relaxed`). -/
theorem check (hfree : free.Loosens rules) (h : shape.Restricts other) (value : Json) :
    Relaxed (Shape.check rules shape value) (Shape.check free other value) := by
  induction value using Json.induct generalizing shape other with
  | null =>
    rw [check_null, check_null, checkNull, checkNull, h.kind, h.nullable]
    exact ⟨rfl, id⟩
  | bool b => exact h.check_scalar hfree rfl
  | number n => exact h.check_scalar hfree rfl
  | string s => exact h.check_scalar hfree rfl
  | array items ih =>
    rcases h.targetOf hfree (.array items) with ⟨cause, hr, hs⟩ | ⟨target, next, _, hr, hs, hnext⟩
    · rw [check_of_error (by simp) hr, check_of_error (by simp) hs]; exact ⟨rfl, id⟩
    · obtain ⟨hk, rfl⟩ := targetOf_array hr
      have hpart : ∀ item ∈ items, Relaxed (Shape.checkPart rules target.items item)
          (Shape.checkPart free next.items item) := fun item hitem =>
        checkPart (hnext.items hk) fun _ _ h => ih item hitem h
      rw [check_array hr, check_array hs]
      refine ⟨congrArg Json.array (List.map_congr_left fun item hitem => (hpart item hitem).1), ?_⟩
      simp only [List.append_eq_nil_iff, List.map_eq_nil_iff, itemFailures_eq_nil_iff]
      rintro ⟨⟨ha, hw⟩, hi⟩
      exact ⟨⟨hnext.allowedCauses ha, hnext.arrayCauses hw⟩,
        fun item hitem => (hpart item hitem).2 (hi item hitem)⟩
  | object members ih =>
    rcases h.targetOf hfree (.object members) with ⟨cause, hr, hs⟩ | ⟨target, next, _, hr, hs, hnext⟩
    · rw [check_of_error (by simp) hr, check_of_error (by simp) hs]; exact ⟨rfl, id⟩
    · obtain ⟨hk, rfl⟩ := targetOf_object hr
      have hpart : ∀ member ∈ members,
          Relaxed (Shape.checkPart rules (Members.get? target.properties member.1) member.2)
            (Shape.checkPart free (Members.get? next.properties member.1) member.2) :=
        fun member hmember => checkPart (hnext.properties hk member.1) fun _ _ h => ih member hmember h
      rw [check_object hr, check_object hs]
      refine ⟨congrArg Json.object (List.map_congr_left fun member hmember => by
        rw [(hpart member hmember).1]), ?_⟩
      simp only [List.append_eq_nil_iff, List.map_eq_nil_iff, memberFailures_eq_nil_iff]
      rintro ⟨⟨⟨ha, hm⟩, hp⟩, hu⟩
      exact ⟨⟨⟨hnext.allowedCauses ha, hnext.missingCauses hm⟩, fun name value hv =>
        (hpart _ (Members.mem_of_get? hv)).2 (hp name value hv)⟩, hnext.unexpectedFailures hu⟩

end Restricts

end Shape

end ArgGuard
