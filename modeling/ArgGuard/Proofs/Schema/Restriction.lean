import ArgGuard.Proofs.Schema.Bare
import ArgGuard.Proofs.Schema.Positions
import ArgGuard.Proofs.Shape.Restriction

/-!
# Fragments that admit less

Without an override the fragment of a built-in scalar, of a list or of an object says nothing but kinds,
nullability and what stands below; `ofFragment_primitive`, `ofFragment_array` and `ofFragment_object`
give the whole shape that is read from it. An override keeps the kinds and the nullability of a scalar
and of the lists around it, so the shape that is read then restricts the one without
(`synthesize_narrows`), and objects whose properties restrict each other restrict each other
(`Narrows.object`).
-/

namespace ArgGuard

namespace Shape

variable {fragment : Fragment} {before after shape : Shape}

theorem takeKeys_tag (value : Json) :
    takeKeys (Members.set fragment "$id" value) before = .ok after ↔
      takeKeys fragment before = .ok after := by
  induction fragment generalizing before with
  | nil =>
    rw [Members.set, takeKeys_cons_eq_ok_iff, takeKey_scalar (by decide) (by decide)]
    constructor
    · rintro ⟨mid, hmid, h⟩
      cases hmid
      exact h
    · exact fun h => ⟨before, rfl, h⟩
  | cons head rest ih =>
    obtain ⟨key, old⟩ := head
    rw [Members.set]
    split
    · rename_i hk
      subst hk
      rw [takeKeys_cons_eq_ok_iff, takeKeys_cons_eq_ok_iff, takeKey_scalar (by decide) (by decide),
        takeKey_scalar (by decide) (by decide)]
      rfl
    · rw [takeKeys_cons_eq_ok_iff, takeKeys_cons_eq_ok_iff]
      simp only [ih]

theorem ofFragment_tag (id : String) :
    ofFragment (Dialect.native.tag fragment id) = .ok shape ↔ ofFragment fragment = .ok shape := by
  rw [Dialect.tag, ofFragment_eq_ok_iff, ofFragment_eq_ok_iff]
  simp only [Dialect.tagKey, takeKeys_tag]

theorem ofFragment_primitive (scalar : Builtin) (nullable : Bool) :
    ofFragment (Dialect.native.primitive scalar nullable) =
      .ok { kind := some scalar.shapeKind, nullable := nullable } := by
  refine ofFragment_eq_ok_iff.2 ⟨{ kind := some scalar.shapeKind, nullable := nullable }, ?_, ?_⟩
  · cases scalar <;>
      exact takeKeys_cons_eq_ok_iff.2 ⟨_, rfl, takeKeys_cons_eq_ok_iff.2 ⟨_, rfl, rfl⟩⟩
  · cases scalar <;> rfl

theorem ofFragment_array {items : Fragment} {nullable : Bool}
    (h : ofFragment (Dialect.native.array items nullable) = .ok shape) :
    ∃ inner, ofFragment items = .ok inner ∧
      shape = { kind := some .array, nullable := nullable, items := some inner } := by
  obtain ⟨taken, htaken, hs⟩ := ofFragment_eq_ok_iff.1 h
  obtain ⟨_, hkind, hrest⟩ := takeKeys_cons_eq_ok_iff.1 htaken
  cases hkind
  obtain ⟨_, hnullable, hlast⟩ := takeKeys_cons_eq_ok_iff.1 hrest
  cases hnullable
  obtain ⟨_, hitems, hnil⟩ := takeKeys_cons_eq_ok_iff.1 hlast
  obtain ⟨_, inner, heq, hinner, rfl⟩ := takeKey_items hitems
  cases heq; cases hnil; cases hs
  exact ⟨inner, hinner, rfl⟩

theorem ofFragment_object {properties : Members Fragment} {required : List String}
    (h : ofFragment (Dialect.native.object properties required) = .ok shape) :
    ∃ final, Added (properties.map fun entry => (entry.1, .object entry.2)) [] final ∧
      shape = { kind := some .object, properties := final, required := required } := by
  obtain ⟨taken, htaken, hs⟩ := ofFragment_eq_ok_iff.1 h
  obtain ⟨_, hkind, hrest⟩ := takeKeys_cons_eq_ok_iff.1 htaken
  cases hkind
  obtain ⟨_, hnullable, hrest'⟩ := takeKeys_cons_eq_ok_iff.1 hrest
  cases hnullable
  obtain ⟨_, hproperties, hlast⟩ := takeKeys_cons_eq_ok_iff.1 hrest'
  obtain ⟨_, final, heq, hfinal, rfl⟩ := takeKey_properties hproperties
  cases heq
  obtain ⟨last, hrequired, hnil⟩ := takeKeys_cons_eq_ok_iff.1 hlast
  cases hnil
  rw [takeKey_scalar (by decide) (by decide)] at hrequired
  simp only [setScalar, bind_eq_ok_iff, expect_eq_ok_iff, pure, Except.pure, Except.ok.injEq] at hrequired
  obtain ⟨items, -, names, -, rfl⟩ := hrequired
  have hnames : shape.required = required :=
    ofFragment_required (Declares.object properties required).nodup h rfl
  cases hs
  exact ⟨final, hfinal, hnames ▸ rfl⟩

end Shape

/-- Whatever shape is read from the first fragment restricts the one that is read from the second. -/
def Narrows (fragment plain : Fragment) : Prop :=
  ∀ shape other, Shape.ofFragment fragment = .ok shape → Shape.ofFragment plain = .ok other →
    shape.Restricts other

namespace Narrows

variable {fragment plain : Fragment}

theorem refl (fragment : Fragment) : Narrows fragment fragment := by
  intro shape other hshape hother
  cases hshape.symm.trans hother
  exact .refl shape

theorem tag (h : Narrows fragment plain) (id : String) :
    Narrows (Dialect.native.tag fragment id) (Dialect.native.tag plain id) :=
  fun shape other hshape hother =>
    h shape other ((Shape.ofFragment_tag id).1 hshape) ((Shape.ofFragment_tag id).1 hother)

theorem primitive {scalar : Builtin} {nullable : Bool}
    (h : Declares fragment scalar.shapeKind nullable) :
    Narrows fragment (Dialect.native.primitive scalar nullable) := by
  intro shape other hshape hother
  rw [Shape.ofFragment_primitive] at hother
  cases hother
  exact .scalar (h.shape_kind hshape) (h.shape_nullable hshape)

theorem array {items plainItems : Fragment} {nullable : Bool} (h : Declares fragment .array nullable)
    (hitems : Members.get? fragment "items" = some (.object items)) (hinner : Narrows items plainItems) :
    Narrows fragment (Dialect.native.array plainItems nullable) := by
  intro shape other hshape hother
  obtain ⟨otherItems, hplain, rfl⟩ := Shape.ofFragment_array hother
  obtain ⟨inner, hread, hinner'⟩ := Shape.ofFragment_items h.nodup hshape hitems
  exact .array (h.shape_kind hshape) (h.shape_nullable hshape) hinner' (hinner _ _ hread hplain)

theorem object_properties {properties : Members Fragment} {required : List String} {id : String}
    {shape : Shape} (hd : (Members.names properties).Nodup)
    (hread : Shape.ofFragment (Dialect.native.tag (Dialect.native.object properties required) id) =
      .ok shape) (name : String) :
    Option.Rel (fun fragment property => Shape.ofFragment fragment = .ok property)
      (Members.get? properties name) (Members.get? shape.properties name) := by
  cases hproperty : Members.get? properties name with
  | some fragment =>
    obtain ⟨property, hfound, hproperty⟩ := object_property hread hd hproperty
    rw [hfound]
    exact .some hproperty
  | none =>
    obtain ⟨final, hadded, hshape⟩ := Shape.ofFragment_object ((Shape.ofFragment_tag id).1 hread)
    have hnone : name ∉ Members.names (properties.map fun entry => (entry.1, Json.object entry.2)) := by
      rw [Members.names_mapEntries fun _ fragment => Json.object fragment, Members.mem_names_iff,
        Members.contains, hproperty]
      simp
    rw [hshape, hadded.get?_of_notMem hnone]
    exact .none

/-- `Narrows` of two objects with the same `required`, property by property. -/
theorem object {properties plainProperties : Members Fragment} {required : List String} {id : String}
    (hd : (Members.names properties).Nodup) (hplain : (Members.names plainProperties).Nodup)
    (h : ∀ name, Option.Rel Narrows (Members.get? properties name) (Members.get? plainProperties name)) :
    Narrows (Dialect.native.tag (Dialect.native.object properties required) id)
      (Dialect.native.tag (Dialect.native.object plainProperties required) id) := by
  intro shape other hshape hother
  obtain ⟨final, -, hexact⟩ := Shape.ofFragment_object ((Shape.ofFragment_tag id).1 hother)
  have hreadPlain := object_properties hplain hother
  subst hexact
  have hdeclares := (Declares.object properties required).tag id
  refine .object (hdeclares.shape_kind hshape) (hdeclares.shape_nullable hshape) ?_ fun name => ?_
  · rw [object_required hshape]
    exact fun _ h => h
  · have hread := object_properties hd hshape name
    replace hreadPlain := hreadPlain name
    have hnarrows := h name
    revert hread hreadPlain hnarrows
    generalize Members.get? properties name = found
    generalize Members.get? plainProperties name = plainFound
    generalize Members.get? shape.properties name = property
    generalize Members.get? final name = plainProperty
    rintro (hread | _) (hreadPlain | _) (hnarrows | _)
    · exact .some (hnarrows _ _ hread hreadPlain)
    · exact .none

end Narrows

namespace Inference

variable {inference : Inference} {position : Position} {scalar : Builtin}

theorem IsPlain.infer_builtin (h : inference.IsPlain .native) {name : String}
    (hname : Builtin.ofName? name = some scalar) (nonNull : Bool) :
    inference.infer name nonNull = Dialect.native.primitive scalar (!nonNull) := by
  rw [h.infer_eq, standard, hname, h.dialect]

section
variable (h : inference.IsPlain .native) (hname : Builtin.ofName? position.leafName = some scalar)
include h hname

theorem IsPlain.shapedFragment_narrows (override : Option Fragment) :
    Narrows (inference.shapedFragment position override) (inference.shapedFragment position none) := by
  induction position generalizing override with
  | named name leaf nonNull =>
    rw [shapedFragment, shapedFragment, show inference.infer name nonNull = _ from h.infer_builtin hname _]
    exact .primitive (overlaid_declares h.dialect (.primitive scalar _) _ _)
  | list item nonNull ih =>
    rw [shapedFragment, shapedFragment]
    simp only [h.dialect]
    refine .array (overlaid_declares h.dialect (.array _ _) _ _) ?_ (ih hname (itemsOverride override))
    rw [overlaid_items h.dialect]
    rfl

/-- Whatever the override lays over, the fragment `Declares` a kind. -/
theorem IsPlain.shapedFragment_declares (override : Option Fragment) :
    ∃ kind nullable, Declares (inference.shapedFragment position override) kind nullable := by
  cases position with
  | named name leaf nonNull =>
    rw [shapedFragment, show inference.infer name nonNull = _ from h.infer_builtin hname _]
    exact ⟨_, _, overlaid_declares h.dialect (.primitive scalar _) _ _⟩
  | list item nonNull =>
    rw [shapedFragment, h.dialect]
    exact ⟨_, _, overlaid_declares h.dialect (.array _ _) _ _⟩

variable (hleaf : position.leaf = .builtin scalar)
include hleaf

omit hname in
theorem IsPlain.synthesize_builtin (override : Option Fragment) (id : String) :
    inference.synthesize position override id =
      Dialect.native.tag (inference.shapedFragment position override) id := by
  rw [synthesize, if_neg (by simp [Position.isComposite, hleaf]), h.dialect]

theorem IsPlain.synthesize_narrows (override : Option Fragment) (id : String) :
    Narrows (inference.synthesize position override id) (inference.synthesize position none id) := by
  rw [h.synthesize_builtin hleaf, h.synthesize_builtin hleaf]
  exact (h.shapedFragment_narrows hname override).tag id

theorem IsPlain.hasShape_synthesize (override : Option Fragment) (id : String) :
    Dialect.native.hasShape (inference.synthesize position override id) = true := by
  obtain ⟨kind, nullable, hdeclares⟩ := h.shapedFragment_declares hname override
  rw [h.synthesize_builtin hleaf]
  exact (hdeclares.tag id).hasShape

end

end Inference

end ArgGuard
