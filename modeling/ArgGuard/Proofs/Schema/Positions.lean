import ArgGuard.Proofs.Graph.Classification
import ArgGuard.Proofs.Schema.Overlay

/-!
# Fragments that keep to their position

An override may say almost anything, at every depth of a list. Still the fragment of a position whose
leaf is a built-in scalar, an enumeration or an input object keeps to the position: at every level it
has the kind and the nullability that the type asks for, down to the leaf. `Written` says this of a
fragment and `Describes` of a shape; `synthesize_written` and `Written.describes` lead from one to the
other.
-/

namespace ArgGuard

/-- The kind of shape that holds the values of a scalar. -/
def Builtin.shapeKind : Builtin → ShapeKind
  | int => .integer
  | float => .float
  | string => .string
  | boolean => .boolean
  | id => .id

theorem Builtin.shapeKind_ne_ref (scalar : Builtin) : scalar.shapeKind ≠ .ref := by
  cases scalar <;> simp [shapeKind]

namespace Leaf

/-- The kind of shape of a leaf of which more than the name is known. -/
def shapeKind? : Leaf → Option ShapeKind
  | builtin scalar => some scalar.shapeKind
  | enumeration => some .string
  | inputObject => some .ref
  | customScalar | output | unknown => none

/-- Whether a leaf is a built-in scalar, an enumeration or an input object. -/
def isTyped : Leaf → Bool
  | builtin _ | enumeration | inputObject => true
  | customScalar | output | unknown => false

theorem shapeKind?_of_isTyped {leaf : Leaf} (h : leaf.isTyped = true) :
    ∃ kind, leaf.shapeKind? = some kind := by
  cases leaf <;> first | exact ⟨_, rfl⟩ | cases h

end Leaf

theorem Declares.primitive (scalar : Builtin) (nullable : Bool) :
    Declares (Dialect.native.primitive scalar nullable) scalar.shapeKind nullable := by
  cases scalar <;> exact ⟨by simp [Dialect.primitive, Dialect.nativeFragment, Members.names], rfl, rfl⟩

/-! ### Fragments -/

/-- A fragment that has the kind and the nullability of a position at every level. -/
inductive Written : Position → Fragment → Prop
  | named {name : String} {leaf : Leaf} {nonNull : Bool} {kind : ShapeKind} {fragment : Fragment}
      (hkind : leaf.shapeKind? = some kind) (hdeclares : Declares fragment kind (!nonNull))
      (htarget : leaf = .inputObject → Members.get? fragment "ref" = some (.string name)) :
      Written (.named name leaf nonNull) fragment
  | list {item : Position} {nonNull : Bool} {fragment inner : Fragment}
      (hdeclares : Declares fragment .array (!nonNull))
      (hitems : Members.get? fragment "items" = some (.object inner)) (hinner : Written item inner) :
      Written (.list item nonNull) fragment

namespace Written

variable {position : Position} {fragment : Fragment}

theorem tag (h : Written position fragment) (id : String) :
    Written position (Dialect.native.tag fragment id) := by
  cases h with
  | named hkind hdeclares htarget =>
    exact .named hkind (hdeclares.tag id) fun hleaf => by
      rw [Dialect.get?_tag (by decide)]; exact htarget hleaf
  | list hdeclares hitems hinner =>
    exact .list (hdeclares.tag id) (by rw [Dialect.get?_tag (by decide)]; exact hitems) hinner

theorem hasShape (h : Written position fragment) : Dialect.native.hasShape fragment = true := by
  cases h with
  | named _ hdeclares _ | list hdeclares _ _ => exact hdeclares.hasShape

end Written

namespace Inference

variable {graph : TypeGraph} {inference : Inference} {position : Position}

/-- Native inference without a hook, over the enumerations of a graph that calls none of them like a
built-in scalar. -/
structure Follows (inference : Inference) (graph : TypeGraph) : Prop where
  dialect : inference.dialect = .native
  hook : inference.hook = none
  enumerations : inference.enumerations = graph.enumerations
  distinct : ∀ type ∈ graph.types, type.kind = .enumeration → Builtin.ofName? type.name = none

theorem compositeFragment_written (hleaf : position.leaf = .inputObject) :
    Written position (compositeFragment .native position) := by
  induction position with
  | named name leaf nonNull =>
    obtain rfl : leaf = .inputObject := hleaf
    exact .named rfl (.reference _ _) fun _ => rfl
  | list item nonNull ih => exact .list (.array _ _) rfl (ih hleaf)

theorem Follows.infer_declares (h : inference.Follows graph) {name : String} {leaf : Leaf}
    {nonNull : Bool} {kind : ShapeKind} (hclassifies : graph.Classifies (.named name leaf nonNull))
    (hleaf : leaf ≠ .inputObject) (hkind : leaf.shapeKind? = some kind) :
    Declares (inference.infer name nonNull) kind (!nonNull) := by
  have hstandard : inference.infer name nonNull = inference.standard name nonNull := by
    rw [infer, hooked?, h.hook]; rfl
  rw [hstandard, standard, h.dialect, h.enumerations]
  cases leaf with
  | builtin scalar =>
    have hname : Builtin.ofName? name = some scalar := hclassifies.builtin rfl
    rw [hname]
    cases hkind
    exact .primitive scalar _
  | enumeration =>
    obtain ⟨type, htype, hname, henumeration⟩ := hclassifies.enumeration rfl
    obtain rfl : type.name = name := hname
    rw [h.distinct type htype henumeration, TypeGraph.get?_enumerations htype henumeration]
    cases hkind
    exact .enumeration type.values _
  | inputObject => exact absurd rfl hleaf
  | customScalar | output | unknown => cases hkind

theorem overlaid_declares (hdialect : inference.dialect = .native) {fragment : Fragment}
    {kind : ShapeKind} {nullable : Bool} (hdeclares : Declares fragment kind nullable)
    (skipped : List String) (override : Option Fragment) :
    Declares (inference.overlaid skipped fragment override) kind nullable := by
  cases override with
  | none => exact hdeclares
  | some overlay =>
    rw [overlaid, hdialect]
    exact hdeclares.merge skipped overlay

theorem overlaid_items (hdialect : inference.dialect = .native) (fragment : Fragment)
    (override : Option Fragment) :
    Members.get? (inference.overlaid [Dialect.itemsKey] fragment override) "items" =
      Members.get? fragment "items" := by
  cases override with
  | none => rfl
  | some overlay =>
    rw [overlaid, hdialect]
    exact Dialect.get?_merge_of_kept (Dialect.overlays_eq_false_iff.2 (.inr (by decide))) overlay

theorem Follows.shapedFragment_written (h : inference.Follows graph)
    (hclassifies : graph.Classifies position) (hleaf : position.leaf ≠ .inputObject)
    (htyped : position.leaf.isTyped = true) (override : Option Fragment) :
    Written position (inference.shapedFragment position override) := by
  induction position generalizing override with
  | named name leaf nonNull =>
    obtain ⟨kind, hkind⟩ := Leaf.shapeKind?_of_isTyped htyped
    have hdeclares := h.infer_declares hclassifies hleaf hkind
    exact .named hkind (overlaid_declares h.dialect hdeclares _ _) fun he => absurd he hleaf
  | list item nonNull ih =>
    have hinner := ih hclassifies hleaf htyped (itemsOverride override)
    refine .list (overlaid_declares h.dialect ?_ _ _) ?_ hinner
    · rw [h.dialect]; exact .array _ _
    · rw [shapedFragment, overlaid_items h.dialect, h.dialect]; rfl

/-- Whatever the override says, the fragment of a position is `Written` for it. -/
theorem Follows.synthesize_written (h : inference.Follows graph) (hclassifies : graph.Classifies position)
    (htyped : position.leaf.isTyped = true) (override : Option Fragment) (id : String) :
    Written position (inference.synthesize position override id) := by
  unfold synthesize
  rw [h.dialect]
  refine Written.tag ?_ id
  split
  · rename_i hcomposite
    exact compositeFragment_written (of_decide_eq_true hcomposite)
  · rename_i hshaped
    exact h.shapedFragment_written hclassifies (of_decide_eq_false (Bool.eq_false_iff.2 hshaped))
      htyped override

end Inference

/-! ### Shapes -/

/-- A shape that asks at every level what a position asks. -/
inductive Describes (graph : TypeGraph) : Position → Shape → Prop
  | scalar {name : String} {scalar : Builtin} {nonNull : Bool} {shape : Shape}
      (hkind : shape.kind = some scalar.shapeKind) (hnullable : shape.nullable = !nonNull) :
      Describes graph (.named name (.builtin scalar) nonNull) shape
  | enumeration {name : String} {nonNull : Bool} {shape : Shape}
      (hkind : shape.kind = some .string) (hnullable : shape.nullable = !nonNull) :
      Describes graph (.named name .enumeration nonNull) shape
  | inputObject {name : String} {nonNull : Bool} {shape : Shape} {type : GraphType}
      (hkind : shape.kind = some .ref) (hnullable : shape.nullable = !nonNull)
      (htarget : shape.target = some name) (htype : graph.find? name = some type)
      (hinput : type.kind = .inputObject) :
      Describes graph (.named name .inputObject nonNull) shape
  | list {item : Position} {nonNull : Bool} {shape inner : Shape}
      (hkind : shape.kind = some .array) (hnullable : shape.nullable = !nonNull)
      (hitems : shape.items = some inner) (hinner : Describes graph item inner) :
      Describes graph (.list item nonNull) shape

theorem Describes.nullable {graph : TypeGraph} {position : Position} {shape : Shape}
    (h : Describes graph position shape) : shape.nullable = position.nullable := by
  cases h <;> assumption

theorem Describes.kind_isSome {graph : TypeGraph} {position : Position} {shape : Shape}
    (h : Describes graph position shape) : shape.kind.isSome = true := by
  cases h <;> simp_all

/-- By induction on `Written`, read by `Shape.ofFragment` level by level. -/
theorem Written.describes {graph : TypeGraph} {position : Position} {fragment : Fragment} {shape : Shape}
    (h : Written position fragment) (hclassifies : graph.Classifies position)
    (hread : Shape.ofFragment fragment = .ok shape) : Describes graph position shape := by
  induction h generalizing shape with
  | @named name leaf nonNull kind fragment hkind hdeclares htarget =>
    have hshape := hdeclares.shape_kind hread
    have hnullable := hdeclares.shape_nullable hread
    cases leaf with
    | builtin scalar => cases hkind; exact .scalar hshape hnullable
    | enumeration => cases hkind; exact .enumeration hshape hnullable
    | inputObject =>
      cases hkind
      obtain ⟨type, htype, hname, hinput⟩ := hclassifies.inputObject rfl
      exact .inputObject hshape hnullable
        (Shape.ofFragment_target hdeclares.nodup hread (htarget rfl))
        (TypeGraph.find?_eq_some_iff.2 ⟨htype, hname⟩) hinput
    | customScalar | output | unknown => cases hkind
  | list hdeclares hitems _ ih =>
    obtain ⟨items, hitem, hshape⟩ := Shape.ofFragment_items hdeclares.nodup hread hitems
    exact .list (hdeclares.shape_kind hread) (hdeclares.shape_nullable hread) hshape
      (ih hclassifies hitem)

/-! ### Objects -/

section
variable {properties : Members Fragment} {required : List String} {id : String} {shape : Shape}
  (hread : Shape.ofFragment (Dialect.native.tag (Dialect.native.object properties required) id) =
    .ok shape)
include hread

theorem object_required : shape.required = required :=
  Shape.ofFragment_required ((Declares.object properties required).tag id).nodup hread
    (by rw [Dialect.get?_tag (by decide)]; rfl)

theorem object_property (hd : (Members.names properties).Nodup) {name : String} {fragment : Fragment}
    (hproperty : Members.get? properties name = some fragment) :
    ∃ property, Members.get? shape.properties name = some property ∧
      Shape.ofFragment fragment = .ok property := by
  have hadded : Shape.Added (properties.map fun entry => (entry.1, .object entry.2)) [] shape.properties :=
    Shape.ofFragment_properties ((Declares.object properties required).tag id).nodup hread
      (by rw [Dialect.get?_tag (by decide)]; rfl)
  have hnames : (Members.names (properties.map fun entry => (entry.1, Json.object entry.2))).Nodup := by
    rwa [Members.names_mapEntries fun _ fragment => Json.object fragment]
  obtain ⟨inner, property, heq, hinner, hfound⟩ := hadded.get?_of_mem hnames
    (List.mem_map.2 ⟨_, Members.mem_of_get? hproperty, rfl⟩)
  cases heq
  exact ⟨property, hfound, hinner⟩

theorem object_known {name : String} {property : Shape}
    (hproperty : Members.get? shape.properties name = some property) : name ∈ Members.names properties := by
  have hadded : Shape.Added (properties.map fun entry => (entry.1, .object entry.2)) [] shape.properties :=
    Shape.ofFragment_properties ((Declares.object properties required).tag id).nodup hread
      (by rw [Dialect.get?_tag (by decide)]; rfl)
  rcases hadded.mem_final (Members.mem_of_get? hproperty) with hmem | ⟨inner, hmem, -⟩
  · cases hmem
  · obtain ⟨entry, hentry, heq⟩ := List.mem_map.1 hmem
    cases heq
    exact List.mem_map.2 ⟨entry, hentry, rfl⟩

theorem object_open : shape.closed = false := by
  obtain ⟨taken, htaken, hsettle⟩ := Shape.ofFragment_eq_ok_iff.1 hread
  rw [(Shape.settleTarget_spec hsettle).2.2]
  refine Shape.takeKeys_unread Shape.closed (fun _ _ _ hk hf => hf.closed hk) ?_ htaken
  simp [Dialect.tag, Dialect.object, Dialect.nativeFragment, Dialect.tagKey, Members.set, Members.names]

end

end ArgGuard
