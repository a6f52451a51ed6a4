import ArgGuard.Proofs.Schema.Overlay
import ArgGuard.Proofs.Shape.References

/-!
# Fragments that refer to nothing else

A host can put references of its own into overrides and into the fragments of its hook. If the key of
references stands nowhere in them, the only references of a schema are those that were written for its
input objects: `synthesize_refersOnly` says that the fragment of a position refers to its leaf, and
only where the leaf is an input object. There it does in the native dialect, whatever the override
(`mem_references_synthesize`).
-/

namespace ArgGuard

/-! ### Keys anywhere in a document -/

namespace Json

mutual

/-- Whether a key stands anywhere in a document. -/
def mentions (key : String) : Json → Bool
  | .object members => mentionsMembers key members
  | .array items => mentionsItems key items
  | _ => false

/-- Whether a key stands anywhere in items. -/
def mentionsItems (key : String) : List Json → Bool
  | [] => false
  | item :: rest => mentions key item || mentionsItems key rest

/-- Whether a key stands anywhere in members. -/
def mentionsMembers (key : String) : List (String × Json) → Bool
  | [] => false
  | (name, value) :: rest => name = key || mentions key value || mentionsMembers key rest

end

variable {key text : String}

theorem mentionsItems_eq_false_iff {items : List Json} :
    mentionsItems key items = false ↔ ∀ item ∈ items, mentions key item = false := by
  induction items with
  | nil => simp [mentionsItems]
  | cons item rest ih => simp [mentionsItems, ih]

theorem mentionsMembers_eq_false_iff {members : Members Json} :
    mentionsMembers key members = false ↔
      ∀ member ∈ members, member.1 ≠ key ∧ mentions key member.2 = false := by
  induction members with
  | nil => simp [mentionsMembers]
  | cons head rest ih => simp [mentionsMembers, ih]

theorem notMem_textsUnder {document : Json} (h : mentions key document = false) :
    text ∉ Dialect.textsUnder key document := by
  induction document using Json.induct with
  | null | bool | number | string => simp [Dialect.textsUnder]
  | array items ih =>
    rw [mentions, mentionsItems_eq_false_iff] at h
    rw [Dialect.textsUnder, Dialect.mem_textsUnderItems]
    rintro ⟨item, hitem, htext⟩
    exact ih item hitem (h item hitem) htext
  | object members ih =>
    rw [mentions, mentionsMembers_eq_false_iff] at h
    rw [Dialect.textsUnder, Dialect.mem_textsUnderMembers]
    rintro (htext | ⟨member, hmember, htext⟩)
    · exact (h _ htext).1 rfl
    · exact ih member hmember (h member hmember).2 htext

end Json

/-- Whether a key stands anywhere in the fragments among overrides. -/
def Overrides.mentions (overrides : Overrides) (key : String) : Bool :=
  overrides.types.any (fun entry => Json.mentionsMembers key entry.2) ||
    overrides.inputFields.any (fun entry => Json.mentionsMembers key entry.2) ||
    overrides.arguments.any fun entry =>
      match entry.2 with
      | .fragment fragment => Json.mentionsMembers key fragment
      | .function _ => false

namespace Overrides

variable {overrides : Overrides} {key : String} {fragment : Fragment}

theorem type?_omits (h : overrides.mentions key = false) {name : String}
    (hfound : overrides.type? name = some fragment) : Json.mentionsMembers key fragment = false := by
  simp only [mentions, Bool.or_eq_false_iff, List.any_eq_false, Bool.not_eq_true] at h
  exact h.1.1 _ (Members.mem_of_get? hfound)

theorem inputField?_omits (h : overrides.mentions key = false) {coordinate : Coordinate}
    (hfound : overrides.inputField? coordinate = some fragment) :
    Json.mentionsMembers key fragment = false := by
  simp only [mentions, Bool.or_eq_false_iff, List.any_eq_false, Bool.not_eq_true] at h
  exact h.1.2 _ (Members.mem_of_get? hfound)

theorem argument?_omits (h : overrides.mentions key = false) {coordinate : ArgumentCoordinate}
    (hfound : overrides.argument? coordinate = some (.fragment fragment)) :
    Json.mentionsMembers key fragment = false := by
  simp only [mentions, Bool.or_eq_false_iff, List.any_eq_false, Bool.not_eq_true] at h
  exact h.2 _ (Members.mem_of_get? hfound)

end Overrides

/-- A hook in whose fragments a key stands nowhere. -/
def InferenceHook.Omits (hook : InferenceHook) (key : String) : Prop :=
  ∀ name nonNull fragment, hook name nonNull = some fragment → Json.mentionsMembers key fragment = false

/-! ### References of fragments -/

/-- A fragment all of whose references lead to certain names. -/
def RefersOnly (dialect : Dialect) (allowed : String → Prop) (fragment : Fragment) : Prop :=
  ∀ name ∈ dialect.references fragment, allowed name

namespace RefersOnly

variable {dialect : Dialect} {allowed permitted : String → Prop} {fragment : Fragment} {key : String}
  {value : Json}

theorem iff_mem : RefersOnly dialect allowed fragment ↔ ∀ entry ∈ fragment,
    (∀ name, entry = (dialect.referenceKey, .string name) → allowed name) ∧
      ∀ name ∈ Dialect.textsUnder dialect.referenceKey entry.2, allowed name := by
  simp only [RefersOnly, Dialect.references, Dialect.mem_textsUnderMembers]
  constructor
  · rintro h entry hentry
    exact ⟨fun name he => h name (.inl (he ▸ hentry)), fun name hn => h name (.inr ⟨entry, hentry, hn⟩)⟩
  · rintro h name (hn | ⟨entry, hentry, hn⟩)
    · exact (h _ hn).1 name rfl
    · exact (h entry hentry).2 name hn

theorem mono (h : RefersOnly dialect allowed fragment) (hsub : ∀ name, allowed name → permitted name) :
    RefersOnly dialect permitted fragment := fun name hn => hsub name (h name hn)

theorem of_omits (h : Json.mentionsMembers dialect.referenceKey fragment = false) :
    RefersOnly dialect allowed fragment := by
  rw [Json.mentionsMembers_eq_false_iff] at h
  refine iff_mem.2 fun entry hentry => ⟨?_, fun name hn => ?_⟩
  · rintro name rfl
    exact absurd rfl (h _ hentry).1
  · exact absurd hn (Json.notMem_textsUnder (h entry hentry).2)

theorem set (h : RefersOnly dialect allowed fragment) (hkey : key ≠ dialect.referenceKey)
    (hvalue : ∀ name ∈ Dialect.textsUnder dialect.referenceKey value, allowed name) :
    RefersOnly dialect allowed (Members.set fragment key value) := by
  rw [iff_mem] at h ⊢
  intro entry hentry
  rcases Members.mem_set hentry with rfl | hentry
  · exact ⟨fun name he => absurd (congrArg Prod.fst he) hkey, hvalue⟩
  · exact h entry hentry

theorem merge {skipped : List String} {overlay : Fragment} (h : RefersOnly dialect allowed fragment)
    (hoverlay : Json.mentionsMembers dialect.referenceKey overlay = false) :
    RefersOnly dialect allowed (dialect.merge skipped fragment overlay) := by
  rw [Json.mentionsMembers_eq_false_iff] at hoverlay
  refine Dialect.merge_invariant (RefersOnly dialect allowed) (fun entry hentry fragment hfragment => ?_) h
  obtain ⟨hkey, hvalue⟩ := hoverlay entry hentry
  exact hfragment.set hkey fun name hn => absurd hn (Json.notMem_textsUnder hvalue)

theorem tag (h : RefersOnly dialect allowed fragment) (id : String) :
    RefersOnly dialect allowed (dialect.tag fragment id) :=
  h.set (by cases dialect <;> decide) (by simp [Dialect.textsUnder])

theorem notMem_typeValue {name key type : String} {nullable : Bool} :
    name ∉ Dialect.textsUnder key (Dialect.typeValue type nullable) := by
  cases nullable <;> simp [Dialect.typeValue, Dialect.textsUnder, Dialect.textsUnderItems]

theorem notMem_requiredValue {name key : String} {required : List String} :
    name ∉ Dialect.textsUnder key (Dialect.requiredValue required) := by
  rw [Dialect.requiredValue, Dialect.textsUnder, Dialect.mem_textsUnderItems]
  rintro ⟨item, hitem, hn⟩
  obtain ⟨text, -, rfl⟩ := List.mem_map.1 hitem
  cases hn

theorem array (h : RefersOnly dialect allowed fragment) (nullable : Bool) :
    RefersOnly dialect allowed (dialect.array fragment nullable) := by
  refine iff_mem.2 ?_
  cases dialect with
  | native =>
    simp only [Dialect.array, Dialect.nativeFragment, List.forall_mem_cons, Dialect.textsUnder]
    exact ⟨by simp [Dialect.referenceKey], by simp, ⟨by simp [Dialect.referenceKey], h⟩, by simp⟩
  | jsonSchema =>
    simp only [Dialect.array, List.forall_mem_cons, Dialect.textsUnder]
    exact ⟨by simp [Dialect.referenceKey, notMem_typeValue], ⟨by simp [Dialect.referenceKey], h⟩, by simp⟩

section
variable {properties : Members Fragment} {required : List String}
  (h : ∀ entry ∈ properties, RefersOnly dialect allowed entry.2)
include h

theorem of_mem_propertiesValue :
    ∀ name ∈ Dialect.textsUnder dialect.referenceKey (Dialect.propertiesValue properties), allowed name := by
  intro name hn
  rw [Dialect.propertiesValue, Dialect.textsUnder, Dialect.mem_textsUnderMembers] at hn
  rcases hn with hn | ⟨member, hmember, hn⟩
  · obtain ⟨entry, -, he⟩ := List.mem_map.1 hn
    cases (Prod.mk.inj he).2
  · obtain ⟨entry, hentry, rfl⟩ := List.mem_map.1 hmember
    exact h entry hentry name (Dialect.mem_textsUnder_object.1 hn)

theorem object : RefersOnly dialect allowed (dialect.object properties required) := by
  have hproperties := of_mem_propertiesValue h
  refine iff_mem.2 ?_
  cases dialect <;> cases required <;>
    simp_all [Dialect.object, Dialect.nativeFragment, Dialect.schemaMembers, Dialect.referenceKey,
      Dialect.textsUnder, notMem_requiredValue]

theorem typeUnit : RefersOnly dialect allowed (dialect.typeUnit properties required) := by
  cases dialect with
  | native => exact object h
  | jsonSchema =>
    have hproperties := of_mem_propertiesValue h
    refine iff_mem.2 ?_
    cases required <;>
      simp_all [Dialect.typeUnit, Dialect.schemaMembers, Dialect.referenceKey, notMem_typeValue,
        notMem_requiredValue]

end

end RefersOnly

/-! ### References of positions -/

namespace Inference

variable {dialect : Dialect} {allowed : String → Prop} {inference : Inference} {override : Option Fragment}
  {key : String}

/-- An override, if there is one, in which a key stands nowhere. -/
def Omits (key : String) (override : Option Fragment) : Prop :=
  ∀ fragment, override = some fragment → Json.mentionsMembers key fragment = false

theorem Omits.items (h : Omits key override) : Omits key (itemsOverride override) := by
  intro inner hinner
  obtain ⟨fragment, rfl, hitems⟩ := Option.bind_eq_some_iff.1 hinner
  obtain ⟨value, hvalue, hobject⟩ := Option.bind_eq_some_iff.1 hitems
  have hmember := (Json.mentionsMembers_eq_false_iff.1 (h fragment rfl) _ (Members.mem_of_get? hvalue)).2
  cases value with
  | object members => cases hobject; exact hmember
  | null | bool | number | string | array => cases hobject

theorem compositeFragment_refersOnly (position : Position) :
    RefersOnly dialect (· = dialect.referenceId position.leafName none none)
      (compositeFragment dialect position) := by
  induction position with
  | named name leaf nonNull =>
    refine RefersOnly.iff_mem.2 ?_
    cases dialect <;> cases nonNull <;>
      simp [compositeFragment, Dialect.reference, Dialect.referenceKey, Dialect.textsUnder,
        Dialect.textsUnderItems, Dialect.textsUnderMembers, Position.leafName]
  | list item nonNull ih => exact ih.array _

variable (hdialect : inference.dialect = dialect)
include hdialect

theorem standard_refersOnly (name : String) (nonNull : Bool) :
    RefersOnly dialect allowed (inference.standard name nonNull) := by
  refine RefersOnly.iff_mem.2 ?_
  unfold standard
  rw [hdialect]
  split
  · cases dialect <;> simp [Dialect.primitive, Dialect.nativeFragment, Dialect.referenceKey,
      Dialect.textsUnder, RefersOnly.notMem_typeValue]
  · split
    · cases dialect <;> cases nonNull <;> simp [Dialect.enumeration, Dialect.nativeFragment,
        Dialect.referenceKey, Dialect.textsUnder, Dialect.mem_textsUnderItems, RefersOnly.notMem_typeValue]
    · simp

variable (hhook : ∀ hook, inference.hook = some hook → hook.Omits dialect.referenceKey)
include hhook

theorem infer_refersOnly (name : String) (nonNull : Bool) :
    RefersOnly dialect allowed (inference.infer name nonNull) := by
  unfold infer
  cases h : inference.hooked? name nonNull with
  | none => exact standard_refersOnly hdialect name nonNull
  | some fragment =>
    obtain ⟨hfound, -⟩ := Option.filter_eq_some_iff.1 h
    obtain ⟨hook, hhooked, hfragment⟩ := Option.bind_eq_some_iff.1 hfound
    exact .of_omits (hhook hook hhooked name nonNull fragment hfragment)

omit hhook in
theorem overlaid_refersOnly {skipped : List String} {base : Fragment} (h : RefersOnly dialect allowed base)
    (hoverride : Omits dialect.referenceKey override) :
    RefersOnly dialect allowed (inference.overlaid skipped base override) := by
  cases override with
  | none => exact h
  | some overlay =>
    rw [overlaid, hdialect]
    exact h.merge (hoverride overlay rfl)

theorem shapedFragment_refersOnly (position : Position) (hoverride : Omits dialect.referenceKey override) :
    RefersOnly dialect allowed (inference.shapedFragment position override) := by
  induction position generalizing override with
  | named name leaf nonNull =>
    exact overlaid_refersOnly hdialect (infer_refersOnly hdialect hhook name nonNull) hoverride
  | list item nonNull ih =>
    refine overlaid_refersOnly hdialect ?_ hoverride
    rw [hdialect]
    exact (ih hoverride.items).array _

/-- The only references of a synthesized fragment come from `Dialect.reference` at an input object. -/
theorem synthesize_refersOnly (position : Position) (hoverride : Omits dialect.referenceKey override)
    (id : String) :
    RefersOnly dialect (fun name =>
      position.leaf = .inputObject ∧ name = dialect.referenceId position.leafName none none)
      (inference.synthesize position override id) := by
  unfold synthesize
  rw [hdialect]
  refine RefersOnly.tag ?_ id
  split
  · rename_i hcomposite
    exact (compositeFragment_refersOnly position).mono fun name hn =>
      ⟨of_decide_eq_true hcomposite, hn⟩
  · exact shapedFragment_refersOnly hdialect hhook position hoverride

end Inference

/-! ### References that are there -/

namespace Dialect

variable {fragment : Fragment} {properties : Members Fragment} {name : String}

theorem mem_references_tag (h : name ∈ native.references fragment)
    (hnew : "$id" ∉ Members.names fragment) (id : String) :
    name ∈ native.references (native.tag fragment id) := by
  rw [tag, tagKey, Members.set_of_notMem hnew, references, mem_textsUnderMembers]
  rw [references, mem_textsUnderMembers] at h
  rcases h with h | ⟨member, hmember, h⟩
  · exact .inl (List.mem_append_left _ h)
  · exact .inr ⟨member, List.mem_append_left _ hmember, h⟩

theorem mem_references_array (h : name ∈ native.references fragment) (nullable : Bool) :
    name ∈ native.references (native.array fragment nullable) := by
  rw [references, mem_textsUnderMembers]
  exact .inr ⟨("items", .object fragment), by simp [array, nativeFragment], mem_textsUnder_object.2 h⟩

theorem mem_references_object {entry : String × Fragment} (hentry : entry ∈ properties)
    (h : name ∈ native.references entry.2) (required : List String) :
    name ∈ native.references (native.object properties required) := by
  have hproperties : name ∈ textsUnder "ref" (propertiesValue properties) := by
    rw [propertiesValue, mem_textsUnder_object, mem_textsUnderMembers]
    exact .inr ⟨(entry.1, .object entry.2), List.mem_map.2 ⟨entry, hentry, rfl⟩, mem_textsUnder_object.2 h⟩
  rw [references, mem_textsUnderMembers]
  exact .inr ⟨("properties", propertiesValue properties), by simp [object, nativeFragment], hproperties⟩

end Dialect

theorem Inference.mem_references_synthesize {inference : Inference} {position : Position}
    (hdialect : inference.dialect = .native) (hleaf : position.leaf = .inputObject)
    (override : Option Fragment) (id : String) :
    position.leafName ∈ Dialect.native.references (inference.synthesize position override id) := by
  have hcomposite : position.isComposite = true := decide_eq_true hleaf
  rw [synthesize, hdialect]
  rw [if_pos hcomposite]
  refine Dialect.mem_references_tag ?_ ?_ id
  · clear hleaf hcomposite
    induction position with
    | named name leaf nonNull =>
      simp [compositeFragment, Dialect.reference, Dialect.references, Dialect.referenceKey,
        Dialect.textsUnderMembers, Dialect.textsUnder, Position.leafName, Dialect.referenceId, unitName]
    | list item nonNull ih => exact Dialect.mem_references_array ih _
  · cases position <;>
      simp [compositeFragment, Dialect.reference, Dialect.array, Dialect.nativeFragment, Members.names]

end ArgGuard
