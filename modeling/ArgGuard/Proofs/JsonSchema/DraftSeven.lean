import Mathlib.Tactic.MkIffOfInductiveProp
import Mathlib.Tactic.Simproc.ExistsAndEq
import ArgGuard.JsonSchema.Engine
import ArgGuard.Proofs.JsonSchema.Satisfaction
import ArgGuard.Proofs.Schema.Bare
import ArgGuard.Proofs.Schema.Fits

/-!
# The seventh draft

What the seventh draft says of the keywords that units are written with, for any engine: `Valid` is the
least relation between schemas and values that goes by `type`, `enum`, `allOf`, `items`, `required` and
`properties`, and by nothing else where there is a `$ref`. `Engine.FollowsDraftSeven` takes for granted that
an engine prepares the definitions of a document and goes by this relation.

For each kind of fragment that `Dialect.jsonSchema` writes there is a lemma on the values that are valid.
-/

namespace ArgGuard

namespace JsonSchema

namespace DraftSeven

/-- Documents that are one value: numbers by what they are worth, objects by their members in any order. -/
inductive Same : Json → Json → Prop
  | null : Same .null .null
  | bool (b : Bool) : Same (.bool b) (.bool b)
  | number {m n : Number} (h : m.compareValue n = .eq) : Same (.number m) (.number n)
  | string (text : String) : Same (.string text) (.string text)
  | array {xs ys : List Json} (hlength : xs.length = ys.length) (h : ∀ pair ∈ xs.zip ys, Same pair.1 pair.2) :
      Same (.array xs) (.array ys)
  | object {xs ys : Members Json}
      (hnames : ∀ name, Members.contains xs name = Members.contains ys name)
      (h : ∀ name x y, Members.get? xs name = some x → Members.get? ys name = some y → Same x y) :
      Same (.object xs) (.object ys)

/-- What the keywords of a schema without `$ref` ask of a value, given what is valid by the schemas inside.
`items` is one schema for all items, or a list with a schema for each of the first ones. -/
@[mk_iff]
inductive Keywords (valid : Json → Json → Prop) : Json → Json → Prop
  | intro {schema : Members Json} {value : Json}
      (type : ∀ declared, Members.get? schema "type" = some declared → HasDeclaredType declared value)
      (enum : ∀ values, Members.get? schema "enum" = some (.array values) →
        ∃ wanted ∈ values, Same wanted value)
      (allOf : ∀ branches, Members.get? schema "allOf" = some (.array branches) →
        ∀ branch ∈ branches, valid branch value)
      (items : ∀ contents, Members.get? schema "items" = some contents → contents.array? = none →
        ∀ items, value = .array items → ∀ item ∈ items, valid contents item)
      (firstItems : ∀ schemas, Members.get? schema "items" = some (.array schemas) →
        ∀ items, value = .array items → ∀ pair ∈ schemas.zip items, valid pair.1 pair.2)
      (required : ∀ names, Members.get? schema "required" = some (.array names) →
        ∀ members, value = .object members → ∀ name, .string name ∈ names →
          Members.contains members name = true)
      (properties : ∀ properties, Members.get? schema "properties" = some (.object properties) →
        ∀ members, value = .object members → ∀ property ∈ properties, ∀ part,
          Members.get? members property.1 = some part → valid property.2 part) :
      Keywords valid (.object schema) value

/-- The values that are valid by a schema among definitions. Beside a reference nothing else counts. -/
inductive Valid (definitions : Members Json) : Json → Json → Prop
  | anything (value : Json) : Valid definitions (.bool true) value
  | reference {schema : Members Json} {name : String} {target value : Json}
      (hreference : Members.get? schema "$ref" = some (.string (definitionsPath ++ name)))
      (htarget : Members.get? definitions name = some target) (h : Valid definitions target value) :
      Valid definitions (.object schema) value
  | keywords {schema : Members Json} {value : Json} (hdirect : Members.get? schema "$ref" = none)
      (h : Keywords (Valid definitions) (.object schema) value) :
      Valid definitions (.object schema) value

end DraftSeven

/-- An engine that finds every definition of a document to be a schema of the seventh draft, prepares it,
and finds something wrong exactly with the values that are not valid. -/
structure Engine.FollowsDraftSeven [Engine] (reading : Reading) (definitions : Members Json) : Prop where
  admits : ∀ definition ∈ definitions, Engine.admits .draft7 definition.2 = true
  prepares : ∃ loaded, Engine.load .draft7 (documentOf definitions) = .ok loaded ∧
    ∀ name schema, Members.get? definitions name = some schema → ∃ errors,
      Engine.prepare .draft7 reading loaded (definitionsPath ++ name) = .ok errors ∧
        ∀ value, errors value = [] ↔ DraftSeven.Valid definitions schema value

namespace DraftSeven

variable {definitions schema : Members Json} {value : Json} {valid : Json → Json → Prop}

/-! ### One level -/

theorem same_null_iff : Same .null value ↔ value = .null := by
  constructor
  · rintro ⟨⟩
    rfl
  · rintro rfl
    exact .null

theorem same_string_iff {text : String} : Same (.string text) value ↔ value = .string text := by
  constructor
  · rintro ⟨⟩
    rfl
  · rintro rfl
    exact .string text

theorem hasDeclaredType_iff (type : TypeName) (nullable : Bool) :
    HasDeclaredType (Dialect.typeValue type.word nullable) value ↔
      nullable = true ∧ value = .null ∨ type.holds true value = true := by
  have hword : ∀ type : TypeName, TypeName.ofWord? type.word = some type := by
    intro type
    cases type <;> rfl
  have hnull : TypeName.ofWord? "null" = some .null := rfl
  have hholds : TypeName.null.holds true value = true ↔ value = .null := by
    cases value <;> simp [TypeName.holds]
  cases nullable <;>
    simp [HasDeclaredType, Dialect.typeValue, typeWords, Json.string?, hword, hnull, hholds, or_comm]

theorem valid_iff_keywords (hdirect : Members.get? schema "$ref" = none) :
    Valid definitions (.object schema) value ↔ Keywords (Valid definitions) (.object schema) value := by
  constructor
  · rintro (_ | ⟨hreference, _, _⟩ | ⟨_, h⟩)
    · rw [hdirect] at hreference
      cases hreference
    · exact h
  · exact .keywords hdirect

theorem valid_iff_target {name : String} {target : Json}
    (hreference : Members.get? schema "$ref" = some (.string (definitionsPath ++ name)))
    (htarget : Members.get? definitions name = some target) :
    Valid definitions (.object schema) value ↔ Valid definitions target value := by
  constructor
  · rintro (_ | ⟨hother, hfound, h⟩ | ⟨hdirect, _⟩)
    · have htexts := Json.string.inj (Option.some.inj (hreference.symm.trans hother))
      obtain rfl : name = _ := by simpa using htexts
      cases htarget.symm.trans hfound
      exact h
    · rw [hreference] at hdirect
      cases hdirect
  · exact .reference hreference htarget

theorem Valid.congr {other : Members Json}
    (hsame : ∀ key, key ≠ "$comment" → Members.get? other key = Members.get? schema key)
    (h : Valid definitions (.object schema) value) : Valid definitions (.object other) value := by
  rcases h with _ | ⟨hreference, htarget, h⟩ | ⟨hdirect, h⟩
  · exact .reference (by rwa [hsame _ (by decide)]) htarget h
  · refine .keywords (by rwa [hsame _ (by decide)]) ?_
    cases h with
    | intro type enum allOf items firstItems required properties =>
      exact .intro (by rwa [hsame _ (by decide)]) (by rwa [hsame _ (by decide)]) (by rwa [hsame _ (by decide)])
        (by rwa [hsame _ (by decide)]) (by rwa [hsame _ (by decide)]) (by rwa [hsame _ (by decide)])
        (by rwa [hsame _ (by decide)])

theorem valid_comment_iff (text : Json) :
    Valid definitions (.object (Members.set schema "$comment" text)) value ↔
      Valid definitions (.object schema) value := by
  have hsame : ∀ key, key ≠ "$comment" →
      Members.get? (Members.set schema "$comment" text) key = Members.get? schema key := by
    intro key hkey
    rw [Members.get?_set, if_neg (Ne.symm hkey)]
  exact ⟨.congr fun key hkey => (hsame key hkey).symm, .congr hsame⟩

theorem valid_nil (value : Json) : Valid definitions (.object []) value :=
  (valid_iff_keywords rfl).2 ((keywords_iff _ _ _).2 (by simp [Members.get?_nil]))

/-! ### The fragments of a dialect -/

/-- The type stands first in what a dialect writes, and the other keywords are asked of the same value. -/
theorem valid_typed_iff (type : TypeName) (nullable : Bool) (hdirect : Members.get? schema "$ref" = none)
    (htype : Members.get? schema "type" = none) :
    Valid definitions (.object (("type", Dialect.typeValue type.word nullable) :: schema)) value ↔
      (nullable = true ∧ value = .null ∨ type.holds true value = true) ∧
        Keywords (Valid definitions) (.object schema) value := by
  have hwhole : Members.get? (("type", Dialect.typeValue type.word nullable) :: schema) "$ref" = none := by
    rw [Members.get?_cons, if_neg (by decide), hdirect]
  rw [valid_iff_keywords hwhole, ← hasDeclaredType_iff, keywords_iff, keywords_iff]
  simp [Members.get?_cons, htype]

theorem valid_primitive_iff (scalar : Builtin) (nullable : Bool) :
    Valid definitions (.object (Dialect.jsonSchema.primitive scalar nullable)) value ↔
      nullable = true ∧ value = .null ∨ scalar.typeName.holds true value = true := by
  have hword : Dialect.scalarName .jsonSchema scalar = scalar.typeName.word := by cases scalar <;> rfl
  have hkeywords : Keywords (Valid definitions) (.object []) value := by
    rw [keywords_iff]
    simp [Members.get?_nil]
  rw [Dialect.primitive, hword]
  exact (valid_typed_iff scalar.typeName nullable rfl rfl).trans (and_iff_left hkeywords)

theorem valid_enumeration_iff (values : List String) (nullable : Bool) :
    Valid definitions (.object (Dialect.jsonSchema.enumeration values nullable)) value ↔
      nullable = true ∧ value = .null ∨ ∃ text ∈ values, value = .string text := by
  refine (valid_typed_iff .string nullable rfl rfl).trans ?_
  have hkeywords : Keywords (Valid definitions)
      (.object [("enum", .array (values.map .string ++ if nullable then [.null] else []))]) value ↔
        ∃ wanted ∈ values.map .string ++ (if nullable then [.null] else []), Same wanted value := by
    rw [keywords_iff]
    simp [Members.get?_cons]
  rw [hkeywords]
  cases nullable <;> cases value <;> simp [TypeName.holds, same_null_iff, same_string_iff]

theorem valid_array_iff (items : Fragment) (nullable : Bool) :
    Valid definitions (.object (Dialect.jsonSchema.array items nullable)) value ↔
      nullable = true ∧ value = .null ∨
        ∃ parts, value = .array parts ∧ ∀ part ∈ parts, Valid definitions (.object items) part := by
  refine (valid_typed_iff .array nullable rfl rfl).trans ?_
  have hkeywords : Keywords (Valid definitions) (.object [("items", .object items)]) value ↔
      ∀ parts, value = .array parts → ∀ part ∈ parts, Valid definitions (.object items) part := by
    rw [keywords_iff]
    simp [Members.get?_cons, Json.array?]
  rw [hkeywords]
  cases value <;> simp [TypeName.holds]

/-- `Dialect.reference` puts a reference that refuses `null` into `allOf`, since a type beside `$ref` is
ignored. -/
theorem valid_reference_iff {name : String} {target : Json} (nullable : Bool)
    (htarget : Members.get? definitions name = some target) :
    Valid definitions (.object (Dialect.jsonSchema.reference (definitionsPath ++ name) nullable)) value ↔
      (nullable = false → TypeName.object.holds true value = true) ∧ Valid definitions target value := by
  cases nullable with
  | true => simpa using valid_iff_target rfl htarget
  | false =>
    have hkeywords : Keywords (Valid definitions)
        (.object [("allOf", .array [.object [("$ref", .string (definitionsPath ++ name))]])]) value ↔
          Valid definitions (.object [("$ref", .string (definitionsPath ++ name))]) value := by
      rw [keywords_iff]
      simp [Members.get?_cons]
    refine (valid_typed_iff .object false rfl rfl).trans ?_
    rw [hkeywords, valid_iff_target rfl htarget]
    simp

theorem valid_object_iff (properties : Members Fragment) (required : List String) (nullable : Bool) :
    Valid definitions (.object
        (("type", Dialect.typeValue "object" nullable) :: Dialect.schemaMembers properties required)) value ↔
      nullable = true ∧ value = .null ∨ ∃ members, value = .object members ∧
        (∀ name ∈ required, Members.contains members name = true) ∧
        ∀ property ∈ properties, ∀ part, Members.get? members property.1 = some part →
          Valid definitions (.object property.2) part := by
  have hdirect : Members.get? (Dialect.schemaMembers properties required) "$ref" = none := by
    cases required <;> rfl
  have htype : Members.get? (Dialect.schemaMembers properties required) "type" = none := by
    cases required <;> rfl
  have hkeywords : Keywords (Valid definitions) (.object (Dialect.schemaMembers properties required)) value ↔
      (∀ members, value = .object members → ∀ name ∈ required, Members.contains members name = true) ∧
        ∀ members, value = .object members → ∀ property ∈ properties, ∀ part,
          Members.get? members property.1 = some part → Valid definitions (.object property.2) part := by
    rw [keywords_iff]
    cases required <;> simp [Members.get?_cons, Dialect.schemaMembers, Dialect.propertiesValue,
      Dialect.requiredValue, Members.mapValues]
  refine (valid_typed_iff .object nullable hdirect htype).trans ?_
  rw [hkeywords]
  cases value <;> simp [TypeName.holds]

end DraftSeven

end JsonSchema

namespace Inference.IsPlain

open JsonSchema.DraftSeven

variable {inference : Inference} (h : inference.IsPlain .jsonSchema) {definitions : Members Json} {value : Json}
include h

theorem valid_free {position : Position} (hshape : position.isShaped inference.enumerations = false)
    (value : Json) : Valid definitions (.object (inference.bareFragment position)) value := by
  obtain ⟨name, leaf, nonNull, rfl, hleaf, hscalar, henumeration⟩ := Position.exists_of_not_isShaped hshape
  rw [bareFragment, if_neg hleaf, h.infer_eq, standard, hscalar, henumeration]
  exact valid_nil value

theorem valid_slotsFragment_iff (idOf : String → String) (slots : Members Position) (nullable : Bool) :
    Valid definitions (.object (("type", Dialect.typeValue "object" nullable) ::
        Dialect.schemaMembers (inference.slotProperties idOf (shapedSlots inference.enumerations slots))
          (requiredSlots (shapedSlots inference.enumerations slots)))) value ↔
      nullable = true ∧ value = .null ∨ ∃ members, value = .object members ∧
        Fills inference.enumerations
          (fun position part => Valid definitions (.object (inference.bareFragment position)) part)
          slots members := by
  rw [valid_object_iff]
  refine or_congr_right (exists_congr fun members => and_congr_right fun _ => ?_)
  rw [fills_iff_shaped fun position part hshape => h.valid_free hshape part]
  simp only [slotProperties, List.forall_mem_map, h.dialect, Dialect.tag, Dialect.tagKey, valid_comment_iff]

end Inference.IsPlain

end ArgGuard
