import ArgGuard.Proofs.JsonSchema.Definitions
import ArgGuard.Proofs.Schema.Bare
import ArgGuard.Proofs.Schema.Fits

/-!
# Reading the fragments of positions

Keyword by keyword a schema is read into a list of terms. A comment says nothing (`own_comment`), so the
tags of fragments make no difference. What the fragment of a position without an override says in the
seventh draft can then be written down: `bareSchema`, and `slotsSchema` for an object of several positions.
None of these fragments has an identifier, so they are all read in the context of the document.
-/

namespace ArgGuard

namespace JsonSchema

namespace Reading

variable {reading : Reading} {context : Context} {siblings others : List (String × Part)}
  {keyword : String} {members : Members Json}

/-- What a schema says that stands in its own context. -/
def own (reading : Reading) (context : Context) (members : Members Json) : Schema :=
  reading.assemble context (parts reading context members)

/-! ### Comments -/

theorem term?_congr (h : ∀ name, ¬name = "$comment" → sibling? others name = sibling? siblings name)
    (part : Part) :
    reading.term? context others keyword part = reading.term? context siblings keyword part := by
  have hvalue : ∀ name, ¬name = "$comment" → siblingValue? others name = siblingValue? siblings name := by
    intro name hname
    rw [siblingValue?, siblingValue?, h name hname]
  have hon : ∀ name, ¬name = "$comment" → isOn others name = isOn siblings name := by
    intro name hname
    rw [isOn, isOn, hvalue name hname]
  unfold term?
  simp (disch := decide) only [boundTerm, encodingTerm, contentTerm, takesOver, additionalPropertiesTerm,
    declaredBeside, matchedBeside, itemsTerm, additionalItemsTerm, containsTerm, choiceTerm, h, hvalue, hon]
  split
  case h_22 => rw [hon _ (by decide)]
  all_goals rfl

/-- The value of a keyword. -/
def partOf (reading : Reading) (context : Context) (keyword : String) (value : Json) : Part :=
  if holdsTable keyword then { raw := value, table := table reading context value }
  else { raw := value, schema := schema reading context value, list := list reading context value }

theorem parts_cons (value : Json) (rest : Members Json) : parts reading context ((keyword, value) :: rest) =
    (keyword, reading.partOf context keyword value) :: parts reading context rest := rfl

theorem parts_set (value : Json) : parts reading context (Members.set members keyword value) =
    Members.set (parts reading context members) keyword (reading.partOf context keyword value) := by
  induction members with
  | nil => rfl
  | cons member rest ih =>
    obtain ⟨key, old⟩ := member
    rw [Members.set, parts_cons, Members.set]
    split
    · rename_i heq
      rw [parts_cons, heq]
    · rw [parts_cons, ih]

theorem own_comment (text : Json) :
    reading.own context (Members.set members "$comment" text) = reading.own context members := by
  have hother : ∀ name, ¬name = "$comment" →
      sibling? (Members.set (parts reading context members) "$comment"
        (reading.partOf context "$comment" text)) name =
        sibling? (parts reading context members) name := by
    intro name hname
    rw [sibling?, sibling?, Members.get?_set, if_neg (Ne.symm hname)]
  have hreference :
      Members.contains (Members.set (parts reading context members) "$comment"
        (reading.partOf context "$comment" text)) "$ref" =
        Members.contains (parts reading context members) "$ref" :=
    congrArg Option.isSome (hother "$ref" (by decide))
  rw [own, own, parts_set, assemble, assemble, hreference]
  split
  · rw [Members.filter_set fun _ => rfl]
  · simp only [term?_congr hother]
    rw [Members.filterMap_set fun _ => rfl]

/-! ### Fragments -/

/-- An `Unnamed` schema is read where it stands. -/
theorem schema_eq_own (h : Unnamed context.draft (.object members)) :
    reading.schema context (.object members) = reading.own context members := by
  cases h with
  | schema hid hdraft _ =>
    have henter : context.enter? members = some context := by
      unfold Context.enter?
      rw [Draft.inside, hdraft]
      exact Context.withId?_eq hid
    rw [schema, henter]
    rfl
  | other h => cases h

theorem tabled_eq (properties : Members Fragment) :
    tabled reading context (Members.mapValues .object properties) = properties.map fun property =>
      (property.1, .object property.2, reading.schema context (.object property.2)) := by
  induction properties with
  | nil => rfl
  | cons property rest ih =>
    rw [Members.mapValues, List.map_cons, tabled, List.map_cons, ← ih]
    rfl

theorem own_schemaMembers (type : Json) (properties : Members Fragment) (required : List String) :
    reading.own context (("type", type) :: Dialect.schemaMembers properties required) =
      .all (typeTerm context (reading.partOf context "type" type) ::
        .properties (properties.map fun property =>
          (property.1, reading.schema context (.object property.2))) ::
        if required.isEmpty then [] else [.assertion (.required required)]) := by
  have hnamed : Part.named ⟨Dialect.propertiesValue properties, .broken, [],
      tabled reading context (Members.mapValues .object properties)⟩ =
        properties.map fun property => (property.1, reading.schema context (.object property.2)) := by
    rw [Part.named, tabled_eq, List.map_map]
    rfl
  have hnames : (required.map Json.string).mapM Json.string? = some required :=
    mapM_eq_some_iff.2 (List.forall₂_map_left_iff.2 (List.forall₂_same.2 fun _ _ => rfl))
  have hread : reading.own context (("type", type) :: Dialect.schemaMembers properties required) =
      .all (typeTerm context (reading.partOf context "type" type) ::
        .properties (Part.named ⟨Dialect.propertiesValue properties, .broken, [],
          tabled reading context (Members.mapValues .object properties)⟩) ::
        if required.isEmpty then [] else
          [Part.expect ((required.map Json.string).mapM Json.string?) fun names =>
            .assertion (.required names)]) := by
    obtain ⟨base, draft, outer, root⟩ := context
    cases draft <;> cases required <;> rfl
  rw [hread, hnamed, hnames]
  rfl

end Reading

/-- The term for a type, with `null` beside it or not. -/
def typeTest (type : TypeName) (nullable : Bool) : Schema :=
  .assertion (if nullable then .ofTypes (TypeName.all.filter [type, .null].contains) else .ofType type true)

def objectSchema (properties : List (String × Schema)) (required : List String) (nullable : Bool) : Schema :=
  .all (typeTest .object nullable :: .properties properties ::
    if required.isEmpty then [] else [.assertion (.required required)])

def referenceSchema (context : Context) (target : String) (nullable : Bool) : Schema :=
  let reference := Schema.all [.reference ⟨context, target.toList, false⟩]
  if nullable then reference else .all [typeTest .object false, .allOf [reference]]

/-- The schema of a position over which nothing was laid. -/
def bareSchema (context : Context) (enumerations : Members (List String)) : Position → Schema
  | .named name leaf nonNull =>
    if leaf = .inputObject then
      referenceSchema context (Dialect.jsonSchema.referenceId name none none) (!nonNull)
    else match Builtin.ofName? name with
      | some scalar => .all [typeTest scalar.typeName (!nonNull)]
      | none =>
        match Members.get? enumerations name with
        | some values =>
          .all [typeTest .string (!nonNull),
            .assertion (.among (values.map .string ++ if !nonNull then [.null] else []))]
        | none => .all []
  | .list item nonNull =>
    .all [typeTest .array (!nonNull), .items 0 (bareSchema context enumerations item)]

def slotsSchema (context : Context) (enumerations : Members (List String)) (slots : Members Position)
    (nullable : Bool) : Schema :=
  objectSchema
    ((shapedSlots enumerations slots).map fun slot => (slot.1, bareSchema context enumerations slot.2))
    (requiredSlots (shapedSlots enumerations slots)) nullable

namespace Reading

variable {reading : Reading} {context : Context} (hdraft : context.draft = .draft7)
include hdraft

theorem own_nil : reading.own context [] = .all [] := by
  obtain ⟨base, draft, outer, root⟩ := context
  cases hdraft
  rfl

theorem own_primitive (scalar : Builtin) (nullable : Bool) :
    reading.own context (Dialect.jsonSchema.primitive scalar nullable) =
      .all [typeTest scalar.typeName nullable] := by
  obtain ⟨base, draft, outer, root⟩ := context
  cases hdraft
  cases scalar <;> cases nullable <;> rfl

theorem own_enumeration (values : List String) (nullable : Bool) :
    reading.own context (Dialect.jsonSchema.enumeration values nullable) =
      .all [typeTest .string nullable,
        .assertion (.among (values.map .string ++ if nullable then [.null] else []))] := by
  obtain ⟨base, draft, outer, root⟩ := context
  cases hdraft
  cases nullable <;> rfl

theorem own_reference (target : String) (nullable : Bool) :
    reading.own context (Dialect.jsonSchema.reference target nullable) =
      referenceSchema context target nullable := by
  obtain ⟨base, draft, outer, root⟩ := context
  cases hdraft
  cases nullable <;> rfl

theorem own_array (items : Fragment) (nullable : Bool) :
    reading.own context (Dialect.jsonSchema.array items nullable) =
      .all [typeTest .array nullable, .items 0 (reading.schema context (.object items))] := by
  obtain ⟨base, draft, outer, root⟩ := context
  cases hdraft
  cases nullable <;> rfl

theorem own_object (properties : Members Fragment) (required : List String) (nullable : Bool) :
    reading.own context
        (("type", Dialect.typeValue "object" nullable) :: Dialect.schemaMembers properties required) =
      objectSchema (properties.map fun property => (property.1, reading.schema context (.object property.2)))
        required nullable := by
  rw [own_schemaMembers, objectSchema]
  congr 2
  obtain ⟨base, draft, outer, root⟩ := context
  cases hdraft
  cases nullable <;> rfl

end Reading

/-! ### No fragment has an identifier -/

section
variable {draft : Draft} {members : Members Json}

theorem subschemas_comment (text : Json) :
    draft.subschemas (Members.set members "$comment" text) = draft.subschemas members := by
  have hholder : draft.holder? "$comment" = none := rfl
  induction members with
  | nil => simp [Draft.subschemas, Members.set, hholder]
  | cons member rest ih =>
    obtain ⟨key, old⟩ := member
    rw [Members.set]
    split
    · rename_i heq
      subst heq
      simp [Draft.subschemas, hholder]
    · rw [Draft.subschemas, Draft.subschemas, List.flatMap_cons, List.flatMap_cons]
      exact congrArg _ ih

theorem Unnamed.comment (h : Unnamed draft (.object members)) (text : Json) :
    Unnamed draft (.object (Members.set members "$comment" text)) := by
  have hget : ∀ key, ¬"$comment" = key →
      Members.get? (Members.set members "$comment" text) key = Members.get? members key := by
    intro key hkey
    rw [Members.get?_set, if_neg hkey]
  cases h with
  | schema hid hdraft hinner =>
    refine .schema ?_ ?_ ?_
    · have hkey : ¬"$comment" = draft.idKeyword := by cases draft <;> decide
      rwa [Draft.id?, Draft.textOf?, hget _ hkey, Members.contains, hget _ (by decide)]
    · rwa [Draft.textOf?, hget _ (by decide)]
    · rwa [subschemas_comment]
  | other h => cases h

theorem unnamed_standard {inference : Inference} (h : inference.dialect = .jsonSchema) (name : String)
    (nonNull : Bool) : Unnamed .draft7 (.object (inference.standard name nonNull)) := by
  rw [Inference.standard, h]
  cases Builtin.ofName? name with
  | some scalar => exact .schema rfl rfl fun _ hinner => by cases hinner
  | none =>
    cases Members.get? inference.enumerations name with
    | some values => exact .schema rfl rfl fun _ hinner => by cases hinner
    | none => exact .schema rfl rfl fun _ hinner => by cases hinner

theorem unnamed_reference (target : String) (nullable : Bool) :
    Unnamed .draft7 (.object (Dialect.jsonSchema.reference target nullable)) := by
  have hreference : Unnamed .draft7 (.object [("$ref", .string target)]) :=
    .schema rfl rfl fun _ hinner => by cases hinner
  cases nullable with
  | true => exact hreference
  | false =>
    refine .schema rfl rfl fun contents hinner => ?_
    obtain rfl := List.mem_singleton.1 hinner
    exact hreference

theorem unnamed_array {items : Fragment} (h : Unnamed .draft7 (.object items)) (nullable : Bool) :
    Unnamed .draft7 (.object (Dialect.jsonSchema.array items nullable)) := by
  refine .schema rfl rfl fun contents hinner => ?_
  obtain rfl := List.mem_singleton.1 hinner
  exact h

theorem unnamed_object {properties : Members Fragment}
    (h : ∀ property ∈ properties, Unnamed .draft7 (.object property.2)) (type : Json)
    (required : List String) :
    Unnamed .draft7 (.object (("type", type) :: Dialect.schemaMembers properties required)) := by
  have hsubschemas : Draft.subschemas .draft7 (("type", type) :: Dialect.schemaMembers properties required) =
      (Members.mapValues Json.object properties).map Prod.snd := by
    cases required <;> exact List.append_nil _
  refine .schema ?_ ?_ fun contents hinner => ?_
  · cases required <;> rfl
  · cases required <;> rfl
  · rw [hsubschemas, Members.mapValues, List.map_map] at hinner
    obtain ⟨property, hproperty, rfl⟩ := List.mem_map.1 hinner
    exact h property hproperty

theorem unnamed_documentOf {definitions : Members Json}
    (h : ∀ definition ∈ definitions, Unnamed .draft7 definition.2) :
    Unnamed .draft7 (documentOf definitions) := by
  have hsubschemas : Draft.subschemas .draft7 [("definitions", .object definitions)] =
      definitions.map Prod.snd := List.append_nil _
  refine .schema rfl rfl fun contents hinner => ?_
  rw [hsubschemas] at hinner
  obtain ⟨definition, hdefinition, rfl⟩ := List.mem_map.1 hinner
  exact h definition hdefinition

end

end JsonSchema

open JsonSchema

namespace Inference.IsPlain

variable {inference : Inference} (h : inference.IsPlain .jsonSchema)
include h

theorem unnamed_bareFragment (position : Position) :
    Unnamed .draft7 (.object (inference.bareFragment position)) := by
  induction position with
  | named name leaf nonNull =>
    rw [bareFragment, h.dialect, h.infer_eq]
    split
    · exact unnamed_reference _ _
    · exact unnamed_standard h.dialect _ _
  | list item nonNull ih =>
    rw [bareFragment, h.dialect]
    exact unnamed_array ih _

theorem own_bareFragment {reading : Reading} {context : Context} (hdraft : context.draft = .draft7)
    (position : Position) : reading.own context (inference.bareFragment position) =
      bareSchema context inference.enumerations position := by
  induction position with
  | named name leaf nonNull =>
    rw [bareFragment, h.dialect, h.infer_eq, bareSchema]
    split
    · exact Reading.own_reference hdraft _ _
    · rw [standard, h.dialect]
      cases Builtin.ofName? name with
      | some scalar => exact Reading.own_primitive hdraft _ _
      | none =>
        cases Members.get? inference.enumerations name with
        | some values => exact Reading.own_enumeration hdraft _ _
        | none => exact Reading.own_nil hdraft
  | list item nonNull ih =>
    have hitem := h.unnamed_bareFragment item
    rw [← hdraft] at hitem
    rw [bareFragment, h.dialect, bareSchema, Reading.own_array hdraft, Reading.schema_eq_own hitem, ih]

theorem unnamed_slotsFragment (idOf : String → String) (slots : Members Position) (type : Json)
    (required : List String) : Unnamed .draft7 (.object
      (("type", type) :: Dialect.schemaMembers (inference.slotProperties idOf slots) required)) := by
  refine unnamed_object (fun property hproperty => ?_) type required
  obtain ⟨slot, -, rfl⟩ := List.mem_map.1 hproperty
  rw [h.dialect]
  exact (h.unnamed_bareFragment slot.2).comment _

theorem own_slotsFragment {reading : Reading} {context : Context} (hdraft : context.draft = .draft7)
    (idOf : String → String) (slots : Members Position) (nullable : Bool) :
    reading.own context (("type", Dialect.typeValue "object" nullable) ::
      Dialect.schemaMembers (inference.slotProperties idOf (shapedSlots inference.enumerations slots))
        (requiredSlots (shapedSlots inference.enumerations slots))) =
      slotsSchema context inference.enumerations slots nullable := by
  have hproperty : ∀ slot : String × Position, reading.schema context
      (.object (inference.dialect.tag (inference.bareFragment slot.2) (idOf slot.1))) =
        bareSchema context inference.enumerations slot.2 := by
    intro slot
    have hunnamed := (h.unnamed_bareFragment slot.2).comment (.string (idOf slot.1))
    rw [← hdraft] at hunnamed
    rw [h.dialect, Dialect.tag, Dialect.tagKey, Reading.schema_eq_own hunnamed, Reading.own_comment,
      h.own_bareFragment hdraft]
  rw [Reading.own_object hdraft, Inference.slotProperties, List.map_map, slotsSchema]
  simp only [Function.comp_def, hproperty]

end Inference.IsPlain

end ArgGuard
