import ArgGuard.JsonSchema.Value
import ArgGuard.Proofs.Graph.Classification
import ArgGuard.Proofs.Json.Structure
import ArgGuard.Proofs.Members

/-!
# Values that fit a position

`Fits` reads a type in the graph as the set of its values when nothing is converted: `null` where a level
admits it, a document of the right type for a scalar, a name of an enumeration, and the parts of lists and
input objects. It comes in two readings. The strict one takes no double for an integer at a position that
admits `null`; they differ in nothing else. `Stands` finds the positions at which the parts of a value
stand, and `fits_strict_iff` says with it what the stricter reading refuses.
-/

namespace ArgGuard

/-- The type of the documents that are values of a scalar. -/
def Builtin.typeName : Builtin → JsonSchema.TypeName
  | int => .integer
  | float => .number
  | string | id => .string
  | boolean => .boolean

theorem Builtin.eq_int_of_typeName (scalar : Builtin) (h : scalar.typeName = .integer) : scalar = .int := by
  cases scalar <;> first | rfl | cases h

namespace Position

/-- Whether anything is known of the values of a position. Of a list it is known that it is one. -/
def isShaped (enumerations : Members (List String)) : Position → Bool
  | named name leaf _ =>
    leaf = .inputObject || (Builtin.ofName? name).isSome || Members.contains enumerations name
  | list _ _ => true

end Position

/-- The fields of a type with their positions. -/
def GraphType.slots (type : GraphType) : Members Position :=
  type.fields.map fun field => (field.name, field.position)

/-- The arguments of a field with their positions. -/
def GraphField.slots (field : GraphField) : Members Position :=
  field.arguments.map fun argument => (argument.name, argument.position)

/-- The slots of which anything is known. -/
def shapedSlots (enumerations : Members (List String)) (slots : Members Position) : Members Position :=
  slots.filter fun slot => slot.2.isShaped enumerations

/-- The names of the slots that refuse `null`. -/
def requiredSlots (slots : Members Position) : List String :=
  (slots.filter fun slot => slot.2.nonNull).map (·.1)

section
variable {enumerations : Members (List String)} {slots : Members Position} {slot : String × Position}

theorem nodup_shapedSlots (hd : (Members.names slots).Nodup) :
    (Members.names (shapedSlots enumerations slots)).Nodup :=
  hd.sublist (List.Sublist.map _ List.filter_sublist)

theorem get?_shapedSlots (hd : (Members.names slots).Nodup) (hslot : slot ∈ slots)
    (hshape : slot.2.isShaped enumerations = true) :
    Members.get? (shapedSlots enumerations slots) slot.1 = some slot.2 :=
  Members.get?_of_mem (nodup_shapedSlots hd) (List.mem_filter.2 ⟨hslot, hshape⟩)

theorem mem_of_get?_shapedSlots {name : String} {position : Position}
    (h : Members.get? (shapedSlots enumerations slots) name = some position) :
    (name, position) ∈ slots ∧ position.isShaped enumerations = true :=
  List.mem_filter.1 (Members.mem_of_get? h)

theorem forall_requiredSlots_iff {P : String → Prop} :
    (∀ name ∈ requiredSlots (shapedSlots enumerations slots), P name) ↔ ∀ slot ∈ slots,
      slot.2.isShaped enumerations = true → slot.2.nonNull = true → P slot.1 := by
  simp only [requiredSlots, shapedSlots, List.mem_map, List.mem_filter]
  constructor
  · exact fun h slot hslot hshape hnonNull => h _ ⟨slot, ⟨⟨hslot, hshape⟩, hnonNull⟩, rfl⟩
  · rintro h _ ⟨slot, ⟨⟨hslot, hshape⟩, hnonNull⟩, rfl⟩
    exact h slot hslot hshape hnonNull

end

/-- Members that have what the slots ask for. A slot of which nothing is known asks for nothing. -/
structure Fills (enumerations : Members (List String)) (admits : Position → Json → Prop)
    (slots : Members Position) (members : Members Json) : Prop where
  present : ∀ slot ∈ slots, slot.2.isShaped enumerations = true → slot.2.nonNull = true →
    Members.contains members slot.1 = true
  admitted : ∀ slot ∈ slots, ∀ value, Members.get? members slot.1 = some value → admits slot.2 value

theorem Fills.congr {enumerations : Members (List String)} {admits others : Position → Json → Prop}
    {slots : Members Position} {members : Members Json}
    (h : ∀ slot ∈ slots, ∀ value, Members.get? members slot.1 = some value →
      (admits slot.2 value ↔ others slot.2 value)) :
    Fills enumerations admits slots members ↔ Fills enumerations others slots members := by
  constructor
  · rintro ⟨hpresent, hadmitted⟩
    exact ⟨hpresent, fun slot hslot value hv => (h slot hslot value hv).1 (hadmitted slot hslot value hv)⟩
  · rintro ⟨hpresent, hadmitted⟩
    exact ⟨hpresent, fun slot hslot value hv => (h slot hslot value hv).2 (hadmitted slot hslot value hv)⟩

theorem fills_iff_shaped {enumerations : Members (List String)} {admits : Position → Json → Prop}
    {slots : Members Position} {members : Members Json}
    (hfree : ∀ position value, position.isShaped enumerations = false → admits position value) :
    Fills enumerations admits slots members ↔
      (∀ name ∈ requiredSlots (shapedSlots enumerations slots), Members.contains members name = true) ∧
        ∀ slot ∈ shapedSlots enumerations slots, ∀ value, Members.get? members slot.1 = some value →
          admits slot.2 value := by
  constructor
  · rintro ⟨hpresent, hadmitted⟩
    exact ⟨forall_requiredSlots_iff.2 hpresent, fun slot hslot => hadmitted slot (List.mem_filter.1 hslot).1⟩
  · rintro ⟨hrequired, hshaped⟩
    refine ⟨forall_requiredSlots_iff.1 hrequired, fun slot hslot value hvalue => ?_⟩
    cases hshape : slot.2.isShaped enumerations with
    | false => exact hfree _ _ hshape
    | true => exact hshaped slot (List.mem_filter.2 ⟨hslot, hshape⟩) value hvalue

/-- The values of a position. Where `strict` says so, no double is an integer at a position that admits
`null`. -/
inductive Fits (graph : TypeGraph) (strict : Bool) : Position → Json → Prop
  | null {position : Position} (hnullable : position.nullable = true) : Fits graph strict position .null
  | free {position : Position} {value : Json} (hshape : position.isShaped graph.enumerations = false) :
      Fits graph strict position value
  | scalar {name : String} {leaf : Leaf} {nonNull : Bool} {scalar : Builtin} {value : Json}
      (hleaf : leaf ≠ .inputObject) (hname : Builtin.ofName? name = some scalar)
      (hholds : scalar.typeName.holds (nonNull || !strict) value = true) :
      Fits graph strict (.named name leaf nonNull) value
  | enumeration {name : String} {leaf : Leaf} {nonNull : Bool} {values : List String} {text : String}
      (hleaf : leaf ≠ .inputObject) (hname : Builtin.ofName? name = none)
      (hvalues : Members.get? graph.enumerations name = some values) (htext : text ∈ values) :
      Fits graph strict (.named name leaf nonNull) (.string text)
  | list {item : Position} {nonNull : Bool} {items : List Json}
      (hitems : ∀ value ∈ items, Fits graph strict item value) :
      Fits graph strict (.list item nonNull) (.array items)
  | inputObject {name : String} {nonNull : Bool} {type : GraphType} {members : Members Json}
      (htype : graph.find? name = some type)
      (hpresent : ∀ slot ∈ type.slots, slot.2.isShaped graph.enumerations = true →
        slot.2.nonNull = true → Members.contains members slot.1 = true)
      (hadmitted : ∀ slot ∈ type.slots, ∀ value, Members.get? members slot.1 = some value →
        Fits graph strict slot.2 value) :
      Fits graph strict (.named name .inputObject nonNull) (.object members)

/-- A position whose leaf is what the graph says of it, and no `ID`. -/
def TypeGraph.Settles (graph : TypeGraph) (position : Position) : Prop :=
  graph.Classifies position ∧ position.leafName ≠ "ID"

/-- A graph whose input objects have fields of different names, all of them at settled positions. -/
def TypeGraph.SettlesInputs (graph : TypeGraph) : Prop :=
  ∀ type ∈ graph.types, type.kind = .inputObject →
    (Members.names type.slots).Nodup ∧ ∀ slot ∈ type.slots, graph.Settles slot.2

/-- A part of a value stands at a position. -/
inductive Stands (graph : TypeGraph) : Position → Json → Position → Json → Prop
  | here (position : Position) (value : Json) : Stands graph position value position value
  | item {item inner : Position} {nonNull : Bool} {items : List Json} {value part : Json}
      (hvalue : value ∈ items) (hpart : Stands graph item value inner part) :
      Stands graph (.list item nonNull) (.array items) inner part
  | field {name : String} {nonNull : Bool} {type : GraphType} {slot : String × Position}
      {members : Members Json} {inner : Position} {value part : Json}
      (htype : graph.find? name = some type) (hslot : slot ∈ type.slots)
      (hvalue : Members.get? members slot.1 = some value) (hpart : Stands graph slot.2 value inner part) :
      Stands graph (.named name .inputObject nonNull) (.object members) inner part

/-- No number inside a value is written as a double where an `Int` stands that may be `null`. -/
def WritesIntegers (graph : TypeGraph) (position : Position) (value : Json) : Prop :=
  ∀ leaf x, ¬Stands graph position value (.named "Int" leaf false) (.number (.real x))

namespace JsonSchema.TypeName

variable {type : TypeName} {value : Json}

/-- The two readings of `TypeName.holds` differ in doubles that are integers, and in nothing else. -/
theorem holds_eq (h : type = .integer → ∀ x, value ≠ .number (.real x)) :
    type.holds false value = type.holds true value := by
  cases type with
  | integer =>
    cases value with
    | number n =>
      cases n with
      | integer => rfl
      | real x => exact absurd rfl (h rfl x)
    | null | bool | string | array | object => rfl
  | array | boolean | null | number | object | string => cases value <;> rfl

/-- `typeUnit` admits `null`, so a reference that refuses it stands beside the type `object`. -/
theorem object_and_iff {nonNull : Bool} {admits : Members Json → Prop} :
    ((!nonNull) = false → object.holds true value = true) ∧
        (true = true ∧ value = .null ∨ ∃ members, value = .object members ∧ admits members) ↔
      nonNull = false ∧ value = .null ∨ ∃ members, value = .object members ∧ admits members := by
  cases nonNull <;> cases value <;> simp [holds]

theorem holds_wide (h : type.holds false value = true) : type.holds true value = true := by
  rw [← holds_eq, h]
  rintro rfl x rfl
  cases h

end JsonSchema.TypeName

variable {graph : TypeGraph} {strict : Bool} {position item : Position} {name : String} {leaf : Leaf}
  {nonNull : Bool} {value : Json}

theorem Position.isShaped_named {enumerations : Members (List String)} (hleaf : leaf ≠ .inputObject) :
    (named name leaf nonNull).isShaped enumerations =
      ((Builtin.ofName? name).isSome || Members.contains enumerations name) := by
  simp [isShaped, hleaf]

theorem Position.exists_of_not_isShaped {enumerations : Members (List String)}
    (h : position.isShaped enumerations = false) : ∃ name leaf nonNull,
      position = .named name leaf nonNull ∧ leaf ≠ .inputObject ∧ Builtin.ofName? name = none ∧
        Members.get? enumerations name = none := by
  cases position with
  | list => cases h
  | named name leaf nonNull =>
    have hleaf : leaf ≠ .inputObject := by
      rintro rfl
      simp [isShaped] at h
    rw [isShaped_named hleaf, Bool.or_eq_false_iff, Option.isSome_eq_false_iff,
      Option.isNone_iff_eq_none, Members.contains, Option.isSome_eq_false_iff,
      Option.isNone_iff_eq_none] at h
    exact ⟨name, leaf, nonNull, rfl, hleaf, h.1, h.2⟩

/-! ### The values of each kind of position -/

theorem fits_scalar_iff {scalar : Builtin} (hleaf : leaf ≠ .inputObject)
    (hname : Builtin.ofName? name = some scalar) :
    Fits graph strict (.named name leaf nonNull) value ↔
      nonNull = false ∧ value = .null ∨ scalar.typeName.holds (nonNull || !strict) value = true := by
  constructor
  · rintro (hnullable | hshape | ⟨_, hscalar, hholds⟩ | ⟨_, hnone, _, _⟩)
    · exact .inl ⟨Bool.not_eq_true' _ ▸ hnullable, rfl⟩
    · rw [Position.isShaped_named hleaf, hname] at hshape
      cases hshape
    · cases hname.symm.trans hscalar
      exact .inr hholds
    · cases hname.symm.trans hnone
    · exact absurd rfl hleaf
  · rintro (⟨rfl, rfl⟩ | hholds)
    · exact .null rfl
    · exact .scalar hleaf hname hholds

theorem fits_enumeration_iff {values : List String} (hleaf : leaf ≠ .inputObject)
    (hname : Builtin.ofName? name = none) (hvalues : Members.get? graph.enumerations name = some values) :
    Fits graph strict (.named name leaf nonNull) value ↔
      nonNull = false ∧ value = .null ∨ ∃ text ∈ values, value = .string text := by
  constructor
  · rintro (hnullable | hshape | ⟨_, hscalar, _⟩ | ⟨_, _, hfound, htext⟩)
    · exact .inl ⟨Bool.not_eq_true' _ ▸ hnullable, rfl⟩
    · rw [Position.isShaped_named hleaf, Members.contains, hvalues, Option.isSome_some, Bool.or_true] at hshape
      cases hshape
    · cases hname.symm.trans hscalar
    · cases hvalues.symm.trans hfound
      exact .inr ⟨_, htext, rfl⟩
    · exact absurd rfl hleaf
  · rintro (⟨rfl, rfl⟩ | ⟨text, htext, rfl⟩)
    · exact .null rfl
    · exact .enumeration hleaf hname hvalues htext

theorem fits_list_iff :
    Fits graph strict (.list item nonNull) value ↔
      nonNull = false ∧ value = .null ∨
        ∃ items, value = .array items ∧ ∀ part ∈ items, Fits graph strict item part := by
  constructor
  · rintro (hnullable | hshape | _ | _ | hitems)
    · exact .inl ⟨Bool.not_eq_true' _ ▸ hnullable, rfl⟩
    · cases hshape
    · exact .inr ⟨_, rfl, hitems⟩
  · rintro (⟨rfl, rfl⟩ | ⟨items, rfl, hitems⟩)
    · exact .null rfl
    · exact .list hitems

theorem fits_inputObject_iff {type : GraphType} (htype : graph.find? name = some type) :
    Fits graph strict (.named name .inputObject nonNull) value ↔
      nonNull = false ∧ value = .null ∨
        ∃ members, value = .object members ∧
          Fills graph.enumerations (Fits graph strict) type.slots members := by
  constructor
  · rintro (hnullable | hshape | ⟨hleaf, _⟩ | ⟨hleaf, _⟩ | _ | ⟨hfound, hpresent, hadmitted⟩)
    · exact .inl ⟨Bool.not_eq_true' _ ▸ hnullable, rfl⟩
    · simp [Position.isShaped] at hshape
    · exact absurd rfl hleaf
    · exact absurd rfl hleaf
    · cases htype.symm.trans hfound
      exact .inr ⟨_, rfl, hpresent, hadmitted⟩
  · rintro (⟨rfl, rfl⟩ | ⟨members, rfl, hfills⟩)
    · exact .null rfl
    · exact .inputObject htype hfills.present hfills.admitted

/-! ### Relations that go by the same rules -/

/-- The rules of `Fits` in its wider reading, level by level. -/
structure Fits.Rules (graph : TypeGraph) (admits : Position → Json → Prop) : Prop where
  free : ∀ position value, position.isShaped graph.enumerations = false → admits position value
  scalar : ∀ name leaf nonNull scalar value, leaf ≠ .inputObject → Builtin.ofName? name = some scalar →
    scalar ≠ .id → (admits (.named name leaf nonNull) value ↔
      nonNull = false ∧ value = .null ∨ scalar.typeName.holds true value = true)
  enumeration : ∀ name leaf nonNull values value, leaf ≠ .inputObject → Builtin.ofName? name = none →
    Members.get? graph.enumerations name = some values → (admits (.named name leaf nonNull) value ↔
      nonNull = false ∧ value = .null ∨ ∃ text ∈ values, value = .string text)
  list : ∀ item nonNull value, admits (.list item nonNull) value ↔
    nonNull = false ∧ value = .null ∨ ∃ items, value = .array items ∧ ∀ part ∈ items, admits item part
  inputObject : ∀ type nonNull value, type ∈ graph.types → type.kind = .inputObject →
    (admits (.named type.name .inputObject nonNull) value ↔
      nonNull = false ∧ value = .null ∨
        ∃ members, value = .object members ∧ Fills graph.enumerations admits type.slots members)

/-- At settled positions `Fits.Rules` leaves no choice. -/
theorem Fits.Rules.iff_fits {admits : Position → Json → Prop} (h : Fits.Rules graph admits)
    (hgraph : graph.SettlesInputs) (hposition : graph.Settles position) :
    admits position value ↔ Fits graph false position value := by
  generalize hheight : value.height = height
  replace hheight := Nat.le_of_eq hheight
  induction height generalizing position value with
  | zero => exact absurd value.height_pos (Nat.not_lt.2 hheight)
  | succ height ih =>
    obtain ⟨hclassifies, hid⟩ := hposition
    cases position with
    | list item nonNull =>
      rw [h.list, fits_list_iff]
      refine or_congr_right (exists_congr fun items => and_congr_right ?_)
      rintro rfl
      refine forall₂_congr fun part hpart => ih ⟨hclassifies, hid⟩ ?_
      exact Nat.le_trans (Json.height_le_itemsHeight hpart) (Nat.le_of_succ_le_succ hheight)
    | named name leaf nonNull =>
      by_cases hleaf : leaf = .inputObject
      · subst hleaf
        obtain ⟨type, htype, rfl : type.name = name, hinput⟩ := hclassifies.inputObject rfl
        obtain ⟨-, hfields⟩ := hgraph type htype hinput
        rw [h.inputObject type nonNull value htype hinput,
          fits_inputObject_iff (TypeGraph.find?_eq_some_iff.2 ⟨htype, rfl⟩)]
        refine or_congr_right (exists_congr fun members => and_congr_right ?_)
        rintro rfl
        -- a field may be of this type again, but its value is a part of this one
        refine Fills.congr fun slot hslot part hpart => ih (hfields slot hslot) ?_
        exact Nat.le_trans (Json.height_le_membersHeight (Members.mem_of_get? hpart))
          (Nat.le_of_succ_le_succ hheight)
      · cases hname : Builtin.ofName? name with
        | some scalar =>
          have hscalar : scalar ≠ .id := by
            rintro rfl
            exact hid (Builtin.name_of_ofName? hname).symm
          rw [h.scalar _ _ _ _ _ hleaf hname hscalar, fits_scalar_iff hleaf hname, Bool.not_false,
            Bool.or_true]
        | none =>
          cases hvalues : Members.get? graph.enumerations name with
          | some values =>
            rw [h.enumeration _ _ _ _ _ hleaf hname hvalues, fits_enumeration_iff hleaf hname hvalues]
          | none =>
            have hshape : (Position.named name leaf nonNull).isShaped graph.enumerations = false := by
              rw [Position.isShaped_named hleaf, hname, Members.contains, hvalues]
              rfl
            exact iff_of_true (h.free _ _ hshape) (.free hshape)

/-! ### The two readings -/

namespace Fits

theorem relax (h : Fits graph true position value) : Fits graph false position value := by
  induction h with
  | null hnullable => exact .null hnullable
  | free hshape => exact .free hshape
  | @scalar name leaf nonNull scalar value hleaf hname hholds =>
    refine .scalar hleaf hname ?_
    rw [Bool.not_false, Bool.or_true]
    cases nonNull with
    | true => exact hholds
    | false => exact JsonSchema.TypeName.holds_wide hholds
  | enumeration hleaf hname hvalues htext => exact .enumeration hleaf hname hvalues htext
  | list _ ih => exact .list ih
  | inputObject htype hpresent _ ih => exact .inputObject htype hpresent ih

theorem stands {inner : Position} {part : Json} (h : Fits graph strict position value)
    (hstands : Stands graph position value inner part) : Fits graph strict inner part := by
  induction hstands with
  | here => exact h
  | item hvalue _ ih =>
    obtain ⟨-, hnull⟩ | ⟨_, heq, hitems⟩ := fits_list_iff.1 h
    · cases hnull
    · cases heq
      exact ih (hitems _ hvalue)
  | field htype hslot hvalue _ ih =>
    obtain ⟨-, hnull⟩ | ⟨_, heq, hfills⟩ := (fits_inputObject_iff htype).1 h
    · cases hnull
    · cases heq
      exact ih (hfills.admitted _ hslot _ hvalue)

theorem writesIntegers (h : Fits graph true position value) : WritesIntegers graph position value := by
  intro leaf x hstands
  by_cases hleaf : leaf = .inputObject
  · subst hleaf
    cases h.stands hstands with
    | free hshape => cases hshape
    | scalar hleaf _ _ => exact hleaf rfl
  · obtain ⟨-, hnull⟩ | hholds := (fits_scalar_iff hleaf rfl).1 (h.stands hstands)
    · cases hnull
    · cases hholds

/-- By induction on `Fits`: `WritesIntegers` rules out the doubles that only the lax reading takes. -/
theorem tighten (h : Fits graph false position value) (hwrites : WritesIntegers graph position value) :
    Fits graph true position value := by
  induction h with
  | null hnullable => exact .null hnullable
  | free hshape => exact .free hshape
  | @scalar name leaf nonNull scalar value hleaf hname hholds =>
    rw [Bool.not_false, Bool.or_true] at hholds
    refine .scalar hleaf hname ?_
    cases nonNull with
    | true => exact hholds
    | false =>
      refine (JsonSchema.TypeName.holds_eq fun htype x hx => hwrites leaf x ?_).trans hholds
      obtain rfl := scalar.eq_int_of_typeName htype
      rw [hx, ← Builtin.name_of_ofName? hname]
      exact .here _ _
  | enumeration hleaf hname hvalues htext => exact .enumeration hleaf hname hvalues htext
  | list _ ih =>
    refine .list fun part hpart => ih part hpart ?_
    exact fun leaf x hstands => hwrites leaf x (.item hpart hstands)
  | inputObject htype hpresent _ ih =>
    refine .inputObject htype hpresent fun slot hslot part hpart => ih slot hslot part hpart ?_
    exact fun leaf x hstands => hwrites leaf x (.field htype hslot hpart hstands)

end Fits

theorem fits_strict_iff :
    Fits graph true position value ↔ Fits graph false position value ∧ WritesIntegers graph position value :=
  ⟨fun h => ⟨h.relax, h.writesIntegers⟩, fun h => h.1.tighten h.2⟩

end ArgGuard
