import ArgGuard.Proofs.Shape.Reading

/-!
# What a fragment says in any order

Whether a key of a fragment can be taken does not depend on the keys before it (`takeKey_anywhere`), and
what it writes belongs to it alone and comes from its value (`IsSlot`). So a fragment is read if each of its
keys can be taken and kind and target fit together, and the shape that is read goes by the values that
stand under the keys: `ofFragment_limits` for everything but the items and properties of the shape,
`ofFragment_itemsRel` and `Added.readsAs` for these.
-/

namespace ArgGuard

namespace Shape

variable {before after shape : Shape} {key name : String} {value : Json} {fragment other : Fragment}

/-! ### Whether a key can be taken -/

theorem takeMembers_anywhere {members : Members Json} (h : takeMembers members before = .ok after)
    (other : Shape) : ∃ result, takeMembers members other = .ok result := by
  induction members generalizing before other with
  | nil => exact ⟨other, rfl⟩
  | cons member rest ih =>
    obtain ⟨name, value⟩ := member
    rw [takeMembers, bind_eq_ok_iff] at h
    obtain ⟨found, hvalue, h⟩ := h
    cases found with
    | error error => cases h
    | ok property =>
      obtain ⟨result, hresult⟩ := ih h { other with properties := Members.set other.properties name property }
      refine ⟨result, ?_⟩
      rw [takeMembers, hvalue]
      exact hresult

theorem setScalar_anywhere (h : setScalar before key value = .ok after) (other : Shape) :
    ∃ result, setScalar other key value = .ok result := by
  unfold setScalar at h ⊢
  split at h
  all_goals simp only [bind_eq_ok_iff, pure, Except.pure, Except.ok.injEq] at h ⊢
  case h_1 | h_8 | h_9 =>
    obtain ⟨text, htext, h⟩ := h
    split at h
    · rename_i hfound
      exact ⟨_, text, htext, by rw [hfound]⟩
    · cases h
  case h_4 =>
    obtain ⟨items, hitems, names, hnames, -⟩ := h
    exact ⟨_, items, hitems, names, hnames, rfl⟩
  case h_14 =>
    obtain ⟨divisor, hdivisor, h⟩ := h
    split at h
    · cases h
    · rename_i hpositive
      exact ⟨_, divisor, hdivisor, by rw [if_neg hpositive]⟩
  case h_19 => exact ⟨other, rfl⟩
  all_goals
    obtain ⟨found, hfound, -⟩ := h
    exact ⟨_, found, hfound, rfl⟩

/-- `takeKey` fails by the key and its value alone. -/
theorem takeKey_anywhere (h : takeKey key value before = .ok after) (other : Shape) :
    ∃ result, takeKey key value other = .ok result := by
  by_cases hitems : key = "items"
  · subst hitems
    obtain ⟨inner, items, rfl, hread, -⟩ := takeKey_items h
    exact ⟨_, takeKey_items_of_ok hread⟩
  by_cases hproperties : key = "properties"
  · subst hproperties
    obtain ⟨members, properties, rfl, -, -⟩ := takeKey_properties h
    exact takeMembers_anywhere h other
  · rw [takeKey_scalar hitems hproperties] at h ⊢
    exact setScalar_anywhere h other

theorem exists_takeKey_of_mem {shape : Shape} (h : ofFragment fragment = .ok shape)
    (hmem : (key, value) ∈ fragment) : ∃ before after, takeKey key value before = .ok after := by
  obtain ⟨taken, htaken, -⟩ := ofFragment_eq_ok_iff.1 h
  clear h
  generalize ({} : Shape) = start at htaken
  induction fragment generalizing start with
  | nil => cases hmem
  | cons head rest ih =>
    obtain ⟨mid, hmid, hrest⟩ := takeKeys_cons_eq_ok_iff.1 htaken
    rcases List.mem_cons.1 hmem with rfl | hmem
    · exact ⟨start, mid, hmid⟩
    · exact ih hmem mid hrest

theorem exists_takeKeys (h : ∀ entry ∈ fragment, ∃ before after, takeKey entry.1 entry.2 before = .ok after)
    (start : Shape) : ∃ taken, takeKeys fragment start = .ok taken := by
  induction fragment generalizing start with
  | nil => exact ⟨start, rfl⟩
  | cons head rest ih =>
    obtain ⟨before, after, hhead⟩ := h _ List.mem_cons_self
    obtain ⟨mid, hmid⟩ := takeKey_anywhere hhead start
    obtain ⟨taken, htaken⟩ := ih (fun entry he => h entry (List.mem_cons_of_mem _ he)) mid
    exact ⟨taken, takeKeys_cons_eq_ok_iff.2 ⟨mid, hmid, htaken⟩⟩

/-! ### What a key writes -/

/-- After one key was taken with one value, whatever was there before, what belongs to it is the same. -/
structure Written (key : String) (after other : Shape) : Prop where
  kind : key = "kind" → after.kind = other.kind
  nullable : key = "nullable" → after.nullable = other.nullable
  target : key = "ref" → after.target = other.target
  required : key = "required" → after.required = other.required
  closed : key = "additionalProperties" → after.closed = other.closed
  minLength : key = "minLength" → after.minLength = other.minLength
  maxLength : key = "maxLength" → after.maxLength = other.maxLength
  pattern : key = "pattern" → after.pattern = other.pattern
  format : key = "format" → after.format = other.format
  minimum : key = "minimum" → after.minimum = other.minimum
  maximum : key = "maximum" → after.maximum = other.maximum
  exclusiveMinimum : key = "exclusiveMinimum" → after.exclusiveMinimum = other.exclusiveMinimum
  exclusiveMaximum : key = "exclusiveMaximum" → after.exclusiveMaximum = other.exclusiveMaximum
  multipleOf : key = "multipleOf" → after.multipleOf = other.multipleOf
  allowed : key = "enum" → after.allowed = other.allowed
  minItems : key = "minItems" → after.minItems = other.minItems
  maxItems : key = "maxItems" → after.maxItems = other.maxItems
  uniqueItems : key = "uniqueItems" → after.uniqueItems = other.uniqueItems

variable {otherBefore otherAfter : Shape}

theorem setScalar_written (h : setScalar before key value = .ok after)
    (hother : setScalar otherBefore key value = .ok otherAfter) : Written key after otherAfter := by
  unfold setScalar at h hother
  split at h
  all_goals simp only [bind_eq_ok_iff, pure, Except.pure, Except.ok.injEq] at h hother
  case h_1 | h_8 | h_9 =>
    obtain ⟨text, htext, h⟩ := h
    obtain ⟨otherText, hotherText, hother⟩ := hother
    cases htext.symm.trans hotherText
    split at h <;> cases h
    rename_i hfound
    rw [hfound] at hother
    cases hother
    constructor <;> intro hk <;> first | rfl | exact absurd hk (by decide)
  case h_4 =>
    obtain ⟨items, hitems, names, hnames, rfl⟩ := h
    obtain ⟨otherItems, hotherItems, otherNames, hotherNames, rfl⟩ := hother
    cases hitems.symm.trans hotherItems
    cases hnames.symm.trans hotherNames
    constructor <;> intro hk <;> first | rfl | exact absurd hk (by decide)
  case h_14 =>
    obtain ⟨divisor, hdivisor, h⟩ := h
    obtain ⟨otherDivisor, hotherDivisor, hother⟩ := hother
    cases hdivisor.symm.trans hotherDivisor
    split at h <;> cases h
    rename_i hpositive
    rw [if_neg hpositive] at hother
    cases hother
    constructor <;> intro hk <;> first | rfl | exact absurd hk (by decide)
  case h_19 => constructor <;> intro hk <;> exact absurd hk (by assumption)
  all_goals
    obtain ⟨found, hfound, rfl⟩ := h
    obtain ⟨otherFound, hotherFound, rfl⟩ := hother
    cases hfound.symm.trans hotherFound
    constructor <;> intro hk <;> first | rfl | exact absurd hk (by decide)

/-- A view of shapes that belongs to one key: no other key changes it, and this one writes it from its
value alone. -/
structure IsSlot {α : Type} (key : String) (view : Shape → α) : Prop where
  untouched : ∀ other before after, other ≠ key → Frame other before after → view after = view before
  decided : ∀ after other, Written key after other → view after = view other

/-- The shape with other items and properties. -/
def withParts (shape : Shape) (items : Option Shape) (properties : Members Shape) : Shape :=
  { shape with items := items, properties := properties }

/-! ### The shape of a fragment -/

theorem settleTarget_withParts (shape : Shape) (items : Option Shape) (properties : Members Shape) :
    settleTarget (shape.withParts items properties) =
      (settleTarget shape).map fun settled => settled.withParts items properties := by
  obtain ⟨kind, nullable, target⟩ := shape
  cases kind with
  | none => cases target <;> rfl
  | some kind => cases kind <;> cases target <;> rfl

section
variable (hd : (Members.names fragment).Nodup) (hdOther : (Members.names other).Nodup)
include hd hdOther

/-- A slot of the shape goes by the value under its key. -/
theorem IsSlot.takeKeys_eq {α : Type} {view : Shape → α} {taken otherTaken : Shape} (h : IsSlot key view)
    (hitems : key ≠ "items") (hproperties : key ≠ "properties")
    (hsame : Members.get? fragment key = Members.get? other key)
    (htaken : takeKeys fragment {} = .ok taken) (hotherTaken : takeKeys other {} = .ok otherTaken) :
    view otherTaken = view taken := by
  cases hvalue : Members.get? fragment key with
  | none =>
    have hnot : key ∉ Members.names fragment := by simp [Members.mem_names_iff, Members.contains, hvalue]
    have hnotOther : key ∉ Members.names other := by
      simp [Members.mem_names_iff, Members.contains, ← hsame, hvalue]
    rw [takeKeys_unread view h.untouched hnot htaken, takeKeys_unread view h.untouched hnotOther hotherTaken]
  | some value =>
    obtain ⟨old, new, hnew, -, hview⟩ := takeKeys_read view h.untouched hd hvalue htaken
    obtain ⟨otherOld, otherNew, hotherNew, -, hotherView⟩ :=
      takeKeys_read view h.untouched hdOther (hsame ▸ hvalue) hotherTaken
    rw [takeKey_scalar hitems hproperties] at hnew hotherNew
    rw [hview, hotherView, h.decided new otherNew (setScalar_written hnew hotherNew)]

variable (hsame : ∀ key, key ≠ "items" → key ≠ "properties" →
  Members.get? fragment key = Members.get? other key)
include hsame

theorem takeKeys_limits {taken otherTaken : Shape} (htaken : takeKeys fragment {} = .ok taken)
    (hotherTaken : takeKeys other {} = .ok otherTaken) :
    otherTaken = taken.withParts otherTaken.items otherTaken.properties := by
  have slot : ∀ {α : Type} {key : String} (view : Shape → α), IsSlot key view →
      key ≠ "items" ∧ key ≠ "properties" → view otherTaken = view taken :=
    fun _ h hkey => h.takeKeys_eq hd hdOther hkey.1 hkey.2 (hsame _ hkey.1 hkey.2) htaken hotherTaken
  have kind := slot Shape.kind ⟨fun _ _ _ hk hf => hf.kind hk, fun _ _ h => h.kind rfl⟩ (by decide)
  have nullable := slot Shape.nullable
    ⟨fun _ _ _ hk hf => hf.nullable hk, fun _ _ h => h.nullable rfl⟩ (by decide)
  have target := slot Shape.target
    ⟨fun _ _ _ hk hf => hf.target hk, fun _ _ h => h.target rfl⟩ (by decide)
  have required := slot Shape.required
    ⟨fun _ _ _ hk hf => hf.required hk, fun _ _ h => h.required rfl⟩ (by decide)
  have closed := slot Shape.closed
    ⟨fun _ _ _ hk hf => hf.closed hk, fun _ _ h => h.closed rfl⟩ (by decide)
  have minLength := slot Shape.minLength
    ⟨fun _ _ _ hk hf => hf.minLength hk, fun _ _ h => h.minLength rfl⟩ (by decide)
  have maxLength := slot Shape.maxLength
    ⟨fun _ _ _ hk hf => hf.maxLength hk, fun _ _ h => h.maxLength rfl⟩ (by decide)
  have pattern := slot Shape.pattern
    ⟨fun _ _ _ hk hf => hf.pattern hk, fun _ _ h => h.pattern rfl⟩ (by decide)
  have format := slot Shape.format
    ⟨fun _ _ _ hk hf => hf.format hk, fun _ _ h => h.format rfl⟩ (by decide)
  have minimum := slot Shape.minimum
    ⟨fun _ _ _ hk hf => hf.minimum hk, fun _ _ h => h.minimum rfl⟩ (by decide)
  have maximum := slot Shape.maximum
    ⟨fun _ _ _ hk hf => hf.maximum hk, fun _ _ h => h.maximum rfl⟩ (by decide)
  have exclusiveMinimum := slot Shape.exclusiveMinimum
    ⟨fun _ _ _ hk hf => hf.exclusiveMinimum hk, fun _ _ h => h.exclusiveMinimum rfl⟩ (by decide)
  have exclusiveMaximum := slot Shape.exclusiveMaximum
    ⟨fun _ _ _ hk hf => hf.exclusiveMaximum hk, fun _ _ h => h.exclusiveMaximum rfl⟩ (by decide)
  have multipleOf := slot Shape.multipleOf
    ⟨fun _ _ _ hk hf => hf.multipleOf hk, fun _ _ h => h.multipleOf rfl⟩ (by decide)
  have allowed := slot Shape.allowed
    ⟨fun _ _ _ hk hf => hf.allowed hk, fun _ _ h => h.allowed rfl⟩ (by decide)
  have minItems := slot Shape.minItems
    ⟨fun _ _ _ hk hf => hf.minItems hk, fun _ _ h => h.minItems rfl⟩ (by decide)
  have maxItems := slot Shape.maxItems
    ⟨fun _ _ _ hk hf => hf.maxItems hk, fun _ _ h => h.maxItems rfl⟩ (by decide)
  have uniqueItems := slot Shape.uniqueItems
    ⟨fun _ _ _ hk hf => hf.uniqueItems hk, fun _ _ h => h.uniqueItems rfl⟩ (by decide)
  cases otherTaken
  simp only [withParts, Shape.mk.injEq]
  exact ⟨kind, nullable, target, trivial, trivial, required, closed, minLength, maxLength, pattern, format,
    minimum, maximum, exclusiveMinimum, exclusiveMaximum, multipleOf, allowed, minItems, maxItems, uniqueItems⟩

/-- Fragments with the same values under all keys but `items` and `properties` are read as shapes that
differ in `withParts` alone; one is read where the other is, if its keys can be taken. -/
theorem ofFragment_limits (hshape : ofFragment fragment = .ok shape)
    (hkeys : ∀ entry ∈ other, ∃ before after, takeKey entry.1 entry.2 before = .ok after) :
    ∃ otherShape, ofFragment other = .ok otherShape ∧
      otherShape = shape.withParts otherShape.items otherShape.properties := by
  obtain ⟨taken, htaken, hsettle⟩ := ofFragment_eq_ok_iff.1 hshape
  obtain ⟨otherTaken, hotherTaken⟩ := exists_takeKeys hkeys {}
  have hsettleOther := settleTarget_withParts taken otherTaken.items otherTaken.properties
  rw [hsettle, ← takeKeys_limits hd hdOther hsame htaken hotherTaken] at hsettleOther
  exact ⟨_, ofFragment_eq_ok_iff.2 ⟨otherTaken, hotherTaken, hsettleOther⟩, rfl⟩

end

theorem ofFragment_unread {α : Type} (view : Shape → α)
    (hview : ∀ other before after, other ≠ key → Frame other before after → view after = view before)
    (hkind : ∀ shape kind, view { shape with kind := kind } = view shape)
    (hkey : Members.get? fragment key = none) (h : ofFragment fragment = .ok shape) : view shape = view {} := by
  obtain ⟨taken, htaken, hs⟩ := ofFragment_eq_ok_iff.1 h
  have hnot : key ∉ Members.names fragment := by simp [Members.mem_names_iff, Members.contains, hkey]
  rw [(settleTarget_spec hs).2.2, hkind, takeKeys_unread view hview hnot htaken]

/-- A document that a shape is read from. -/
def ReadsAs (value : Json) (shape : Shape) : Prop :=
  ∃ inner, value = .object inner ∧ ofFragment inner = .ok shape

theorem ReadsAs.eq {otherShape : Shape} (h : ReadsAs value shape) (hother : ReadsAs value otherShape) :
    shape = otherShape := by
  obtain ⟨inner, rfl, hinner⟩ := h
  obtain ⟨_, heq, hotherInner⟩ := hother
  cases heq
  exact Except.ok.inj (hinner.symm.trans hotherInner)

theorem exists_takeMembers {members : Members Json}
    (h : ∀ entry ∈ members, ∃ property, ReadsAs entry.2 property) (before : Shape) :
    ∃ after, takeMembers members before = .ok after := by
  induction members generalizing before with
  | nil => exact ⟨before, rfl⟩
  | cons head rest ih =>
    obtain ⟨name, value⟩ := head
    obtain ⟨property, inner, heq, hinner⟩ := h _ List.mem_cons_self
    obtain ⟨after, hafter⟩ := ih (fun entry he => h entry (List.mem_cons_of_mem _ he))
      { before with properties := Members.set before.properties name property }
    refine ⟨after, ?_⟩
    rw [takeMembers, ofValue_eq_ok_iff.2 ⟨inner, heq, hinner⟩]
    exact hafter

theorem ofFragment_itemsRel (hd : (Members.names fragment).Nodup) (h : ofFragment fragment = .ok shape) :
    Option.Rel ReadsAs (Members.get? fragment "items") shape.items := by
  cases hvalue : Members.get? fragment "items" with
  | none =>
    rw [ofFragment_unread Shape.items (fun _ _ _ hk hf => hf.items hk) (fun _ _ => rfl) hvalue h]
    exact .none
  | some value =>
    obtain ⟨old, new, hnew, -, hview⟩ :=
      ofFragment_read Shape.items (fun _ _ _ hk hf => hf.items hk) (fun _ _ => rfl) hd hvalue h
    obtain ⟨inner, items, rfl, hinner, rfl⟩ := takeKey_items hnew
    rw [hview]
    exact .some ⟨inner, rfl, hinner⟩

namespace Added

variable {members : Members Json} {properties final : Members Shape}

theorem names_eq (h : Added members properties final)
    (hd : (Members.names properties ++ Members.names members).Nodup) :
    Members.names final = Members.names properties ++ Members.names members := by
  induction h with
  | nil properties => exact (List.append_nil _).symm
  | @cons name inner property rest properties final _ _ ih =>
    have hnew : name ∉ Members.names properties := fun hmem =>
      (List.nodup_append.1 hd).2.2 name hmem name List.mem_cons_self rfl
    have hnames :
        Members.names (Members.set properties name property) = Members.names properties ++ [name] := by
      rw [Members.set_of_notMem hnew, Members.names, List.map_append]
      rfl
    rw [ih] <;> rw [hnames, List.append_assoc]
    · rfl
    · exact hd

theorem readsAs (h : Added members [] final) (hd : (Members.names members).Nodup) (name : String) :
    Option.Rel ReadsAs (Members.get? members name) (Members.get? final name) := by
  cases hvalue : Members.get? members name with
  | none =>
    have hnot : name ∉ Members.names members := by simp [Members.mem_names_iff, Members.contains, hvalue]
    rw [h.get?_of_notMem hnot]
    exact .none
  | some value =>
    obtain ⟨inner, property, heq, hinner, hproperty⟩ := h.get?_of_mem hd (Members.mem_of_get? hvalue)
    rw [hproperty]
    exact .some ⟨inner, heq, hinner⟩

end Added

end Shape

end ArgGuard
