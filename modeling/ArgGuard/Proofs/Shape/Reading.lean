import ArgGuard.Proofs.Json.Structure
import ArgGuard.Proofs.Members
import ArgGuard.Proofs.Sequencing
import ArgGuard.Shape.Parser

/-!
# What a fragment says about its shape

A fragment is read key by key. `Frame key` holds of a shape before and after one key was taken: only
what belongs to the key has changed. So a shape says about a key what the fragment says there, if no
key stands twice (`ofFragment_kind`, `ofFragment_items`, ...), and what the parser leaves behind is
consistent: `settleTarget_spec` makes a shape a reference exactly where there is a target.

`fragment_induct` is the induction that the parser follows: from the fragments below `items` and
from those below the members of `properties` to the fragment around them.
-/

namespace ArgGuard

/-- Induction over fragments: through a member that is an object (`items`), or through a member of one
(`properties`). -/
@[elab_as_elim]
theorem fragment_induct {P : Fragment → Prop}
    (step : ∀ fragment : Fragment,
      (∀ key inner, (key, .object inner) ∈ fragment → P inner) →
      (∀ key outer, (key, .object outer) ∈ fragment →
        ∀ name inner, (name, .object inner) ∈ outer → P inner) → P fragment)
    (fragment : Fragment) : P fragment := by
  -- a member of a member is two documents further in, so both levels are carried along
  suffices h : ∀ document : Json, ∀ inner, document = .object inner →
      P inner ∧ ∀ name deep, (name, .object deep) ∈ inner → P deep from
    (h (.object fragment) fragment rfl).1
  intro document
  induction document using Json.induct with
  | null | bool | number | string | array => intro inner h; cases h
  | object members ih =>
    rintro _ ⟨⟩
    have below : ∀ name deep, (name, Json.object deep) ∈ members →
        P deep ∧ ∀ name deeper, (name, .object deeper) ∈ deep → P deeper :=
      fun name deep h => ih _ h deep rfl
    exact ⟨step members (fun name deep h => (below name deep h).1)
      fun name deep h => (below name deep h).2, fun name deep h => (below name deep h).1⟩

namespace Shape

variable {shape before after : Shape} {key name : String} {value : Json} {fragment : Fragment}

/-- Between two shapes only that has changed which belongs to one key. -/
structure Frame (key : String) (before after : Shape) : Prop where
  kind : key ≠ "kind" → after.kind = before.kind
  nullable : key ≠ "nullable" → after.nullable = before.nullable
  target : key ≠ "ref" → after.target = before.target
  items : key ≠ "items" → after.items = before.items
  properties : key ≠ "properties" → after.properties = before.properties
  required : key ≠ "required" → after.required = before.required
  closed : key ≠ "additionalProperties" → after.closed = before.closed
  minLength : key ≠ "minLength" → after.minLength = before.minLength
  maxLength : key ≠ "maxLength" → after.maxLength = before.maxLength
  pattern : key ≠ "pattern" → after.pattern = before.pattern
  format : key ≠ "format" → after.format = before.format
  minimum : key ≠ "minimum" → after.minimum = before.minimum
  maximum : key ≠ "maximum" → after.maximum = before.maximum
  exclusiveMinimum : key ≠ "exclusiveMinimum" → after.exclusiveMinimum = before.exclusiveMinimum
  exclusiveMaximum : key ≠ "exclusiveMaximum" → after.exclusiveMaximum = before.exclusiveMaximum
  multipleOf : key ≠ "multipleOf" → after.multipleOf = before.multipleOf
  allowed : key ≠ "enum" → after.allowed = before.allowed
  minItems : key ≠ "minItems" → after.minItems = before.minItems
  maxItems : key ≠ "maxItems" → after.maxItems = before.maxItems
  uniqueItems : key ≠ "uniqueItems" → after.uniqueItems = before.uniqueItems

theorem Frame.refl (key : String) (shape : Shape) : Frame key shape shape := by
  constructor <;> exact fun _ => rfl

/-! ### One key -/

theorem expect_eq_ok_iff {α : Type} {form : ValueForm} {found : Option α} {a : α} :
    expect key form found = .ok a ↔ found = some a := by
  cases found <;> simp [expect]

theorem setScalar_frame (h : setScalar before key value = .ok after) : Frame key before after := by
  unfold setScalar at h
  split at h
  all_goals simp only [bind_eq_ok_iff, pure, Except.pure, Except.ok.injEq] at h
  case h_1 | h_8 | h_9 =>
    obtain ⟨text, -, h⟩ := h
    split at h <;> cases h
    constructor <;> intro hk <;> first | rfl | exact absurd rfl hk
  case h_4 =>
    obtain ⟨items, -, names, -, rfl⟩ := h
    constructor <;> intro hk <;> first | rfl | exact absurd rfl hk
  case h_14 =>
    obtain ⟨divisor, -, h⟩ := h
    split at h <;> cases h
    constructor <;> intro hk <;> first | rfl | exact absurd rfl hk
  case h_19 => exact h ▸ Frame.refl key before
  all_goals
    obtain ⟨limit, -, rfl⟩ := h
    constructor <;> intro hk <;> first | rfl | exact absurd rfl hk

def takeKey (key : String) (value : Json) (shape : Shape) : Except ShapeError Shape :=
  if key = "items" then do
    match ← ofValue key value with
    | .ok items => pure { shape with items := some items }
    | .error error => throw (.inItems error)
  else if key = "properties" then takeProperties key value shape
  else setScalar shape key value

theorem takeKeys_cons_eq_ok_iff {rest : Fragment} :
    takeKeys ((key, value) :: rest) before = .ok after ↔
      ∃ mid, takeKey key value before = .ok mid ∧ takeKeys rest mid = .ok after := by
  have hbind : takeKeys ((key, value) :: rest) before =
      takeKey key value before >>= takeKeys rest := by
    rw [takeKeys, takeKey]
    split
    · cases ofValue key value with
      | error error => rfl
      | ok found => cases found <;> rfl
    · split <;> rfl
  rw [hbind, bind_eq_ok_iff]

theorem ofValue_eq_ok_iff {found : Except ShapeError Shape} :
    ofValue key value = .ok found ↔ ∃ inner, value = .object inner ∧ ofFragment inner = found := by
  cases value with
  | object members => simp [ofValue, ofFragment]
  | null | bool | number | string | array => simp [ofValue]

theorem takeKey_items (h : takeKey "items" value before = .ok after) :
    ∃ inner items, value = .object inner ∧ ofFragment inner = .ok items ∧
      after = { before with items := some items } := by
  unfold takeKey at h
  obtain ⟨found, hv, h⟩ := bind_eq_ok_iff.1 h
  obtain ⟨inner, rfl, hi⟩ := ofValue_eq_ok_iff.1 hv
  cases found with
  | error error => cases h
  | ok items => cases h; exact ⟨inner, items, rfl, hi, rfl⟩

theorem takeKey_items_of_ok {inner : Fragment} {items : Shape} (h : ofFragment inner = .ok items) :
    takeKey "items" (.object inner) before = .ok { before with items := some items } := by
  rw [takeKey, if_pos rfl, ofValue_eq_ok_iff.2 ⟨inner, rfl, h⟩]
  rfl

/-- The properties after some more were read, each from its own fragment. -/
inductive Added : Members Json → Members Shape → Members Shape → Prop
  | nil (properties : Members Shape) : Added [] properties properties
  | cons {name : String} {inner : Fragment} {property : Shape} {rest : Members Json}
      {properties final : Members Shape} (hinner : ofFragment inner = .ok property)
      (hrest : Added rest (Members.set properties name property) final) :
      Added ((name, .object inner) :: rest) properties final

namespace Added

variable {members : Members Json} {properties final : Members Shape}

theorem mem_final {entry : String × Shape} (h : Added members properties final) (he : entry ∈ final) :
    entry ∈ properties ∨
      ∃ inner, (entry.1, .object inner) ∈ members ∧ ofFragment inner = .ok entry.2 := by
  induction h with
  | nil properties => exact .inl he
  | cons hinner _ ih =>
    rcases ih he with hin | ⟨inner, hmem, hi⟩
    · rcases Members.mem_set hin with rfl | hin
      · exact .inr ⟨_, List.mem_cons_self, hinner⟩
      · exact .inl hin
    · exact .inr ⟨inner, List.mem_cons_of_mem _ hmem, hi⟩

theorem get?_of_notMem (h : Added members properties final) (hn : name ∉ Members.names members) :
    Members.get? final name = Members.get? properties name := by
  induction h with
  | nil properties => rfl
  | @cons head inner property rest properties final _ _ ih =>
    rw [ih fun hk => hn (List.mem_cons_of_mem _ hk), Members.get?_set]
    exact if_neg fun he : head = name => hn (he ▸ List.mem_cons_self)

theorem get?_of_mem (hd : (Members.names members).Nodup) (h : Added members properties final)
    (hm : (name, value) ∈ members) :
    ∃ inner property, value = .object inner ∧ ofFragment inner = .ok property ∧
      Members.get? final name = some property := by
  induction h with
  | nil properties => cases hm
  | @cons head inner property rest properties final hinner hrest ih =>
    obtain ⟨hnot, hdrest⟩ := List.nodup_cons.1 hd
    rcases List.mem_cons.1 hm with heq | hm
    · cases heq
      refine ⟨inner, property, rfl, hinner, ?_⟩
      rw [hrest.get?_of_notMem hnot, Members.get?_set, if_pos rfl]
    · exact ih hdrest hm

end Added

theorem takeMembers_eq_ok {members : Members Json} (h : takeMembers members before = .ok after) :
    ∃ properties, Added members before.properties properties ∧
      after = { before with properties := properties } := by
  induction members generalizing before with
  | nil => cases h; exact ⟨after.properties, .nil _, by cases after; rfl⟩
  | cons head rest ih =>
    obtain ⟨name, value⟩ := head
    rw [takeMembers, bind_eq_ok_iff] at h
    obtain ⟨found, hv, h⟩ := h
    obtain ⟨inner, rfl, hi⟩ := ofValue_eq_ok_iff.1 hv
    cases found with
    | error error => cases h
    | ok property =>
      obtain ⟨properties, hadded, rfl⟩ := ih h
      exact ⟨properties, .cons hi hadded, rfl⟩

theorem takeKey_properties (h : takeKey "properties" value before = .ok after) :
    ∃ members properties, value = .object members ∧ Added members before.properties properties ∧
      after = { before with properties := properties } := by
  unfold takeKey at h
  simp only [String.reduceEq, if_false, if_true] at h
  cases value with
  | object members =>
    obtain ⟨properties, hadded, hafter⟩ := takeMembers_eq_ok h
    exact ⟨members, properties, rfl, hadded, hafter⟩
  | null | bool | number | string | array => cases h

theorem takeKey_scalar (hi : key ≠ "items") (hp : key ≠ "properties") :
    takeKey key value before = setScalar before key value := by
  rw [takeKey, if_neg hi, if_neg hp]

theorem takeKey_frame (h : takeKey key value before = .ok after) : Frame key before after := by
  by_cases hi : key = "items"
  · subst hi
    obtain ⟨inner, items, -, -, rfl⟩ := takeKey_items h
    constructor <;> intro hk <;> first | rfl | exact absurd rfl hk
  by_cases hp : key = "properties"
  · subst hp
    obtain ⟨members, properties, -, -, rfl⟩ := takeKey_properties h
    constructor <;> intro hk <;> first | rfl | exact absurd rfl hk
  · exact setScalar_frame (takeKey_scalar hi hp ▸ h)

theorem takeKey_target (h : takeKey key value before = .ok after) (ht : after.target = some name) :
    before.target = some name ∨ key = "ref" ∧ value = .string name := by
  by_cases hr : key = "ref"
  · subst hr
    rw [takeKey_scalar (by decide) (by decide)] at h
    simp only [setScalar, bind_eq_ok_iff, expect_eq_ok_iff, pure, Except.pure, Except.ok.injEq] at h
    obtain ⟨text, htext, rfl⟩ := h
    cases ht
    cases value <;> cases htext
    exact .inr ⟨rfl, rfl⟩
  · exact .inl ((takeKey_frame h).target hr ▸ ht)

/-! ### All keys -/

theorem takeKeys_unread {α : Type u} (view : Shape → α)
    (hview : ∀ other before after, other ≠ key → Frame other before after → view after = view before)
    (hkey : key ∉ Members.names fragment) (h : takeKeys fragment before = .ok after) :
    view after = view before := by
  induction fragment generalizing before with
  | nil => cases h; rfl
  | cons head rest ih =>
    obtain ⟨other, value⟩ := head
    obtain ⟨mid, hmid, hrest⟩ := takeKeys_cons_eq_ok_iff.1 h
    have hother : other ≠ key := fun he => hkey (he ▸ List.mem_cons_self)
    rw [ih (fun hk => hkey (List.mem_cons_of_mem _ hk)) hrest,
      hview _ _ _ hother (takeKey_frame hmid)]

/-- What `view` reads is decided by `takeKey` at one key: no other key touches it (`Frame`). -/
theorem takeKeys_read {α : Type u} (view : Shape → α)
    (hview : ∀ other before after, other ≠ key → Frame other before after → view after = view before)
    (hd : (Members.names fragment).Nodup) (hkey : Members.get? fragment key = some value)
    (h : takeKeys fragment before = .ok after) :
    ∃ old new, takeKey key value old = .ok new ∧ view old = view before ∧ view after = view new := by
  induction fragment generalizing before with
  | nil => cases hkey
  | cons head rest ih =>
    obtain ⟨other, found⟩ := head
    obtain ⟨mid, hmid, hrest⟩ := takeKeys_cons_eq_ok_iff.1 h
    obtain ⟨hnot, hdrest⟩ := List.nodup_cons.1 hd
    rw [Members.get?_cons] at hkey
    split at hkey
    · rename_i he
      subst he
      cases hkey
      -- the key does not stand again in the rest, which leaves alone what belongs to it
      exact ⟨before, mid, hmid, rfl, takeKeys_unread view hview hnot hrest⟩
    · rename_i hne
      obtain ⟨old, new, hnew, hold, hafter⟩ := ih hdrest hkey hrest
      exact ⟨old, new, hnew, hold.trans (hview _ _ _ hne (takeKey_frame hmid)), hafter⟩

theorem takeKeys_invariant (I : Shape → Prop) {before after : Shape}
    (hstep : ∀ key value, (key, value) ∈ fragment →
      ∀ before after, I before → takeKey key value before = .ok after → I after)
    (hb : I before) (h : takeKeys fragment before = .ok after) : I after := by
  induction fragment generalizing before with
  | nil => cases h; exact hb
  | cons head rest ih =>
    obtain ⟨mid, hmid, hrest⟩ := takeKeys_cons_eq_ok_iff.1 h
    exact ih (fun key value hm => hstep key value (List.mem_cons_of_mem _ hm))
      (hstep _ _ List.mem_cons_self _ _ hb hmid) hrest

/-! ### The finished shape -/

/-- `settleTarget` makes the kind `ref` of a target, and changes nothing else. -/
theorem settleTarget_spec (h : settleTarget before = .ok after) :
    (after.kind = some .ref ↔ after.target.isSome = true) ∧
      (∀ kind, before.kind = some kind → after.kind = some kind) ∧
      after = { before with kind := after.kind } := by
  unfold settleTarget at h
  split at h
  · rename_i target hk ht
    cases h
    refine ⟨by simp [ht], fun kind hkind => ?_, rfl⟩
    rw [hk] at hkind; cases hkind
  · cases h
  · rename_i kind target hk ht
    split at h <;> cases h
    rename_i href
    subst href
    exact ⟨by simp [hk, ht], fun _ h => h, by cases before; rfl⟩
  · rename_i ht hne
    cases h
    refine ⟨?_, fun _ h => h, by cases before; rfl⟩
    rw [ht]
    exact iff_of_false hne (by simp)

theorem ofFragment_eq_ok_iff :
    ofFragment fragment = .ok shape ↔
      ∃ taken, takeKeys fragment {} = .ok taken ∧ settleTarget taken = .ok shape := by
  rw [ofFragment, bind_eq_ok_iff]

theorem ofFragment_read {α : Type u} (view : Shape → α)
    (hview : ∀ other before after, other ≠ key → Frame other before after → view after = view before)
    (hkind : ∀ shape kind, view { shape with kind := kind } = view shape)
    (hd : (Members.names fragment).Nodup) (hkey : Members.get? fragment key = some value)
    (h : ofFragment fragment = .ok shape) :
    ∃ old new, takeKey key value old = .ok new ∧ view old = view {} ∧ view shape = view new := by
  obtain ⟨taken, ht, hs⟩ := ofFragment_eq_ok_iff.1 h
  obtain ⟨old, new, hnew, hold, hafter⟩ := takeKeys_read view hview hd hkey ht
  refine ⟨old, new, hnew, hold, ?_⟩
  rw [(settleTarget_spec hs).2.2, hkind, hafter]

theorem requiredNames_texts (names : List String) : requiredNames key (names.map .string) = .ok names := by
  rw [requiredNames, mapM_eq_ok_iff, List.forall₂_map_left_iff, List.forall₂_same]
  exact fun _ _ => rfl

section
variable (hd : (Members.names fragment).Nodup) (h : ofFragment fragment = .ok shape)
include hd h

theorem ofFragment_kind {kind : ShapeKind}
    (hkey : Members.get? fragment "kind" = some (.string kind.name)) : shape.kind = some kind := by
  obtain ⟨taken, ht, hs⟩ := ofFragment_eq_ok_iff.1 h
  obtain ⟨old, new, hnew, -, hafter⟩ :=
    takeKeys_read Shape.kind (fun _ _ _ hk hf => hf.kind hk) hd hkey ht
  refine (settleTarget_spec hs).2.1 kind (hafter.trans ?_)
  rw [takeKey_scalar (by decide) (by decide)] at hnew
  cases kind <;> cases hnew <;> rfl

theorem ofFragment_nullable {nullable : Bool}
    (hkey : Members.get? fragment "nullable" = some (.bool nullable)) :
    shape.nullable = nullable := by
  obtain ⟨old, new, hnew, -, hafter⟩ :=
    ofFragment_read Shape.nullable (fun _ _ _ hk hf => hf.nullable hk) (fun _ _ => rfl) hd hkey h
  rw [takeKey_scalar (by decide) (by decide)] at hnew
  cases hnew; exact hafter

theorem ofFragment_target {target : String}
    (hkey : Members.get? fragment "ref" = some (.string target)) : shape.target = some target := by
  obtain ⟨old, new, hnew, -, hafter⟩ :=
    ofFragment_read Shape.target (fun _ _ _ hk hf => hf.target hk) (fun _ _ => rfl) hd hkey h
  rw [takeKey_scalar (by decide) (by decide)] at hnew
  cases hnew; exact hafter

theorem ofFragment_items {inner : Fragment}
    (hkey : Members.get? fragment "items" = some (.object inner)) :
    ∃ items, ofFragment inner = .ok items ∧ shape.items = some items := by
  obtain ⟨old, new, hnew, -, hafter⟩ :=
    ofFragment_read Shape.items (fun _ _ _ hk hf => hf.items hk) (fun _ _ => rfl) hd hkey h
  obtain ⟨_, items, heq, hi, rfl⟩ := takeKey_items hnew
  cases heq; exact ⟨items, hi, hafter⟩

theorem ofFragment_required {required : List String}
    (hkey : Members.get? fragment "required" = some (.array (required.map .string))) :
    shape.required = required := by
  obtain ⟨old, new, hnew, -, hafter⟩ :=
    ofFragment_read Shape.required (fun _ _ _ hk hf => hf.required hk) (fun _ _ => rfl) hd hkey h
  rw [takeKey_scalar (by decide) (by decide)] at hnew
  simp only [setScalar, bind_eq_ok_iff, expect_eq_ok_iff, pure, Except.pure, Except.ok.injEq] at hnew
  obtain ⟨items, hitems, names, hn, rfl⟩ := hnew
  cases hitems
  rw [requiredNames_texts] at hn
  cases hn; exact hafter

theorem ofFragment_properties {members : Members Json}
    (hkey : Members.get? fragment "properties" = some (.object members)) :
    Added members [] shape.properties := by
  obtain ⟨old, new, hnew, hold, hafter⟩ :=
    ofFragment_read Shape.properties (fun _ _ _ hk hf => hf.properties hk) (fun _ _ => rfl) hd hkey h
  obtain ⟨_, properties, heq, hadded, rfl⟩ := takeKey_properties hnew
  cases heq
  rw [hold] at hadded
  rw [hafter]; exact hadded

end

end Shape
end ArgGuard
