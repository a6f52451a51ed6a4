import ArgGuard.Proofs.Members
import ArgGuard.Json.Basic

/-!
# Induction over documents

A document is nested through the lists of its items and members, so the recursor that comes with the
type speaks about those lists too. `Json.induct` hides them: what holds of an array may be shown from
the fact for every item, what holds of an object from the fact for every member.

`at?` finds the part of a document that stands at a place, the end of some steps into it.

A list of members can name a member twice, which no document that was read does: `hasDistinctNames`
says so of all objects in a document.
-/

namespace ArgGuard.Json

/-- Induction over the parts of a document. -/
@[elab_as_elim]
theorem induct {P : Json → Prop} (null : P .null) (bool : ∀ b, P (.bool b))
    (number : ∀ n, P (.number n)) (string : ∀ s, P (.string s))
    (array : ∀ items, (∀ item ∈ items, P item) → P (.array items))
    (object : ∀ members, (∀ member ∈ members, P member.2) → P (.object members))
    (document : Json) : P document :=
  @Json.rec P (fun items => ∀ item ∈ items, P item) (fun members => ∀ member ∈ members, P member.2)
    (fun member => P member.2) null bool number string array object
    (by simp) (fun _ _ hhead htail => List.forall_mem_cons.2 ⟨hhead, htail⟩)
    (by simp) (fun _ _ hhead htail => List.forall_mem_cons.2 ⟨hhead, htail⟩)
    (fun _ _ hvalue => hvalue) document

/-! ### Sizes -/

theorem size_pos (value : Json) : 0 < value.size := by
  cases value <;> simp [size]

theorem size_le_membersSize {members : Members Json} {name : String} {value : Json}
    (h : Members.get? members name = some value) : value.size ≤ membersSize members := by
  induction members with
  | nil => cases h
  | cons head rest ih =>
    obtain ⟨key, old⟩ := head
    rw [Members.get?_cons] at h
    rw [membersSize]
    split at h
    · cases h; exact Nat.le_add_right _ _
    · exact Nat.le_add_left_of_le (ih h)

theorem height_pos (value : Json) : 0 < value.height := by
  cases value <;> simp [height]

theorem height_le_itemsHeight {items : List Json} {item : Json} (h : item ∈ items) :
    item.height ≤ itemsHeight items := by
  induction items with
  | nil => cases h
  | cons first rest ih =>
    rw [itemsHeight]
    rcases List.mem_cons.1 h with rfl | h
    · exact Nat.le_max_left _ _
    · exact Nat.le_trans (ih h) (Nat.le_max_right _ _)

theorem height_le_membersHeight {members : Members Json} {member : String × Json} (h : member ∈ members) :
    member.2.height ≤ membersHeight members := by
  induction members with
  | nil => cases h
  | cons head rest ih =>
    rw [membersHeight]
    rcases List.mem_cons.1 h with rfl | h
    · exact Nat.le_max_left _ _
    · exact Nat.le_trans (ih h) (Nat.le_max_right _ _)

/-! ### Places -/

/-- One step into a document. -/
inductive Step
  | item (index : Nat)
  | member (name : String)
deriving DecidableEq

/-- The part of a document that stands at the end of some steps; of members of one name the first. -/
def at? : List Step → Json → Option Json
  | [], value => some value
  | .item index :: rest, .array items => items[index]?.bind (at? rest)
  | .member name :: rest, .object members => (Members.get? members name).bind (at? rest)
  | _ :: _, _ => none

@[simp] theorem at?_nil (value : Json) : value.at? [] = some value := rfl

@[simp] theorem at?_item (index : Nat) (rest : List Step) (items : List Json) :
    (array items).at? (.item index :: rest) = items[index]?.bind (at? rest) := rfl

@[simp] theorem at?_member (name : String) (rest : List Step) (members : Members Json) :
    (object members).at? (.member name :: rest) = (Members.get? members name).bind (at? rest) := rfl

/-! ### Names -/

mutual

/-- Whether no object inside a document has two members of one name. -/
def hasDistinctNames : Json → Bool
  | .array items => itemsHaveDistinctNames items
  | .object members => (Members.names members).Nodup && membersHaveDistinctNames members
  | _ => true

/-- Whether no object inside items has two members of one name. -/
def itemsHaveDistinctNames : List Json → Bool
  | [] => true
  | item :: rest => hasDistinctNames item && itemsHaveDistinctNames rest

/-- Whether no object inside members has two members of one name. -/
def membersHaveDistinctNames : List (String × Json) → Bool
  | [] => true
  | (_, value) :: rest => hasDistinctNames value && membersHaveDistinctNames rest

end

theorem hasDistinctNames_array {items : List Json} :
    hasDistinctNames (.array items) = true ↔ ∀ item ∈ items, item.hasDistinctNames = true := by
  rw [hasDistinctNames]
  induction items with
  | nil => simp [itemsHaveDistinctNames]
  | cons item rest ih => simp [itemsHaveDistinctNames, ih]

theorem membersHaveDistinctNames_iff {members : Members Json} :
    membersHaveDistinctNames members = true ↔ ∀ member ∈ members, member.2.hasDistinctNames = true := by
  induction members with
  | nil => simp [membersHaveDistinctNames]
  | cons head rest ih => simp [membersHaveDistinctNames, ih]

theorem hasDistinctNames_object {members : Members Json} :
    hasDistinctNames (.object members) = true ↔
      (Members.names members).Nodup ∧ ∀ member ∈ members, member.2.hasDistinctNames = true := by
  rw [hasDistinctNames, Bool.and_eq_true, decide_eq_true_iff, membersHaveDistinctNames_iff]

theorem hasDistinctNames_perm {members others : Members Json} (hperm : members.Perm others)
    (h : hasDistinctNames (.object members) = true) : hasDistinctNames (.object others) = true := by
  obtain ⟨hd, hmembers⟩ := hasDistinctNames_object.1 h
  exact hasDistinctNames_object.2 ⟨(hperm.map _).nodup_iff.1 hd,
    fun member hmem => hmembers member (hperm.mem_iff.2 hmem)⟩

section
variable {before after : Members Json} {key : String} {value other : Json}

theorem hasDistinctNames_member (h : hasDistinctNames (.object (before ++ (key, value) :: after)) = true) :
    value.hasDistinctNames = true :=
  (hasDistinctNames_object.1 h).2 _ (List.mem_append_right _ List.mem_cons_self)

theorem hasDistinctNames_replace (hvalue : value.hasDistinctNames = true → other.hasDistinctNames = true)
    (h : hasDistinctNames (.object (before ++ (key, value) :: after)) = true) :
    hasDistinctNames (.object (before ++ (key, other) :: after)) = true := by
  obtain ⟨hd, hmembers⟩ := hasDistinctNames_object.1 h
  refine hasDistinctNames_object.2 ⟨?_, ?_⟩
  · simpa [Members.names] using hd
  · simp only [List.forall_mem_append, List.forall_mem_cons] at hmembers ⊢
    exact ⟨hmembers.1, hvalue hmembers.2.1, hmembers.2.2⟩

end

theorem hasDistinctNames_at? {place : List Step} {value part : Json} (hd : value.hasDistinctNames = true)
    (h : value.at? place = some part) : part.hasDistinctNames = true := by
  induction place generalizing value with
  | nil => cases h; exact hd
  | cons step rest ih =>
    cases step with
    | item index =>
      cases value with
      | array items =>
        rw [at?_item, Option.bind_eq_some_iff] at h
        obtain ⟨item, hitem, h⟩ := h
        exact ih (hasDistinctNames_array.1 hd item (List.mem_of_getElem? hitem)) h
      | null | bool | number | string | object => cases h
    | member name =>
      cases value with
      | object members =>
        rw [at?_member, Option.bind_eq_some_iff] at h
        obtain ⟨value, hvalue, h⟩ := h
        exact ih ((hasDistinctNames_object.1 hd).2 _ (Members.mem_of_get? hvalue)) h
      | null | bool | number | string | array => cases h

end ArgGuard.Json
