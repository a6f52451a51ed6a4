import ArgGuard.Proofs.Shape.Parts
import ArgGuard.Proofs.Shape.Reading
import ArgGuard.Schema.Dialect

/-!
# References of shapes

A shape refers to another unit by its target, at its top or inside its items and properties. The
references of a fragment are found by looking for texts under a key, without reading the fragment as
a shape. `refersWithin_references` says that the search misses none: wherever a shape that was read from
the fragment has a target, the search has found it.

`Everywhere.visits` says that the shapes that a check comes across keep whatever holds everywhere in the
shape and in the table, and `resolve_error` and `resolve_direct` what this means for following their
references.
-/

namespace ArgGuard

/-! ### Texts under a key -/

namespace Dialect

variable {key text : String}

theorem mem_textsUnderItems {items : List Json} :
    text ∈ textsUnderItems key items ↔ ∃ item ∈ items, text ∈ textsUnder key item := by
  induction items with
  | nil => simp [textsUnderItems]
  | cons item rest ih => simp [textsUnderItems, ih]

theorem mem_textsUnderMembers {members : Members Json} :
    text ∈ textsUnderMembers key members ↔
      (key, .string text) ∈ members ∨
        ∃ member ∈ members, text ∈ textsUnder key member.2 := by
  induction members with
  | nil => simp [textsUnderMembers]
  | cons head rest ih =>
    obtain ⟨name, value⟩ := head
    cases value with
    | string found =>
      rw [textsUnderMembers]
      split
      · rename_i hk
        subst hk
        simp [ih, textsUnder, or_assoc]
      · rename_i hk
        simp [ih, textsUnder, Ne.symm hk]
    | null | bool | number | array | object => simp [textsUnderMembers, ih, or_left_comm]

theorem mem_textsUnder_object {members : Members Json} :
    text ∈ textsUnder key (.object members) ↔ text ∈ textsUnderMembers key members := by
  rw [textsUnder]

end Dialect

namespace Shape

variable {rules : CheckRules} {table : UnitTable} {shape target inner : Shape} {value part : Json}
  {fragment : Fragment} {P Q : Shape → Prop}

/-! ### Following references -/

theorem resolve_of_kind_ne (hk : shape.kind ≠ some .ref) (hops : Nat) :
    resolve table hops shape = .ok shape := by
  rw [resolve, if_pos hk]

theorem resolve_of_missing (hk : shape.kind = some .ref)
    (hn : Members.get? table (shape.target.getD "") = none) (hops : Nat) :
    resolve table hops shape = .error (.unresolved (shape.target.getD "")) := by
  rw [resolve, if_neg (not_not_intro hk)]
  simp only [hn]

theorem resolve_zero (hk : shape.kind = some .ref)
    (hn : Members.get? table (shape.target.getD "") = some inner) :
    resolve table 0 shape = .error (.tooDeep (shape.target.getD "")) := by
  rw [resolve, if_neg (not_not_intro hk)]
  simp only [hn]

theorem resolve_succ (hk : shape.kind = some .ref)
    (hn : Members.get? table (shape.target.getD "") = some inner) (hops : Nat) :
    resolve table (hops + 1) shape = resolve table hops inner := by
  rw [resolve, if_neg (not_not_intro hk)]
  simp only [hn]

theorem resolve_invariant (I : Shape → Prop)
    (hnext : ∀ name next, Members.get? table name = some next → I next)
    {hops : Nat} (hshape : I shape) (h : resolve table hops shape = .ok target) : I target := by
  induction hops generalizing shape with
  | zero =>
    by_cases hk : shape.kind = some .ref
    · cases hn : Members.get? table (shape.target.getD "") with
      | none => rw [resolve_of_missing hk hn] at h; cases h
      | some next => rw [resolve_zero hk hn] at h; cases h
    · rw [resolve_of_kind_ne hk] at h
      cases h; exact hshape
  | succ hops ih =>
    by_cases hk : shape.kind = some .ref
    · cases hn : Members.get? table (shape.target.getD "") with
      | none => rw [resolve_of_missing hk hn] at h; cases h
      | some next =>
        rw [resolve_succ hk hn] at h
        exact ih (hnext _ _ hn) h
    · rw [resolve_of_kind_ne hk] at h
      cases h; exact hshape

/-! ### What holds everywhere in a shape -/

/-- A property of a shape and of every shape inside its items and properties. -/
inductive Everywhere (P : Shape → Prop) : Shape → Prop
  | intro {shape : Shape} (here : P shape)
      (items : ∀ part, shape.items = some part → Everywhere P part)
      (properties : ∀ entry ∈ shape.properties, Everywhere P entry.2) : Everywhere P shape

namespace Everywhere

theorem here (h : Everywhere P shape) : P shape := by cases h; assumption

theorem item (h : Everywhere P shape) (hp : shape.items = some inner) : Everywhere P inner := by
  cases h with
  | intro _ items _ => exact items inner hp

theorem property {name : String} (h : Everywhere P shape)
    (hp : Members.get? shape.properties name = some inner) : Everywhere P inner := by
  cases h with
  | intro _ _ properties => exact properties _ (Members.mem_of_get? hp)

theorem mono (h : Everywhere P shape) (hPQ : ∀ shape, P shape → Q shape) : Everywhere Q shape := by
  induction h with
  | intro here _ _ ihItems ihProperties => exact .intro (hPQ _ here) ihItems ihProperties

theorem resolve (htable : ∀ entry ∈ table, Everywhere P entry.2) {hops : Nat}
    (hshape : Everywhere P shape) (h : Shape.resolve table hops shape = .ok target) :
    Everywhere P target :=
  resolve_invariant (Everywhere P) (fun _ _ hn => htable _ (Members.mem_of_get? hn)) hshape h

/-- What holds `Everywhere` in a shape and in the table holds at every place that a check `Visits`. -/
theorem visits (htable : ∀ entry ∈ rules.table, Everywhere P entry.2) (hshape : Everywhere P shape)
    (h : Visits rules shape value inner part) : Everywhere P inner := by
  induction h with
  | here => exact hshape
  | item htarget hs _ _ ih => exact ih ((hshape.resolve htable (targetOf_resolve htarget)).item hs)
  | member htarget hs _ _ ih =>
    exact ih ((hshape.resolve htable (targetOf_resolve htarget)).property hs)

end Everywhere

/-! ### The search finds every target -/

/-- A reference among these names. -/
def RefersWithin (names : List String) (shape : Shape) : Prop :=
  shape.kind = some .ref → ∃ target ∈ names, shape.target = some target

theorem RefersWithin.mono {names others : List String} (hsub : ∀ name ∈ names, name ∈ others)
    (h : RefersWithin names shape) : RefersWithin others shape := fun hk => by
  obtain ⟨target, hmem, ht⟩ := h hk
  exact ⟨target, hsub target hmem, ht⟩

/-- What is known of a shape in the middle of reading it. -/
structure ReadWithin (names : List String) (shape : Shape) : Prop where
  target : ∀ target, shape.target = some target → target ∈ names
  items : ∀ part, shape.items = some part → Everywhere (RefersWithin names) part
  properties : ∀ entry ∈ shape.properties, Everywhere (RefersWithin names) entry.2

theorem ReadWithin.takeKey {names : List String} {key : String} {value : Json} {before after : Shape}
    (hbefore : ReadWithin names before) (h : Shape.takeKey key value before = .ok after)
    (htarget : ∀ text, key = "ref" → value = .string text → text ∈ names)
    (hitems : ∀ inner items, value = .object inner → ofFragment inner = .ok items →
      Everywhere (RefersWithin names) items)
    (hproperties : ∀ members, value = .object members → ∀ name inner property,
      (name, .object inner) ∈ members → ofFragment inner = .ok property →
        Everywhere (RefersWithin names) property) : ReadWithin names after where
  target target ht := by
    rcases takeKey_target h ht with ht | ⟨rfl, rfl⟩
    · exact hbefore.target target ht
    · exact htarget target rfl rfl
  items part hp := by
    by_cases hi : key = "items"
    · subst hi
      obtain ⟨inner, found, rfl, hinner, rfl⟩ := takeKey_items h
      cases hp
      exact hitems inner part rfl hinner
    · exact hbefore.items part ((takeKey_frame h).items hi ▸ hp)
  properties entry he := by
    by_cases hp : key = "properties"
    · subst hp
      obtain ⟨members, final, rfl, hadded, rfl⟩ := takeKey_properties h
      rcases hadded.mem_final he with he | ⟨inner, hin, hinner⟩
      · exact hbefore.properties entry he
      · exact hproperties members rfl _ inner _ hin hinner
    · rw [(takeKey_frame h).properties hp] at he
      exact hbefore.properties entry he

theorem refersWithin_references (h : ofFragment fragment = .ok shape) :
    Everywhere (RefersWithin (Dialect.native.references fragment)) shape := by
  induction fragment using fragment_induct generalizing shape with
  | step fragment ihItems ihProperties =>
    obtain ⟨taken, htaken, hsettle⟩ := ofFragment_eq_ok_iff.1 h
    have within : ∀ {inner : Fragment}, (∀ text ∈ Dialect.native.references inner,
        text ∈ Dialect.native.references fragment) → ∀ {part : Shape},
        Everywhere (RefersWithin (Dialect.native.references inner)) part →
          Everywhere (RefersWithin (Dialect.native.references fragment)) part :=
      fun hsub _ hpart => hpart.mono fun _ => RefersWithin.mono hsub
    have hread : ReadWithin (Dialect.native.references fragment) taken := by
      refine takeKeys_invariant (ReadWithin (Dialect.native.references fragment)) ?_
        ⟨by simp, by simp, by simp⟩ htaken
      intro key value hmem before after hbefore hkey
      refine hbefore.takeKey hkey ?_ ?_ ?_
      · rintro text rfl rfl
        exact Dialect.mem_textsUnderMembers.2 (.inl hmem)
      · rintro inner items rfl hinner
        exact within (fun text ht => Dialect.mem_textsUnderMembers.2
          (.inr ⟨_, hmem, Dialect.mem_textsUnder_object.2 ht⟩)) (ihItems _ _ hmem hinner)
      · rintro members rfl name inner property hin hinner
        exact within (fun text ht => Dialect.mem_textsUnderMembers.2 (.inr ⟨_, hmem,
          Dialect.mem_textsUnder_object.2 (Dialect.mem_textsUnderMembers.2
            (.inr ⟨_, hin, Dialect.mem_textsUnder_object.2 ht⟩))⟩))
          (ihProperties _ _ hmem _ _ hin hinner)
    -- a shape is settled as a reference only by a target, which was read from the fragment
    obtain ⟨href, -, heq⟩ := settleTarget_spec hsettle
    have htarget : shape.target = taken.target := by rw [heq]
    refine .intro (fun hk => ?_) ?_ ?_
    · obtain ⟨target, ht⟩ := Option.isSome_iff_exists.1 (href.1 hk)
      exact ⟨target, hread.target target (htarget ▸ ht), ht⟩
    · rw [heq]; exact hread.items
    · rw [heq]; exact hread.properties

/-! ### Shapes whose references resolve -/

/-- A reference leads to a unit of the table. -/
def RefersInto (table : UnitTable) (shape : Shape) : Prop :=
  shape.kind = some .ref →
    ∃ name next, shape.target = some name ∧ Members.get? table name = some next

/-- A reference leads to a unit of the table that is no reference itself. -/
def RefersDirectly (table : UnitTable) (shape : Shape) : Prop :=
  shape.kind = some .ref →
    ∃ name next, shape.target = some name ∧ Members.get? table name = some next ∧
      next.kind ≠ some .ref

theorem resolve_error (htable : ∀ entry ∈ table, RefersInto table entry.2)
    (hshape : RefersInto table shape) {hops : Nat} {cause : CheckCause}
    (h : resolve table hops shape = .error cause) : ∃ name, cause = .tooDeep name := by
  induction hops generalizing shape with
  | zero =>
    by_cases hk : shape.kind = some .ref
    · obtain ⟨name, next, ht, hn⟩ := hshape hk
      have hnext : Members.get? table (shape.target.getD "") = some next := by rw [ht]; exact hn
      rw [resolve_zero hk hnext] at h
      cases h; exact ⟨_, rfl⟩
    · rw [resolve_of_kind_ne hk] at h; cases h
  | succ hops ih =>
    by_cases hk : shape.kind = some .ref
    · obtain ⟨name, next, ht, hn⟩ := hshape hk
      have hnext : Members.get? table (shape.target.getD "") = some next := by rw [ht]; exact hn
      rw [resolve_succ hk hnext] at h
      exact ih (htable _ (Members.mem_of_get? hn)) h
    · rw [resolve_of_kind_ne hk] at h; cases h

theorem resolve_direct (hshape : RefersDirectly table shape) (hops : Nat) :
    ∃ target, resolve table (hops + 1) shape = .ok target := by
  by_cases hk : shape.kind = some .ref
  · obtain ⟨name, next, ht, hn, hdirect⟩ := hshape hk
    have hnext : Members.get? table (shape.target.getD "") = some next := by rw [ht]; exact hn
    rw [resolve_succ hk hnext, resolve_of_kind_ne hdirect]
    exact ⟨next, rfl⟩
  · exact ⟨shape, resolve_of_kind_ne hk _⟩

end Shape

end ArgGuard
