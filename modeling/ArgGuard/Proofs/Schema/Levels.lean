import ArgGuard.Proofs.Json.Structure
import ArgGuard.Proofs.Schema.Overlay

/-!
# Overrides level by level

The fragment of a position has a level for every list and one for the leaf, each under `items` of the level
around it, and so has an override. `fragmentAt?_shapedFragment` says that a level of the fragment is what
the position of this level makes of the override of this level, whatever surrounds them. So it is enough to
look at one level: `get?_merge_of_overlaid` and `names_merge` say, together with the laws about keys that
are kept, what laying an override over the shape of one level comes to. `LevelFollows` puts this down for a
level of a finished fragment, where the outermost one carries the tag.
-/

namespace ArgGuard

namespace Dialect

variable {dialect : Dialect} {skipped : List String} {fragment overlay : Fragment} {key : String}
  {value : Json}

/-! ### One level -/

theorem overlays_congr {other : Fragment}
    (h : Members.contains other key = Members.contains fragment key) :
    dialect.overlays skipped other key = dialect.overlays skipped fragment key := by
  rw [overlays, overlays, h]

theorem overlays_set_of_ne {name : String} (hne : name ≠ key) :
    dialect.overlays skipped (Members.set fragment name value) key =
      dialect.overlays skipped fragment key :=
  overlays_congr (by rw [Members.contains, Members.contains, Members.get?_set, if_neg hne])

theorem get?_merge_of_overlaid (hd : (Members.names overlay).Nodup)
    (hkey : Members.get? overlay key = some value) (h : dialect.overlays skipped fragment key = true) :
    Members.get? (dialect.merge skipped fragment overlay) key = some value := by
  induction overlay generalizing fragment with
  | nil => cases hkey
  | cons entry rest ih =>
    obtain ⟨name, found⟩ := entry
    obtain ⟨hnew, hrest⟩ := List.nodup_cons.1 hd
    rw [Members.get?_cons] at hkey
    rw [merge_cons]
    by_cases hname : name = key
    · subst hname
      rw [if_pos rfl, Option.some.injEq] at hkey
      -- the name does not come again
      rw [if_pos h, get?_merge_of_absent, Members.get?_set, if_pos rfl, hkey]
      exact Bool.eq_false_iff.2 fun hc => hnew (Members.mem_names_iff.2 hc)
    · rw [if_neg hname] at hkey
      refine ih hrest hkey ?_
      split
      · rwa [overlays_set_of_ne hname]
      · exact h

theorem names_merge (hd : (Members.names overlay).Nodup) :
    Members.names (dialect.merge skipped fragment overlay) =
      Members.names fragment ++ (Members.names overlay).filter fun key =>
        dialect.overlays skipped fragment key && !Members.contains fragment key := by
  induction overlay generalizing fragment with
  | nil => exact (List.append_nil _).symm
  | cons entry rest ih =>
    obtain ⟨name, found⟩ := entry
    obtain ⟨hnew, hrest⟩ := List.nodup_cons.1 hd
    have hother : ∀ key ∈ Members.names rest, Members.contains (Members.set fragment name found) key =
        Members.contains fragment key := by
      intro key hkey
      rw [Members.contains, Members.contains, Members.get?_set,
        if_neg fun he : name = key => hnew (he ▸ hkey)]
    have hsame : ((Members.names rest).filter fun key =>
        dialect.overlays skipped (Members.set fragment name found) key &&
          !Members.contains (Members.set fragment name found) key) =
        (Members.names rest).filter fun key =>
          dialect.overlays skipped fragment key && !Members.contains fragment key :=
      List.filter_congr fun key hkey => by rw [overlays_congr (hother key hkey), hother key hkey]
    have hcons : Members.names ((name, found) :: rest) = name :: Members.names rest := rfl
    rw [merge_cons, ih hrest, hcons, List.filter_cons]
    by_cases hlaid : dialect.overlays skipped fragment name = true
    · rw [if_pos hlaid, hsame, Members.names_set]
      by_cases hold : Members.contains fragment name = true
      · rw [if_pos (Members.mem_names_iff.2 hold), if_neg (by simp [hold])]
      · rw [if_neg fun hmem => hold (Members.mem_names_iff.1 hmem), if_pos (by simp [hlaid, hold]),
          List.append_assoc]
        rfl
    · rw [if_neg hlaid, if_neg (by simp [hlaid])]

theorem itemsKey_ne_tagKey : itemsKey ≠ dialect.tagKey := by cases dialect <;> decide

theorem get?_array_items (items : Fragment) (nullable : Bool) :
    Members.get? (dialect.array items nullable) itemsKey = some (.object items) := by
  cases dialect <;> rfl

/-- The keys of an override that are not laid over a list. -/
def skippedAt : Position → List String
  | .named .. => []
  | .list .. => [itemsKey]

theorem mem_skippedAt_iff {position : Position} :
    key ∈ skippedAt position ↔ key = itemsKey ∧ position.isList = true := by
  cases position <;> simp [skippedAt, Position.isList, Position.item?]

end Dialect

/-! ### Levels -/

/-- The position so many lists further in. -/
def Position.levelAt? : Position → Nat → Option Position
  | position, 0 => some position
  | .list item _, level + 1 => item.levelAt? level
  | .named .., _ + 1 => none

theorem Position.levelAt?_zero (position : Position) : position.levelAt? 0 = some position := by
  cases position <;> rfl

theorem Position.levelAt?_succ (position : Position) (level : Nat) :
    position.levelAt? (level + 1) = (position.levelAt? level).bind Position.item? := by
  induction level generalizing position with
  | zero => cases position <;> simp [levelAt?, item?]
  | succ level ih =>
    cases position with
    | named => rfl
    | list item nonNull => exact ih item

def Dialect.fragmentAt? (fragment : Fragment) : Nat → Option Fragment
  | 0 => some fragment
  | level + 1 =>
    ((Members.get? fragment itemsKey).bind Json.object?).bind fun items => fragmentAt? items level

namespace Inference

variable {inference : Inference} {position inner : Position} {override : Option Fragment} {id : String}
  {level : Nat}

/-- The override for the level so many lists further in. -/
def overrideAt (override : Option Fragment) : Nat → Option Fragment
  | 0 => override
  | level + 1 => itemsOverride (overrideAt override level)

theorem overrideAt_itemsOverride (override : Option Fragment) (level : Nat) :
    overrideAt (itemsOverride override) level = overrideAt override (level + 1) := by
  induction level with
  | zero => rfl
  | succ level ih => rw [overrideAt, ih]; rfl

theorem nodup_overrideAt (hd : ∀ overlay ∈ override, (Json.object overlay).hasDistinctNames = true)
    (level : Nat) : (Members.names ((overrideAt override level).getD [])).Nodup := by
  have hlevel : ∀ overlay ∈ overrideAt override level, (Json.object overlay).hasDistinctNames = true := by
    induction level with
    | zero => exact hd
    | succ level ih =>
      intro overlay hoverlay
      obtain ⟨outer, houter, hitems⟩ := Option.bind_eq_some_iff.1 hoverlay
      obtain ⟨value, hvalue, hobject⟩ := Option.bind_eq_some_iff.1 hitems
      have hinner := (Json.hasDistinctNames_object.1 (ih outer houter)).2 _ (Members.mem_of_get? hvalue)
      cases value with
      | object members => cases hobject; exact hinner
      | null | bool | number | string | array => cases hobject
  cases hoverride : overrideAt override level with
  | none => exact List.nodup_nil
  | some overlay => exact (Json.hasDistinctNames_object.1 (hlevel overlay hoverride)).1

/-- The shape of one level before an override is laid over it, given the fragment below. -/
def levelShape (inference : Inference) (items : Fragment) : Position → Fragment
  | .named name _ nonNull => inference.infer name nonNull
  | .list _ nonNull => inference.dialect.array items (!nonNull)

def itemsFragment (inference : Inference) (position : Position) (override : Option Fragment) : Fragment :=
  match position with
  | .named .. => []
  | .list item _ => inference.shapedFragment item (itemsOverride override)

theorem shapedFragment_eq (position : Position) (override : Option Fragment) :
    inference.shapedFragment position override = inference.dialect.merge (Dialect.skippedAt position)
      (inference.levelShape (inference.itemsFragment position override) position) (override.getD []) := by
  cases position <;> cases override <;> rfl

theorem get?_shapedFragment_items {item : Position} {nonNull : Bool} :
    Members.get? (inference.shapedFragment (.list item nonNull) override) Dialect.itemsKey =
      some (.object (inference.shapedFragment item (itemsOverride override))) := by
  rw [shapedFragment_eq, Dialect.get?_merge_of_kept, levelShape, Dialect.get?_array_items]
  · rfl
  · exact Dialect.overlays_eq_false_iff.2 (.inr (Dialect.mem_skippedAt_iff.2 ⟨rfl, rfl⟩))

/-- By the list levels of the position, along which `overrideAt` goes down too. -/
theorem fragmentAt?_shapedFragment (h : position.levelAt? level = some inner) :
    Dialect.fragmentAt? (inference.shapedFragment position override) level =
      some (inference.shapedFragment inner (overrideAt override level)) := by
  induction level generalizing position override with
  | zero => rw [Position.levelAt?_zero, Option.some.injEq] at h; rw [h]; rfl
  | succ level ih =>
    cases position with
    | named => cases h
    | list item nonNull =>
      rw [Dialect.fragmentAt?, get?_shapedFragment_items, Option.bind_some, Json.object?, Option.bind_some,
        ih h, overrideAt_itemsOverride]

theorem fragmentAt?_tag {dialect : Dialect} (fragment : Fragment) :
    Dialect.fragmentAt? (dialect.tag fragment id) (level + 1) = Dialect.fragmentAt? fragment (level + 1) := by
  rw [Dialect.fragmentAt?, Dialect.fragmentAt?, Dialect.get?_tag Dialect.itemsKey_ne_tagKey]

theorem fragmentAt?_synthesize (hcomposite : position.isComposite = false)
    (h : position.levelAt? level = some inner) :
    Dialect.fragmentAt? (inference.synthesize position override id) level =
      some (if level = 0 then inference.dialect.tag (inference.shapedFragment inner override) id
        else inference.shapedFragment inner (overrideAt override level)) := by
  rw [synthesize, hcomposite, if_neg Bool.false_ne_true]
  cases level with
  | zero =>
    rw [Position.levelAt?_zero, Option.some.injEq] at h
    rw [h]
    rfl
  | succ level => rw [fragmentAt?_tag, fragmentAt?_shapedFragment h, if_neg (Nat.succ_ne_zero level)]

/-! ### What an override decides -/

/-- Whether the override of a level decides what stands under a key: not under the items of a list, not
under a key that identifies the shape of the level and is there, and not under the tag. -/
def Decides (inference : Inference) (level : Nat) (position : Position) (base : Fragment) (key : String) :
    Prop :=
  ¬(key = Dialect.itemsKey ∧ position.isList = true) ∧
    ¬(key ∈ inference.dialect.identityKeys ∧ Members.contains base key = true) ∧
    ¬(key = inference.dialect.tagKey ∧ level = 0)

/-- A level of a fragment has the override's value under every key that the override decides and the value
of its base under the other ones, with the keys of the base in front; the outermost one has the tag. -/
structure LevelFollows (inference : Inference) (id : String) (level : Nat) (position : Position)
    (base overlay fragment : Fragment) : Prop where
  overridden : ∀ key value, Members.get? overlay key = some value →
    inference.Decides level position base key → Members.get? fragment key = some value
  kept : ∀ key value, Members.get? base key = some value →
    (Members.contains overlay key = false ∨ ¬inference.Decides level position base key) →
      ¬(key = inference.dialect.tagKey ∧ level = 0) → Members.get? fragment key = some value
  places : Members.names base <+: Members.names fragment
  complete : ∀ key ∈ Members.names fragment, key ∈ Members.names base ∨
    (key ∈ Members.names overlay ∧ inference.Decides level position base key) ∨
      (key = inference.dialect.tagKey ∧ level = 0)
  tagged : level = 0 → Members.get? fragment inference.dialect.tagKey = some (.string id)
  distinct : (Members.names base).Nodup → (Members.names fragment).Nodup

variable {base overlay : Fragment}

theorem overlays_iff {key : String} :
    inference.dialect.overlays (Dialect.skippedAt position) base key = true ↔
      ¬(key = Dialect.itemsKey ∧ position.isList = true) ∧
        ¬(key ∈ inference.dialect.identityKeys ∧ Members.contains base key = true) := by
  rw [← Bool.not_eq_false, Dialect.overlays_eq_false_iff, Dialect.mem_skippedAt_iff, not_or, and_comm]

/-- `merge` touches the outermost level alone. -/
theorem levelFollows_merge (hd : (Members.names overlay).Nodup) (level : Nat) :
    inference.LevelFollows id (level + 1) position base overlay
      (inference.dialect.merge (Dialect.skippedAt position) base overlay) where
  overridden key value hkey hdecides :=
    Dialect.get?_merge_of_overlaid hd hkey (overlays_iff.2 ⟨hdecides.1, hdecides.2.1⟩)
  kept key value hkey hother _ := by
    rw [← hkey]
    rcases hother with habsent | hdecides
    · exact Dialect.get?_merge_of_absent habsent
    · refine Dialect.get?_merge_of_kept (Bool.eq_false_iff.2 fun hlaid => hdecides ?_) overlay
      exact ⟨(overlays_iff.1 hlaid).1, (overlays_iff.1 hlaid).2, fun h => Nat.succ_ne_zero _ h.2⟩
  places := by
    rw [Dialect.names_merge hd]
    exact List.prefix_append _ _
  complete key hkey := by
    rw [Dialect.names_merge hd, List.mem_append, List.mem_filter, Bool.and_eq_true] at hkey
    rcases hkey with hbase | ⟨hoverlay, hlaid, -⟩
    · exact .inl hbase
    · exact .inr (.inl ⟨hoverlay, (overlays_iff.1 hlaid).1, (overlays_iff.1 hlaid).2,
        fun h => Nat.succ_ne_zero _ h.2⟩)
  tagged h := absurd h (Nat.succ_ne_zero _)
  distinct hbase := Dialect.nodup_names_merge hbase _ overlay

theorem LevelFollows.tag {fragment : Fragment}
    (h : inference.LevelFollows id (level + 1) position base overlay fragment) :
    inference.LevelFollows id 0 position base overlay (inference.dialect.tag fragment id) where
  overridden key value hkey hdecides := by
    rw [Dialect.get?_tag fun he => hdecides.2.2 ⟨he, rfl⟩]
    exact h.overridden key value hkey ⟨hdecides.1, hdecides.2.1, fun h => Nat.succ_ne_zero _ h.2⟩
  kept key value hkey hother htag := by
    rw [Dialect.get?_tag fun he => htag ⟨he, rfl⟩]
    refine h.kept key value hkey (hother.imp_right fun hdecides hlower => hdecides ?_)
      fun h => Nat.succ_ne_zero _ h.2
    exact ⟨hlower.1, hlower.2.1, htag⟩
  places := by
    rw [Dialect.tag, Members.names_set]
    split
    · exact h.places
    · exact h.places.trans (List.prefix_append _ _)
  complete key hkey := by
    by_cases htag : key = inference.dialect.tagKey
    · exact .inr (.inr ⟨htag, rfl⟩)
    · have hold : key ∈ Members.names fragment := by
        rw [Members.mem_names_iff, Members.contains, Dialect.get?_tag htag] at hkey
        exact Members.mem_names_iff.2 hkey
      rcases h.complete key hold with hbase | ⟨hoverlay, hdecides⟩ | ⟨-, hzero⟩
      · exact .inl hbase
      · exact .inr (.inl ⟨hoverlay, hdecides.1, hdecides.2.1, fun h => htag h.1⟩)
      · exact absurd hzero (Nat.succ_ne_zero _)
  tagged _ := Dialect.get?_tag_tagKey id
  distinct hbase := Members.nodup_names_set (h.distinct hbase) _ _

/-- Every level of a synthesized fragment follows `overrideAt` this level wherever the override decides, and
otherwise its own shape, in which the items of a list are the level below; only the outermost level has
something else, which is its tag. A position whose leaf is an input object goes by no override. -/
theorem synthesize_levels (inference : Inference) (position : Position) (override : Option Fragment)
    (id : String) (hdistinct : ∀ overlay ∈ override, (Json.object overlay).hasDistinctNames = true) :
    (position.isComposite = false → ∀ level inner, position.levelAt? level = some inner →
      ∃ fragment below, Dialect.fragmentAt? (inference.synthesize position override id) level = some fragment ∧
        (inner.isList = true →
          Dialect.fragmentAt? (inference.synthesize position override id) (level + 1) = some below) ∧
        inference.LevelFollows id level inner (inference.levelShape below inner)
          ((overrideAt override level).getD []) fragment) ∧
    (position.isComposite = true → ∀ other : Option Fragment,
      inference.synthesize position override id = inference.synthesize position other id) := by
  constructor
  · intro hcomposite level inner hlevel
    refine ⟨_, inference.itemsFragment inner (overrideAt override level),
      fragmentAt?_synthesize hcomposite hlevel, fun hlist => ?_, ?_⟩
    · cases inner with
      | named => cases hlist
      | list item nonNull =>
        have hitem : position.levelAt? (level + 1) = some item := by
          rw [Position.levelAt?_succ, hlevel]
          rfl
        rw [fragmentAt?_synthesize hcomposite hitem]
        rfl
    · have hmerged : ∀ outer, inference.LevelFollows id (outer + 1) inner
          (inference.levelShape (inference.itemsFragment inner (overrideAt override level)) inner)
          ((overrideAt override level).getD [])
          (inference.shapedFragment inner (overrideAt override level)) := by
        rw [shapedFragment_eq]
        exact inference.levelFollows_merge (nodup_overrideAt hdistinct level)
      cases level with
      | zero => exact (hmerged 0).tag
      | succ level => exact hmerged level
  · intro hcomposite other
    rw [synthesize, synthesize, if_pos hcomposite, if_pos hcomposite]

/-- An override for a list of lists that has a key of its own at every level, beside keys that it may not
decide everywhere. -/
def gridOverride : Fragment :=
  [("$id", .string "mine"), ("maxItems", .ofInt 9),
    ("items", .object [("$id", .string "row"), ("nullable", .bool true),
      ("items", .object [("kind", .string "integer"), ("minLength", .ofInt 1)])])]

theorem synthesize_levels_grid :
    (∀ overlay ∈ some gridOverride, (Json.object overlay).hasDistinctNames = true) ∧
    ∃ grid row cell,
      Dialect.fragmentAt? (synthesize ⟨.native, none, []⟩ (.list (.list (.named "String" (.builtin .string)
        true) true) false) (some gridOverride) "Query.f.grid") 0 = some grid ∧
      Members.get? grid "$id" = some (.string "Query.f.grid") ∧
      Dialect.fragmentAt? (synthesize ⟨.native, none, []⟩ (.list (.list (.named "String" (.builtin .string)
        true) true) false) (some gridOverride) "Query.f.grid") 1 = some row ∧
      Members.get? row "$id" = some (.string "row") ∧ Members.get? row "nullable" = some (.bool false) ∧
      Dialect.fragmentAt? (synthesize ⟨.native, none, []⟩ (.list (.list (.named "String" (.builtin .string)
        true) true) false) (some gridOverride) "Query.f.grid") 2 = some cell ∧
      Members.get? cell "kind" = some (.string "string") ∧ Members.get? cell "minLength" = some (.ofInt 1) := by
  have hdistinct : ∀ overlay ∈ some gridOverride, (Json.object overlay).hasDistinctNames = true := by
    rintro _ ⟨⟩
    decide
  obtain ⟨hlevels, -⟩ := synthesize_levels ⟨.native, none, []⟩
    (.list (.list (.named "String" (.builtin .string) true) true) false) (some gridOverride) "Query.f.grid"
    hdistinct
  obtain ⟨grid, gridBelow, hgrid, -, hgridLevel⟩ := hlevels rfl 0 _ rfl
  obtain ⟨row, rowBelow, hrow, -, hrowLevel⟩ := hlevels rfl 1 _ rfl
  obtain ⟨cell, cellBelow, hcell, -, hcellLevel⟩ := hlevels rfl 2 _ rfl
  refine ⟨hdistinct, grid, row, cell, hgrid, hgridLevel.tagged rfl, hrow, ?_, ?_, hcell, ?_, ?_⟩
  · exact hrowLevel.overridden _ _ rfl (by simp [Decides, levelShape, Dialect.itemsKey, Dialect.array,
      Dialect.nativeFragment, Members.contains, Members.get?_cons])
  · exact hrowLevel.kept _ _ rfl (.inr (by simp [Decides, levelShape, Dialect.array, Dialect.identityKeys,
      Dialect.nativeFragment, Members.contains, Members.get?_cons])) (by simp)
  · exact hcellLevel.kept _ _ rfl (.inr (by
      rintro ⟨-, hidentity, -⟩
      exact hidentity ⟨by decide, rfl⟩)) (by simp)
  · exact hcellLevel.overridden _ _ rfl ⟨by simp [Dialect.itemsKey], by simp [Dialect.identityKeys], by simp⟩

end Inference

end ArgGuard
