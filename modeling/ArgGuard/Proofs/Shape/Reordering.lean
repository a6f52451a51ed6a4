import ArgGuard.Proofs.Shape.Alike

/-!
# The order of the keys of a fragment

`Reordered` says that a fragment arises from another one by moves: its keys change their places, or those
of the fragment under `items`, or the names under `properties`, or the keys of the fragment of a property,
and so on further in. `exists_alike` is the step: where alike shapes are read from the parts of two
fragments, they are from the fragments. By induction on the moves the same holds of every reordered
fragment, and `key_order_irrelevant` says what this means for reading and checking.
-/

namespace ArgGuard

/-- A fragment with its keys in another order, at its top or further in, one move after the other. -/
inductive Fragment.Reordered : Fragment → Fragment → Prop
  | keys {fragment other : Fragment} (h : fragment.Perm other) : Reordered fragment other
  | items {before after inner other : Fragment} (h : Reordered inner other) :
      Reordered (before ++ ("items", .object inner) :: after) (before ++ ("items", .object other) :: after)
  | properties {before after : Fragment} {members others : Members Json} (h : members.Perm others) :
      Reordered (before ++ ("properties", .object members) :: after)
        (before ++ ("properties", .object others) :: after)
  | property {before after inner other : Fragment} {left right : Members Json} {name : String}
      (h : Reordered inner other) :
      Reordered (before ++ ("properties", .object (left ++ (name, .object inner) :: right)) :: after)
        (before ++ ("properties", .object (left ++ (name, .object other) :: right)) :: after)
  | trans {fragment middle other : Fragment} (h : Reordered fragment middle)
      (hother : Reordered middle other) : Reordered fragment other

namespace Fragment.Reordered

variable {fragment other : Fragment}

theorem symm (h : Reordered fragment other) : Reordered other fragment := by
  induction h with
  | keys h => exact .keys h.symm
  | items _ ih => exact .items ih
  | properties h => exact .properties h.symm
  | property _ ih => exact .property ih
  | trans _ _ ih ihOther => exact .trans ihOther ih

theorem hasDistinctNames (h : Reordered fragment other)
    (hd : (Json.object fragment).hasDistinctNames = true) : (Json.object other).hasDistinctNames = true := by
  induction h with
  | keys h => exact Json.hasDistinctNames_perm h hd
  | items _ ih => exact Json.hasDistinctNames_replace ih hd
  | properties h => exact Json.hasDistinctNames_replace (Json.hasDistinctNames_perm h) hd
  | property _ ih => exact Json.hasDistinctNames_replace (Json.hasDistinctNames_replace ih) hd
  | trans _ _ ih ihOther => exact ihOther (ih hd)

end Fragment.Reordered

namespace Shape

variable {shape otherShape : Shape} {fragment other : Fragment} {value : Json}

/-! ### Fragments with parts that read alike -/

/-- Where a shape is read from the first document, an alike one is read from the second. -/
def ReadsAlike (value other : Json) : Prop :=
  ∀ shape, ReadsAs value shape → ∃ otherShape, ReadsAs other otherShape ∧ shape.Alike otherShape

theorem ReadsAlike.refl (value : Json) : ReadsAlike value value := fun shape h => ⟨shape, h, .refl shape⟩

/-- Objects that give their properties the same names, in any order, and alike shapes. -/
def PropertiesAlike (value other : Json) : Prop :=
  ∀ members, value = .object members → ∃ others, other = .object others ∧
    (Members.names members).Perm (Members.names others) ∧
      ∀ name, Option.Rel ReadsAlike (Members.get? members name) (Members.get? others name)

theorem PropertiesAlike.of_get? {members others : Members Json}
    (hnames : (Members.names members).Perm (Members.names others))
    (h : ∀ name, Option.Rel ReadsAlike (Members.get? members name) (Members.get? others name)) :
    PropertiesAlike (.object members) (.object others) := by
  rintro _ ⟨⟩
  exact ⟨others, rfl, hnames, h⟩

theorem rel_readsAlike_of_eq {found otherFound : Option Json} (h : found = otherFound) :
    Option.Rel ReadsAlike found otherFound := by
  subst h
  cases found with
  | none => exact .none
  | some value => exact .some (.refl value)

theorem PropertiesAlike.refl (value : Json) : PropertiesAlike value value := by
  rintro members rfl
  exact ⟨members, rfl, .refl _, fun _ => rel_readsAlike_of_eq rfl⟩

theorem rel_alike {found otherFound : Option Json} {part otherPart : Option Shape}
    (h : Option.Rel ReadsAlike found otherFound) (hpart : Option.Rel ReadsAs found part)
    (hotherPart : Option.Rel ReadsAs otherFound otherPart) : Option.Rel Alike part otherPart := by
  cases h with
  | none => cases hpart; cases hotherPart; exact .none
  | some h =>
    cases hpart with
    | some hpart =>
      cases hotherPart with
      | some hotherPart =>
        obtain ⟨shape, hshape, halike⟩ := h _ hpart
        cases hshape.eq hotherPart
        exact .some halike

theorem exists_added (hd : (Json.object fragment).hasDistinctNames = true)
    (hvalue : Members.get? fragment "properties" = some value) (hshape : ofFragment fragment = .ok shape) :
    ∃ members, value = .object members ∧ (Members.names members).Nodup ∧ Added members [] shape.properties := by
  obtain ⟨hnodup, hmembers⟩ := Json.hasDistinctNames_object.1 hd
  obtain ⟨before, after, hkey⟩ := exists_takeKey_of_mem hshape (Members.mem_of_get? hvalue)
  obtain ⟨members, -, rfl, -, -⟩ := takeKey_properties hkey
  have hinner := hmembers _ (Members.mem_of_get? hvalue)
  exact ⟨members, rfl, (Json.hasDistinctNames_object.1 hinner).1, ofFragment_properties hnodup hshape hvalue⟩

section
variable (hd : (Json.object fragment).hasDistinctNames = true)
  (hdOther : (Json.object other).hasDistinctNames = true)
  (hitems : Option.Rel ReadsAlike (Members.get? fragment "items") (Members.get? other "items"))
  (hproperties : Option.Rel PropertiesAlike (Members.get? fragment "properties")
    (Members.get? other "properties"))

include hd hdOther hproperties in
theorem alike_properties (hshape : ofFragment fragment = .ok shape)
    (hother : ofFragment other = .ok otherShape) :
    (Members.names shape.properties).Perm (Members.names otherShape.properties) ∧
      ∀ name, Option.Rel Alike (Members.get? shape.properties name)
        (Members.get? otherShape.properties name) := by
  cases hvalue : Members.get? fragment "properties" with
  | none =>
    have hotherValue : Members.get? other "properties" = none := by
      rw [hvalue] at hproperties
      generalize Members.get? other "properties" = found at hproperties ⊢
      cases hproperties
      rfl
    rw [ofFragment_unread Shape.properties (fun _ _ _ hk hf => hf.properties hk) (fun _ _ => rfl) hvalue
        hshape,
      ofFragment_unread Shape.properties (fun _ _ _ hk hf => hf.properties hk) (fun _ _ => rfl) hotherValue
        hother]
    exact ⟨.refl _, fun _ => .none⟩
  | some value =>
    obtain ⟨members, rfl, hmembers, hadded⟩ := exists_added hd hvalue hshape
    cases hotherValue : Members.get? other "properties" with
    | none => rw [hvalue, hotherValue] at hproperties; cases hproperties
    | some otherValue =>
      rw [hvalue, hotherValue] at hproperties
      obtain ⟨others, rfl, hothers, hotherAdded⟩ := exists_added hdOther hotherValue hother
      obtain ⟨hnames, halike⟩ : (Members.names members).Perm (Members.names others) ∧
          ∀ name, Option.Rel ReadsAlike (Members.get? members name) (Members.get? others name) := by
        cases hproperties with
        | some h =>
          obtain ⟨_, heq, hnames, halike⟩ := h members rfl
          cases heq
          exact ⟨hnames, halike⟩
      refine ⟨?_, fun name => rel_alike (halike name) (hadded.readsAs hmembers name)
        (hotherAdded.readsAs hothers name)⟩
      rw [hadded.names_eq hmembers, hotherAdded.names_eq hothers]
      exact hnames

variable (hsame : ∀ key, key ≠ "items" → key ≠ "properties" →
  Members.get? fragment key = Members.get? other key)
include hd hdOther hitems hproperties hsame

theorem takes_keys (hshape : ofFragment fragment = .ok shape) :
    ∀ entry ∈ other, ∃ before after, takeKey entry.1 entry.2 before = .ok after := by
  rintro ⟨key, value⟩ hmem
  obtain ⟨hnodupOther, hothers⟩ := Json.hasDistinctNames_object.1 hdOther
  have hvalue := Members.get?_of_mem hnodupOther hmem
  by_cases hkeyItems : key = "items"
  · subst hkeyItems
    rw [hvalue] at hitems
    have hreads := ofFragment_itemsRel (Json.hasDistinctNames_object.1 hd).1 hshape
    generalize Members.get? fragment "items" = found at hitems hreads
    generalize shape.items = part at hreads
    cases hitems with
    | some h =>
      cases hreads with
      | some hitemsRead =>
        obtain ⟨items, ⟨inner, rfl, hinner⟩, -⟩ := h _ hitemsRead
        exact ⟨{}, _, takeKey_items_of_ok hinner⟩
  by_cases hkeyProperties : key = "properties"
  · subst hkeyProperties
    cases hfound : Members.get? fragment "properties" with
    | none => rw [hvalue, hfound] at hproperties; cases hproperties
    | some found =>
      obtain ⟨members, rfl, hmembers, hadded⟩ := exists_added hd hfound hshape
      rw [hvalue, hfound] at hproperties
      cases hproperties with
      | some h =>
        obtain ⟨others, rfl, -, halike⟩ := h members rfl
        refine ⟨{}, exists_takeMembers (fun entry hentry => ?_) {}⟩
        have hother := Members.get?_of_mem (Json.hasDistinctNames_object.1 (hothers _ hmem)).1 hentry
        have hread := halike entry.1
        have hreads := hadded.readsAs hmembers entry.1
        rw [hother] at hread
        generalize Members.get? members entry.1 = found at hread hreads
        generalize Members.get? shape.properties entry.1 = part at hreads
        cases hread with
        | some hread =>
          cases hreads with
          | some hpropertyRead =>
            obtain ⟨property, hproperty, -⟩ := hread _ hpropertyRead
            exact ⟨property, hproperty⟩
  · rw [← hsame key hkeyItems hkeyProperties] at hvalue
    exact exists_takeKey_of_mem hshape (Members.mem_of_get? hvalue)

/-- The hypotheses of the section fix all values but those of `items` and `properties`, where the parts read
alike. -/
theorem exists_alike (hshape : ofFragment fragment = .ok shape) :
    ∃ otherShape, ofFragment other = .ok otherShape ∧ shape.Alike otherShape := by
  have hnodup := (Json.hasDistinctNames_object.1 hd).1
  have hnodupOther := (Json.hasDistinctNames_object.1 hdOther).1
  obtain ⟨otherShape, hother, hlimits⟩ := ofFragment_limits hnodup hnodupOther hsame hshape
    (takes_keys hd hdOther hitems hproperties hsame hshape)
  obtain ⟨hnames, halike⟩ := alike_properties hd hdOther hproperties hshape hother
  refine ⟨otherShape, hother, ?_⟩
  rw [hlimits]
  exact .of_parts (rel_alike hitems (ofFragment_itemsRel hnodup hshape)
    (ofFragment_itemsRel hnodupOther hother)) hnames halike

end

/-! ### Reordered fragments -/

theorem ReadsAlike.of_ofFragment {inner otherInner : Fragment}
    (h : ∀ shape, ofFragment inner = .ok shape →
      ∃ otherShape, ofFragment otherInner = .ok otherShape ∧ shape.Alike otherShape) :
    ReadsAlike (.object inner) (.object otherInner) := by
  rintro shape ⟨_, heq, hinner⟩
  cases heq
  obtain ⟨otherShape, hother, halike⟩ := h shape hinner
  exact ⟨otherShape, ⟨otherInner, rfl, hother⟩, halike⟩

theorem exists_alike_replace {before after : Fragment} {key : String} {value other : Json}
    (hitems : key = "items" → ReadsAlike value other)
    (hproperties : key = "properties" → PropertiesAlike value other)
    (hkey : key = "items" ∨ key = "properties")
    (hd : (Json.object (before ++ (key, value) :: after)).hasDistinctNames = true)
    (hdOther : (Json.object (before ++ (key, other) :: after)).hasDistinctNames = true)
    (hshape : ofFragment (before ++ (key, value) :: after) = .ok shape) :
    ∃ otherShape, ofFragment (before ++ (key, other) :: after) = .ok otherShape ∧ shape.Alike otherShape := by
  refine exists_alike hd hdOther (Members.rel_get?_replace _ _ .refl hitems)
    (Members.rel_get?_replace _ _ .refl hproperties) (fun name hni hnp => ?_) hshape
  refine Members.get?_replace_of_ne _ _ fun he => ?_
  subst he
  exact hkey.elim hni hnp

theorem exists_alike_of_reordered (h : fragment.Reordered other)
    (hd : (Json.object fragment).hasDistinctNames = true) (hshape : ofFragment fragment = .ok shape) :
    ∃ otherShape, ofFragment other = .ok otherShape ∧ shape.Alike otherShape := by
  have hdOther := h.hasDistinctNames hd
  induction h generalizing shape with
  | @keys fragment other hperm =>
    have hsame : ∀ key, Members.get? fragment key = Members.get? other key :=
      Members.get?_perm hperm (Json.hasDistinctNames_object.1 hd).1
    refine exists_alike hd hdOther (rel_readsAlike_of_eq (hsame _)) ?_ (fun key _ _ => hsame key) hshape
    rw [hsame "properties"]
    cases Members.get? other "properties" with
    | none => exact .none
    | some value => exact .some (.refl value)
  | items h ih =>
    have hinner := Json.hasDistinctNames_member hd
    exact exists_alike_replace
      (fun _ => .of_ofFragment fun inner hread => ih hinner hread (h.hasDistinctNames hinner))
      (fun he => absurd he (by decide)) (.inl rfl) hd hdOther hshape
  | properties hperm =>
    have hmembers := Json.hasDistinctNames_member hd
    refine exists_alike_replace (fun he => absurd he (by decide)) (fun _ => ?_) (.inr rfl) hd hdOther hshape
    exact .of_get? (hperm.map _) fun name => rel_readsAlike_of_eq
      (Members.get?_perm hperm (Json.hasDistinctNames_object.1 hmembers).1 name)
  | property h ih =>
    have hinner := Json.hasDistinctNames_member (Json.hasDistinctNames_member hd)
    refine exists_alike_replace (fun he => absurd he (by decide)) (fun _ => ?_) (.inr rfl) hd hdOther hshape
    refine .of_get? (by simp [Members.names]) fun name => ?_
    exact Members.rel_get?_replace _ _ .refl fun _ =>
      .of_ofFragment fun property hread => ih hinner hread (h.hasDistinctNames hinner)
  | trans h hother ih ihOther =>
    obtain ⟨middleShape, hmiddle, halike⟩ := ih hd hshape (h.hasDistinctNames hd)
    obtain ⟨otherShape, hread, hotherAlike⟩ := ihOther (h.hasDistinctNames hd) hmiddle hdOther
    exact ⟨otherShape, hread, halike.trans hotherAlike⟩

/-- A fragment is read exactly if it is read `Reordered`, at any depth, and then both shapes accept the same
values, with one answer and with the same failures up to their order. -/
theorem key_order_irrelevant {fragment other : Fragment} (h : fragment.Reordered other)
    (hdistinct : (Json.object fragment).hasDistinctNames = true) :
    ((∃ shape, ofFragment fragment = .ok shape) ↔ ∃ otherShape, ofFragment other = .ok otherShape) ∧
    ∀ shape otherShape, ofFragment fragment = .ok shape → ofFragment other = .ok otherShape →
      ∀ (rules : CheckRules) (value : Json),
        (∀ answer, (check rules shape value).result = .ok answer ↔
          (check rules otherShape value).result = .ok answer) ∧
        (check rules shape value).value = (check rules otherShape value).value ∧
        (check rules shape value).failures.Perm (check rules otherShape value).failures := by
  constructor
  · constructor
    · rintro ⟨shape, hshape⟩
      obtain ⟨otherShape, hother, -⟩ := exists_alike_of_reordered h hdistinct hshape
      exact ⟨otherShape, hother⟩
    · rintro ⟨otherShape, hother⟩
      obtain ⟨shape, hshape, -⟩ := exists_alike_of_reordered h.symm (h.hasDistinctNames hdistinct) hother
      exact ⟨shape, hshape⟩
  · intro shape otherShape hshape hother rules value
    obtain ⟨_, hread, halike⟩ := exists_alike_of_reordered h hdistinct hshape
    cases hread.symm.trans hother
    have hsame := halike rules value
    exact ⟨fun _ => hsame.result_eq_ok_iff, hsame.value, hsame.failures⟩

/-- A list of points without further properties. -/
def pointsFragment : Fragment :=
  [("kind", .string "array"),
    ("items", .object [("additionalProperties", .bool false),
      ("properties", .object [("x", .object [("kind", .string "integer"), ("minimum", .ofInt 0)]),
        ("y", .object [("kind", .string "integer")])])])]

/-- The same list with its keys in another order at every level. -/
def pointsFragmentReordered : Fragment :=
  [("items", .object [("properties", .object [("y", .object [("kind", .string "integer")]),
      ("x", .object [("minimum", .ofInt 0), ("kind", .string "integer")])]),
      ("additionalProperties", .bool false)]),
    ("kind", .string "array")]

/-- The shape of a list of points with these properties. -/
def pointsShape (properties : Members Shape) : Shape where
  kind := some .array
  items := some { closed := true, properties := properties }

def abscissa : String × Shape := ("x", { kind := some .integer, minimum := some (Number.integer 0).toFloat })

def ordinate : String × Shape := ("y", { kind := some .integer })

/-- A point with texts for its coordinates. -/
def misplacedPoints : Json := .array [.object [("x", .string "left"), ("y", .string "up")]]

theorem pointsFragment_reordered : pointsFragment.Reordered pointsFragmentReordered := by
  refine .trans (@Fragment.Reordered.items [("kind", .string "array")] [] _ _ ?_) (.keys (.swap _ _ _))
  refine .trans (@Fragment.Reordered.property [("additionalProperties", .bool false)] [] _ _ [] _ "x"
    (.keys (.swap _ _ _))) ?_
  exact .trans (@Fragment.Reordered.properties [("additionalProperties", .bool false)] [] _ _ (.swap _ _ _))
    (.keys (.swap _ _ _))

/-- Both coordinates are of the wrong kind, which each shape reports in the order of its properties. -/
theorem key_order_irrelevant_points :
    pointsFragment.Reordered pointsFragmentReordered ∧
    (Json.object pointsFragment).hasDistinctNames = true ∧
    ofFragment pointsFragment = .ok (pointsShape [abscissa, ordinate]) ∧
    ofFragment pointsFragmentReordered = .ok (pointsShape [ordinate, abscissa]) ∧
    (check ⟨[], false⟩ (pointsShape [abscissa, ordinate]) misplacedPoints).failures.map (·.path) =
      [["0", "x"], ["0", "y"]] ∧
    (check ⟨[], false⟩ (pointsShape [ordinate, abscissa]) misplacedPoints).failures.map (·.path) =
      [["0", "y"], ["0", "x"]] ∧
    (check ⟨[], false⟩ (pointsShape [abscissa, ordinate]) misplacedPoints).failures.Perm
      (check ⟨[], false⟩ (pointsShape [ordinate, abscissa]) misplacedPoints).failures := by
  have hdistinct : (Json.object pointsFragment).hasDistinctNames = true := by decide
  have hshape : ofFragment pointsFragment = .ok (pointsShape [abscissa, ordinate]) := rfl
  have hother : ofFragment pointsFragmentReordered = .ok (pointsShape [ordinate, abscissa]) := rfl
  obtain ⟨-, hsame⟩ := key_order_irrelevant pointsFragment_reordered hdistinct
  exact ⟨pointsFragment_reordered, hdistinct, hshape, hother, rfl, rfl,
    (hsame _ _ hshape hother ⟨[], false⟩ misplacedPoints).2.2⟩

end Shape

end ArgGuard
