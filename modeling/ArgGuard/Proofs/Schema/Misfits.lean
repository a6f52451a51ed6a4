import ArgGuard.Proofs.Schema.Restriction
import ArgGuard.Proofs.Shape.KeyOrder

/-!
# Overrides that do not fit

A key of an override whose value has the wrong form makes the whole fragment unreadable, wherever the
override puts it: at a named type, at a list, or at the items of one through the object under `items`. Keys
that identify a fragment are apart, since the fragment has its own. `Misfits` says that an override has
such a key, and `shapedFragment_unreadable` that no shape is read from the fragment it is laid over.

One thing passes by this: at a list, what stands under `items` is the override of the items if it is an
object, and is nothing otherwise (`shapedFragment_items_ignored`).
-/

namespace ArgGuard

namespace Shape

variable {before after : Shape} {key : String} {value : Json} {fragment : Fragment}

/-- Whether a value has the form that its key asks for. -/
def reads (key : String) (value : Json) : Bool := (ofFragment [(key, value)]).isOk

theorem reads_of_mem {shape : Shape} (h : ofFragment fragment = .ok shape) (hmem : (key, value) ∈ fragment)
    (hkey : key ∉ Dialect.native.identityKeys) : reads key value = true := by
  obtain ⟨before, after, hstep⟩ := exists_takeKey_of_mem h hmem
  obtain ⟨alone, halone⟩ := takeKey_anywhere hstep {}
  have hframe := takeKey_frame halone
  have hnone : alone.kind = none ∧ alone.target = none :=
    ⟨hframe.kind fun he => hkey (he ▸ by decide), hframe.target fun he => hkey (he ▸ by decide)⟩
  have hread : ofFragment [(key, value)] = .ok alone := by
    refine ofFragment_eq_ok_iff.2 ⟨alone, takeKeys_cons_eq_ok_iff.2 ⟨alone, halone, rfl⟩, ?_⟩
    rw [settleTarget, hnone.1, hnone.2]
  rw [reads, hread]
  rfl

end Shape

namespace Dialect

variable {dialect : Dialect} {skipped : List String} {fragment overlay : Fragment} {key : String}

theorem exists_get?_merge (hfree : key ∉ dialect.identityKeys) (hskipped : key ∉ skipped)
    (hmem : key ∈ Members.names overlay) : ∃ value, (key, value) ∈ overlay ∧
      Members.get? (dialect.merge skipped fragment overlay) key = some value := by
  induction overlay generalizing fragment with
  | nil => cases hmem
  | cons entry rest ih =>
    by_cases hrest : key ∈ Members.names rest
    · obtain ⟨value, hvalue, hget⟩ := ih hrest
      exact ⟨value, List.mem_cons_of_mem _ hvalue, hget⟩
    · obtain rfl : key = entry.1 := (List.mem_cons.1 hmem).resolve_right hrest
      have hoverlays : dialect.overlays skipped fragment entry.1 = true := by
        rw [← Bool.not_eq_false, overlays_eq_false_iff]
        exact not_or.2 ⟨fun h => hfree h.1, hskipped⟩
      refine ⟨entry.2, List.mem_cons_self, ?_⟩
      rw [merge_cons, if_pos hoverlays, get?_merge_of_absent, Members.get?_set, if_pos rfl]
      exact Bool.eq_false_iff.2 fun h => hrest (Members.mem_names_iff.2 h)

theorem merge_filter : dialect.merge skipped fragment (overlay.filter fun entry => !skipped.contains entry.1) =
    dialect.merge skipped fragment overlay := by
  induction overlay generalizing fragment with
  | nil => rfl
  | cons entry rest ih =>
    rw [merge_cons, List.filter_cons]
    by_cases hskipped : entry.1 ∈ skipped
    · have hkept : dialect.overlays skipped fragment entry.1 = false := overlays_eq_false_iff.2 (.inr hskipped)
      rw [if_neg (by simp [hskipped]), if_neg (by simp [hkept]), ih]
    · rw [if_pos (by simp [hskipped]), merge_cons, ih]

end Dialect

/-- An override with a key that the fragment of a position does not have of its own, whose value has the
wrong form: at the outermost level, or further in under the items of a list. -/
inductive Misfits : Position → Fragment → Prop
  | here {position : Position} {override : Fragment} {key : String}
      (hfree : key ∉ Dialect.native.identityKeys)
      (hlevel : position.isList = true → key ≠ Dialect.itemsKey) (hmem : key ∈ Members.names override)
      (hrejected : ∀ value, (key, value) ∈ override → Shape.reads key value = false) :
      Misfits position override
  | items {item : Position} {nonNull : Bool} {override inner : Fragment}
      (hitems : Members.get? override Dialect.itemsKey = some (.object inner)) (hinner : Misfits item inner) :
      Misfits (.list item nonNull) override

namespace Inference

variable {inference : Inference} {position : Position} {override : Fragment}

/-- `Shape.ofFragment` reads no fragment under an override that `Misfits`. -/
theorem shapedFragment_unreadable (hdialect : inference.dialect = .native) (h : Misfits position override)
    (shape : Shape) : Shape.ofFragment (inference.shapedFragment position (some override)) ≠ .ok shape := by
  intro hread
  induction h generalizing shape with
  | @here position override key hfree hlevel hmem hrejected =>
    obtain ⟨skipped, base, hskipped, heq⟩ : ∃ skipped base, key ∉ skipped ∧
        inference.shapedFragment position (some override) = Dialect.native.merge skipped base override := by
      cases position with
      | named => exact ⟨[], _, List.not_mem_nil, by rw [shapedFragment, overlaid, hdialect]⟩
      | list =>
        exact ⟨[Dialect.itemsKey], _, fun hkey => hlevel rfl (List.mem_singleton.1 hkey),
          by rw [shapedFragment, overlaid, hdialect]⟩
    obtain ⟨value, hvalue, hget⟩ := Dialect.exists_get?_merge hfree hskipped hmem
    rw [heq] at hread
    have hreads := Shape.reads_of_mem hread (Members.mem_of_get? hget) hfree
    exact Bool.false_ne_true ((hrejected value hvalue).symm.trans hreads)
  | @items item nonNull override inner hitems _ ih =>
    -- the items are read on their own, from the fragment under the inner override
    have hget : Members.get? (inference.shapedFragment (.list item nonNull) (some override)) "items" =
        some (.object (inference.shapedFragment item (some inner))) := by
      have hinner : itemsOverride (some override) = some inner := by
        rw [itemsOverride, Option.bind_some, hitems]
        rfl
      rw [shapedFragment, hinner, overlaid_items hdialect, hdialect]
      rfl
    obtain ⟨before, after, hstep⟩ := Shape.exists_takeKey_of_mem hread (Members.mem_of_get? hget)
    obtain ⟨_, items, heq, hitemsRead, -⟩ := Shape.takeKey_items hstep
    cases heq
    exact ih items hitemsRead

theorem synthesize_unreadable (hdialect : inference.dialect = .native) (hleaf : position.leaf ≠ .inputObject)
    (h : Misfits position override) (id : String) (shape : Shape) :
    Shape.ofFragment (inference.synthesize position (some override) id) ≠ .ok shape := by
  have hcomposite : ¬position.isComposite = true := fun h => hleaf (of_decide_eq_true h)
  rw [synthesize, if_neg hcomposite, hdialect, Ne, Shape.ofFragment_tag]
  exact shapedFragment_unreadable hdialect h shape

/-- What an override says under `items` of a list is ignored unless it is an object. -/
theorem shapedFragment_items_ignored (item : Position) (nonNull : Bool)
    (h : ∀ inner, Members.get? override Dialect.itemsKey ≠ some (.object inner)) :
    inference.shapedFragment (.list item nonNull) (some override) =
      inference.shapedFragment (.list item nonNull)
        (some (override.filter fun entry => !([Dialect.itemsKey].contains entry.1))) := by
  have hnone : itemsOverride (some override) = none := by
    rw [itemsOverride, Option.bind_some]
    cases hvalue : Members.get? override Dialect.itemsKey with
    | none => rfl
    | some value =>
      cases value with
      | object inner => exact absurd hvalue (h inner)
      | null | bool | number | string | array => rfl
  have hfiltered : itemsOverride
      (some (override.filter fun entry => !([Dialect.itemsKey].contains entry.1))) = none := by
    rw [itemsOverride, Option.bind_some, Members.get?_eq_none_of_notMem]
    · rfl
    · simp [Members.names]
  rw [shapedFragment, shapedFragment, hnone, hfiltered, overlaid, overlaid]
  exact Dialect.merge_filter.symm

end Inference

end ArgGuard
