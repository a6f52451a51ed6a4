import ArgGuard.Proofs.Shape.Reading
import ArgGuard.Schema.Synthesis

/-!
# What an override cannot displace

An override is laid over a fragment key by key, and some keys of the fragment hold out:
`get?_merge_of_kept` says that a key that is skipped, or that identifies the fragment and is there,
keeps its value whatever the override says. In the native dialect this makes the kind and the
nullability of a fragment final: `Declares` is kept by `merge` and by `tag`, and a shape that is read
from the fragment has this kind and this nullability.
-/

namespace ArgGuard

namespace Dialect

variable {dialect : Dialect} {skipped : List String} {fragment overlay : Fragment} {key : String}

theorem merge_cons (entry : String × Json) :
    dialect.merge skipped fragment (entry :: overlay) =
      dialect.merge skipped (if dialect.overlays skipped fragment entry.1 then
        Members.set fragment entry.1 entry.2 else fragment) overlay := rfl

/-- What every `set` of the override's members keeps, `merge` keeps. -/
theorem merge_invariant (I : Fragment → Prop)
    (hset : ∀ entry ∈ overlay, ∀ fragment, I fragment → I (Members.set fragment entry.1 entry.2))
    (h : I fragment) : I (dialect.merge skipped fragment overlay) := by
  induction overlay generalizing fragment with
  | nil => exact h
  | cons entry rest ih =>
    rw [merge_cons]
    refine ih (fun other ho => hset other (List.mem_cons_of_mem _ ho)) ?_
    split
    · exact hset entry List.mem_cons_self fragment h
    · exact h

theorem overlays_eq_false_iff :
    dialect.overlays skipped fragment key = false ↔
      key ∈ dialect.identityKeys ∧ Members.contains fragment key = true ∨ key ∈ skipped := by
  simp only [overlays, Bool.and_eq_false_iff, Bool.and_eq_true,
    List.contains_iff_mem, Bool.not_eq_eq_eq_not, Bool.not_false]

theorem get?_merge_of_kept (h : dialect.overlays skipped fragment key = false) (overlay : Fragment) :
    Members.get? (dialect.merge skipped fragment overlay) key = Members.get? fragment key := by
  induction overlay generalizing fragment with
  | nil => rfl
  | cons entry rest ih =>
    rw [merge_cons]
    split
    · rename_i hentry
      have hne : entry.1 ≠ key := by
        rintro rfl
        rw [h] at hentry; cases hentry
      have hget : Members.get? (Members.set fragment entry.1 entry.2) key = Members.get? fragment key := by
        rw [Members.get?_set, if_neg hne]
      -- what keeps the key is that it is there, and it still is
      rw [ih, hget]
      rw [overlays_eq_false_iff, Members.contains, hget]
      exact overlays_eq_false_iff.1 h
    · exact ih h

theorem get?_merge_of_absent (h : Members.contains overlay key = false) :
    Members.get? (dialect.merge skipped fragment overlay) key = Members.get? fragment key := by
  refine merge_invariant (fun merged => Members.get? merged key = Members.get? fragment key) ?_ rfl
  intro entry hentry merged hmerged
  have hne : entry.1 ≠ key := by
    rintro rfl
    rw [Members.contains_of_mem hentry] at h
    cases h
  rw [Members.get?_set, if_neg hne, hmerged]

theorem nodup_names_merge (hd : (Members.names fragment).Nodup) (skipped : List String)
    (overlay : Fragment) : (Members.names (dialect.merge skipped fragment overlay)).Nodup :=
  merge_invariant (fun fragment => (Members.names fragment).Nodup)
    (fun _ _ _ hd => Members.nodup_names_set hd _ _) hd

@[simp] theorem get?_tag_tagKey (id : String) :
    Members.get? (dialect.tag fragment id) dialect.tagKey = some (.string id) := by
  rw [tag, Members.get?_set, if_pos rfl]

theorem get?_tag (hkey : key ≠ dialect.tagKey) (id : String) :
    Members.get? (dialect.tag fragment id) key = Members.get? fragment key := by
  rw [tag, Members.get?_set, if_neg (Ne.symm hkey)]

end Dialect

/-- A native fragment that says which kind it is and whether it admits `null`. -/
structure Declares (fragment : Fragment) (kind : ShapeKind) (nullable : Bool) : Prop where
  nodup : (Members.names fragment).Nodup
  kind : Members.get? fragment "kind" = some (.string kind.name)
  nullable : Members.get? fragment "nullable" = some (.bool nullable)

namespace Declares

variable {fragment : Fragment} {kind : ShapeKind} {nullable : Bool} {shape : Shape} {key : String}

theorem nativeFragment {rest : Fragment} (kind : ShapeKind) (nullable : Bool)
    (hd : (Members.names (("kind", .null) :: ("nullable", .null) :: rest)).Nodup) :
    Declares (Dialect.nativeFragment kind.name nullable rest) kind nullable :=
  ⟨hd, rfl, rfl⟩

theorem object (properties : Members Fragment) (required : List String) :
    Declares (Dialect.native.object properties required) .object false :=
  nativeFragment .object false (by simp [Members.names])

theorem array (items : Fragment) (nullable : Bool) :
    Declares (Dialect.native.array items nullable) .array nullable :=
  nativeFragment .array nullable (by simp [Members.names])

theorem reference (target : String) (nullable : Bool) :
    Declares (Dialect.native.reference target nullable) .ref nullable :=
  ⟨by simp [Dialect.reference, Members.names], rfl, rfl⟩

theorem enumeration (values : List String) (nullable : Bool) :
    Declares (Dialect.native.enumeration values nullable) .string nullable :=
  nativeFragment .string nullable (by simp [Members.names])

theorem hasShape (h : Declares fragment kind nullable) : Dialect.native.hasShape fragment = true :=
  List.any_eq_true.2 ⟨"kind", by decide, Members.contains_iff.2 ⟨_, h.kind⟩⟩

theorem overlays_kind (h : Declares fragment kind nullable) (skipped : List String) :
    Dialect.native.overlays skipped fragment "kind" = false :=
  Dialect.overlays_eq_false_iff.2 (.inl ⟨by decide, Members.contains_iff.2 ⟨_, h.kind⟩⟩)

theorem overlays_nullable (h : Declares fragment kind nullable) (skipped : List String) :
    Dialect.native.overlays skipped fragment "nullable" = false :=
  Dialect.overlays_eq_false_iff.2 (.inl ⟨by decide, Members.contains_iff.2 ⟨_, h.nullable⟩⟩)

theorem merge (h : Declares fragment kind nullable) (skipped : List String) (overlay : Fragment) :
    Declares (Dialect.native.merge skipped fragment overlay) kind nullable where
  nodup := Dialect.nodup_names_merge h.nodup skipped overlay
  kind := by rw [Dialect.get?_merge_of_kept (h.overlays_kind skipped), h.kind]
  nullable := by rw [Dialect.get?_merge_of_kept (h.overlays_nullable skipped), h.nullable]

theorem tag (h : Declares fragment kind nullable) (id : String) :
    Declares (Dialect.native.tag fragment id) kind nullable where
  nodup := Members.nodup_names_set h.nodup _ _
  kind := by rw [Dialect.get?_tag (by decide), h.kind]
  nullable := by rw [Dialect.get?_tag (by decide), h.nullable]

theorem shape_kind (h : Declares fragment kind nullable) (hread : Shape.ofFragment fragment = .ok shape) :
    shape.kind = some kind :=
  Shape.ofFragment_kind h.nodup hread h.kind

theorem shape_nullable (h : Declares fragment kind nullable)
    (hread : Shape.ofFragment fragment = .ok shape) : shape.nullable = nullable :=
  Shape.ofFragment_nullable h.nodup hread h.nullable

end Declares

end ArgGuard
