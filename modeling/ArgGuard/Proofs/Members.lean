import ArgGuard.Json.Members
import ArgGuard.Proofs.Sequencing
import Mathlib.Data.List.Forall2

/-!
# Laws of ordered members

A list of members is read by `get?`, which sees the first value of a name. `get?_mapEntries` and
`get?_append` say what a reader sees after the list was rebuilt; `mem_of_get?` and `get?_of_mem` tie
the reader to membership, the second where no name stands twice. `Paired` relates two lists member by
member, and keeps to what a reader sees and a writer changes.
-/

namespace ArgGuard.Members

variable {κ : Type w} [DecidableEq κ] {α : Type u} {β : Type v} {members : List (κ × α)}
  {name : κ} {value : α}

theorem contains_iff : contains members name = true ↔ ∃ value, get? members name = some value :=
  Option.isSome_iff_exists

theorem mem_of_get? (h : get? members name = some value) : (name, value) ∈ members := by
  induction members with
  | nil => simp at h
  | cons head rest ih =>
    obtain ⟨key, old⟩ := head
    rw [get?_cons] at h
    split at h
    · rename_i hk
      cases h; exact hk ▸ List.mem_cons_self
    · exact List.mem_cons_of_mem _ (ih h)

theorem mem_names_iff : name ∈ names members ↔ contains members name = true := by
  rw [contains_iff]
  constructor
  · intro h
    induction members with
    | nil => simp [names] at h
    | cons head rest ih =>
      obtain ⟨key, old⟩ := head
      simp only [get?_cons]
      split
      · exact ⟨old, rfl⟩
      · rename_i hk
        refine ih ?_
        rcases List.mem_cons.1 h with rfl | h
        · exact absurd rfl hk
        · exact h
  · rintro ⟨value, h⟩
    exact List.mem_map.2 ⟨_, mem_of_get? h, rfl⟩

theorem contains_of_mem (h : (name, value) ∈ members) : contains members name = true :=
  mem_names_iff.1 (List.mem_map.2 ⟨_, h, rfl⟩)

theorem get?_of_mem (hd : (names members).Nodup) (h : (name, value) ∈ members) :
    get? members name = some value := by
  induction members with
  | nil => simp at h
  | cons head rest ih =>
    obtain ⟨key, old⟩ := head
    obtain ⟨hnot, hrest⟩ := List.nodup_cons.1 hd
    rw [get?_cons]
    rcases List.mem_cons.1 h with h | h
    · cases h; exact if_pos rfl
    · rw [if_neg fun hk : key = name => hnot (hk ▸ List.mem_map.2 ⟨_, h, rfl⟩)]
      exact ih hrest h

theorem forall_mem_iff (hd : (names members).Nodup) {P : κ → α → Prop} :
    (∀ entry ∈ members, P entry.1 entry.2) ↔
      ∀ name value, get? members name = some value → P name value :=
  ⟨fun h _ _ hget => h _ (mem_of_get? hget), fun h _ hmem => h _ _ (get?_of_mem hd hmem)⟩

theorem get?_perm {others : List (κ × α)} (hperm : members.Perm others) (hd : (names members).Nodup)
    (name : κ) : get? members name = get? others name := by
  have hother : (names others).Nodup := (hperm.map _).nodup_iff.1 hd
  cases h : get? members name with
  | some value => exact (get?_of_mem hother (hperm.mem_iff.1 (mem_of_get? h))).symm
  | none =>
    cases ho : get? others name with
    | none => rfl
    | some value =>
      rw [get?_of_mem hd (hperm.mem_iff.2 (mem_of_get? ho))] at h
      cases h

theorem mem_set {entry : κ × α} (h : entry ∈ set members name value) :
    entry = (name, value) ∨ entry ∈ members := by
  induction members with
  | nil => exact .inl (List.mem_singleton.1 h)
  | cons head rest ih =>
    obtain ⟨key, old⟩ := head
    rw [set] at h
    split at h
    · rename_i hk
      rcases List.mem_cons.1 h with rfl | h
      · exact .inl (hk ▸ rfl)
      · exact .inr (List.mem_cons_of_mem _ h)
    · rcases List.mem_cons.1 h with rfl | h
      · exact .inr List.mem_cons_self
      · exact (ih h).imp_right (List.mem_cons_of_mem _)

theorem set_of_notMem (hnew : name ∉ names members) : set members name value = members ++ [(name, value)] := by
  induction members with
  | nil => rfl
  | cons head rest ih =>
    obtain ⟨key, old⟩ := head
    rw [names, List.map_cons, List.mem_cons, not_or] at hnew
    rw [set, if_neg (Ne.symm hnew.1), ih hnew.2, List.cons_append]

theorem set_set (members : List (κ × α)) (name : κ) (first second : α) :
    set (set members name first) name second = set members name second := by
  induction members with
  | nil => exact if_pos rfl
  | cons head rest ih =>
    obtain ⟨key, old⟩ := head
    rw [set, set]
    split
    · rename_i hk
      rw [set, if_pos hk]
    · rename_i hk
      rw [set, if_neg hk, ih]

theorem filterMap_set {f : κ × α → Option β} (h : ∀ value, f (name, value) = none) :
    (set members name value).filterMap f = members.filterMap f := by
  induction members with
  | nil => rw [set, List.filterMap_cons_none (h value)]
  | cons head rest ih =>
    obtain ⟨key, old⟩ := head
    rw [set]
    split
    · rename_i heq
      subst heq
      rw [List.filterMap_cons_none (h value), List.filterMap_cons_none (h old)]
    · rw [List.filterMap_cons, List.filterMap_cons, ih]

theorem filter_set {p : κ × α → Bool} (h : ∀ value, p (name, value) = false) :
    (set members name value).filter p = members.filter p := by
  rw [← List.filterMap_eq_filter]
  exact filterMap_set fun value => by simp [Option.guard, h value]

omit [DecidableEq κ] in
theorem nodup_names_concat (hd : (names members).Nodup) (hnew : name ∉ names members) :
    (names (members ++ [(name, value)])).Nodup := by
  rw [names, List.map_append, List.nodup_append]
  refine ⟨hd, List.pairwise_singleton _ _, ?_⟩
  rintro found hfound other hother rfl
  obtain rfl : found = name := List.mem_singleton.1 hother
  exact hnew hfound

theorem contains_eq_false_of_nodup {entry : κ × α} {rest : List (κ × α)}
    (hd : (names (members ++ entry :: rest)).Nodup) : contains members entry.1 = false := by
  rw [names, List.map_append, List.nodup_append] at hd
  refine Bool.eq_false_iff.2 fun h => ?_
  exact hd.2.2 _ (mem_names_iff.2 h) _ List.mem_cons_self rfl

theorem nodup_names_set (hd : (names members).Nodup) (name : κ) (value : α) :
    (names (set members name value)).Nodup := by
  by_cases hold : name ∈ names members
  · rwa [names_set, if_pos hold]
  · rw [set_of_notMem hold]
    exact nodup_names_concat hd hold

theorem get?_eq_none_of_notMem (hnew : name ∉ names members) : get? members name = none :=
  Option.not_isSome_iff_eq_none.1 fun hsome => hnew (mem_names_iff.2 hsome)

/-- Members that are `set` one after the other stand before those that were there. -/
theorem get?_foldl_set {upper lower : List (κ × α)} (hd : (names upper).Nodup) (name : κ) :
    get? (upper.foldl (fun found (key, entry) => set found key entry) lower) name =
      (get? upper name).or (get? lower name) := by
  induction upper generalizing lower with
  | nil => rfl
  | cons head rest ih =>
    obtain ⟨key, entry⟩ := head
    obtain ⟨hnew, hrest⟩ := List.nodup_cons.1 hd
    rw [List.foldl_cons, ih hrest, get?_set, get?_cons]
    by_cases hk : key = name
    -- the name does not come again, so the entry stays
    · subst hk
      rw [if_pos rfl, if_pos rfl, get?_eq_none_of_notMem hnew]
      rfl
    · rw [if_neg hk, if_neg hk]

/-- If only the member `name` touches what `view` reads, `foldlM` leaves there what this member wrote. -/
theorem foldlM_view {ε : Type v} {σ : Type x} {γ : Type y} (view : σ → Option γ)
    {step : σ → κ × α → Except ε σ} {b c : σ} {read? : α → Option γ} (hd : (names members).Nodup)
    (hstep : ∀ value b c, (name, value) ∈ members → step b (name, value) = .ok c →
      view c = (read? value).or (view b))
    (hother : ∀ entry ∈ members, entry.1 ≠ name → ∀ b c, step b entry = .ok c → view c = view b)
    (h : members.foldlM step b = .ok c) :
    view c = ((get? members name).bind read?).or (view b) := by
  induction members generalizing b with
  | nil => rw [foldlM_nil_eq_ok_iff.1 h]; rfl
  | cons head rest ih =>
    obtain ⟨key, value⟩ := head
    obtain ⟨hnew, hrest⟩ := List.nodup_cons.1 hd
    obtain ⟨mid, hmid, htail⟩ := foldlM_cons_eq_ok_iff.1 h
    rw [get?_cons, ih hrest (fun other b c hmem => hstep other b c (List.mem_cons_of_mem _ hmem))
      (fun entry hentry => hother entry (List.mem_cons_of_mem _ hentry)) htail]
    by_cases hk : key = name
    · subst hk
      rw [if_pos rfl, get?_eq_none_of_notMem hnew, hstep value b mid List.mem_cons_self hmid]
      rfl
    · rw [if_neg hk, hother _ List.mem_cons_self hk b mid hmid]

theorem get?_mapEntries (f : κ → α → β) (name : κ) :
    get? (members.map fun entry => (entry.1, f entry.1 entry.2)) name =
      (get? members name).map (f name) := by
  induction members with
  | nil => rfl
  | cons head rest ih =>
    rw [List.map_cons, get?_cons, get?_cons, ih]
    split
    · rename_i hk; rw [hk]; rfl
    · rfl

theorem contains_mapEntries (f : κ → α → β) (name : κ) :
    contains (members.map fun entry => (entry.1, f entry.1 entry.2)) name = contains members name := by
  rw [contains, contains, get?_mapEntries, Option.isSome_map]

omit [DecidableEq κ] in
theorem names_mapEntries (f : κ → α → β) :
    names (members.map fun entry => (entry.1, f entry.1 entry.2)) = names members := by
  simp [names]

theorem get?_append (members others : List (κ × α)) (name : κ) :
    get? (members ++ others) name = (get? members name).or (get? others name) := by
  induction members with
  | nil => rfl
  | cons head rest ih =>
    rw [List.cons_append, get?_cons, get?_cons, ih]
    split <;> rfl

section
variable {key : κ} {old new : α} (before after : List (κ × α))

theorem rel_get?_replace {R : α → α → Prop} (hrefl : ∀ value, R value value) (h : key = name → R old new) :
    Option.Rel R (get? (before ++ (key, old) :: after) name) (get? (before ++ (key, new) :: after) name) := by
  have refl : ∀ found : Option α, Option.Rel R found found := fun found => by
    cases found with
    | none => exact .none
    | some value => exact .some (hrefl value)
  rw [get?_append, get?_append, get?_cons, get?_cons]
  by_cases hk : key = name
  · rw [if_pos hk, if_pos hk]
    cases get? before name with
    | none => exact .some (h hk)
    | some found => exact refl _
  · rw [if_neg hk, if_neg hk]
    exact refl _

theorem get?_replace_of_ne (h : key ≠ name) :
    get? (before ++ (key, old) :: after) name = get? (before ++ (key, new) :: after) name := by
  rw [get?_append, get?_append, get?_cons, get?_cons, if_neg h, if_neg h]

end

theorem set_eq_map (hd : (names members).Nodup) (hc : contains members name = true) :
    set members name value =
      members.map fun entry => (entry.1, if entry.1 = name then value else entry.2) := by
  induction members with
  | nil => cases hc
  | cons head rest ih =>
    obtain ⟨key, old⟩ := head
    obtain ⟨hnot, hrest⟩ := List.nodup_cons.1 hd
    rw [set, List.map_cons]
    by_cases hk : key = name
    · subst hk
      rw [if_pos rfl, if_pos rfl]
      congr 1
      refine (List.map_id rest).symm.trans (List.map_congr_left fun entry hentry => ?_)
      have hne : entry.1 ≠ key := fun he => hnot (he ▸ List.mem_map.2 ⟨entry, hentry, rfl⟩)
      rw [if_neg hne]; rfl
    · rw [if_neg hk, if_neg hk, ih hrest]
      rwa [contains, get?_cons, if_neg hk] at hc

/-- Members of the same names in the same order, with values that are related. -/
def Paired (R : α → β → Prop) (members : List (κ × α)) (others : List (κ × β)) : Prop :=
  List.Forall₂ (fun entry other => entry.1 = other.1 ∧ R entry.2 other.2) members others

namespace Paired

variable {R : α → β → Prop} {others : List (κ × β)} {other : β}

theorem set (h : Paired R members others) (name : κ) (hR : R value other) :
    Paired R (Members.set members name value) (Members.set others name other) := by
  induction h with
  | nil => exact .cons ⟨rfl, hR⟩ .nil
  | @cons entry otherEntry rest otherRest hentry hrest ih =>
    obtain ⟨hname, hvalue⟩ := hentry
    rw [Members.set, Members.set, hname]
    split
    · exact .cons ⟨rfl, hR⟩ hrest
    · exact .cons ⟨rfl, hvalue⟩ ih

theorem get? (h : Paired R members others) (name : κ) :
    Option.Rel R (Members.get? members name) (Members.get? others name) := by
  induction h with
  | nil => exact .none
  | @cons entry otherEntry rest otherRest hentry hrest ih =>
    obtain ⟨hname, hvalue⟩ := hentry
    rw [Members.get?_cons, Members.get?_cons, hname]
    split
    · exact .some hvalue
    · exact ih

omit [DecidableEq κ] in
theorem flatMap {γ : Type x} {xs : List γ} {f : γ → List (κ × α)} {g : γ → List (κ × β)}
    (h : ∀ x ∈ xs, Paired R (f x) (g x)) : Paired R (xs.flatMap f) (xs.flatMap g) := by
  induction xs with
  | nil => exact .nil
  | cons x rest ih =>
    rw [List.flatMap_cons, List.flatMap_cons]
    exact List.rel_append (h x List.mem_cons_self) (ih fun y hy => h y (List.mem_cons_of_mem _ hy))

end Paired

end ArgGuard.Members
