import Mathlib.Data.List.Forall2

/-!
# Steps that may fail

What is known of a sequence of steps in `Except` when all of them went well: `mapM_eq_ok_iff` pairs
the inputs with the answers, `foldlM_invariant` keeps what every step keeps, and `foldlM_flatMap`
adds up what every step appends to a list. `foldl_view_of_mem` looks at what one step of a sequence
touches and the others do not. The other way round, `foldlM_total` says when all steps go well, and
`exists_error_of_foldlM` blames one of them where they do not.
-/

namespace ArgGuard

variable {ε : Type u} {α : Type v} {β γ : Type w} {δ : Type x} {κ : Type y}

theorem bind_eq_ok_iff {α β : Type v} {x : Except ε α} {f : α → Except ε β} {b : β} :
    (x >>= f) = .ok b ↔ ∃ a, x = .ok a ∧ f a = .ok b := by
  cases x <;> simp [bind, Except.bind]

theorem bind_eq_error_iff {α β : Type v} {x : Except ε α} {f : α → Except ε β} {error : ε} :
    (x >>= f) = .error error ↔ x = .error error ∨ ∃ a, x = .ok a ∧ f a = .error error := by
  cases x <;> simp [bind, Except.bind]

theorem exists_bind_ok_iff {α β : Type v} {x : Except ε α} {f : α → Except ε β} :
    (∃ b, (x >>= f) = .ok b) ↔ ∃ a, x = .ok a ∧ ∃ b, f a = .ok b := by
  cases x <;> simp [bind, Except.bind]

theorem exists_ok_of_isOk {x : Except ε α} (h : x.isOk = true) : ∃ a, x = .ok a := by
  cases x with
  | error error => cases h
  | ok a => exact ⟨a, rfl⟩

theorem isOk_eq_of_error_iff {x y : Except ε α} (h : ∀ error, x = .error error ↔ y = .error error) :
    x.isOk = y.isOk := by
  cases hx : x with
  | error error => rw [(h error).1 hx]
  | ok a =>
    cases hy : y with
    | ok b => rfl
    | error error =>
      rw [(h error).2 hy] at hx
      cases hx

theorem not_exists_ok_of_error {x : Except ε α} {error : ε} (h : x = .error error) :
    ¬ ∃ a, x = .ok a := by
  rintro ⟨a, ha⟩
  cases h.symm.trans ha

theorem mapError_eq_ok_iff {f : ε → δ} {x : Except ε α} {a : α} : x.mapError f = .ok a ↔ x = .ok a := by
  cases x <;> simp [Except.mapError]

theorem exists_ok_of_any {x : Except ε α} {p : α → Bool} (h : x.toOption.any p = true) :
    ∃ a, x = .ok a ∧ p a = true := by
  cases x with
  | error error => cases h
  | ok a => exact ⟨a, rfl, h⟩

theorem mapM_eq_ok_iff {f : α → Except ε β} {xs : List α} {ys : List β} :
    xs.mapM f = .ok ys ↔ List.Forall₂ (fun x y => f x = .ok y) xs ys := by
  induction xs generalizing ys with
  | nil => simp [pure, Except.pure, eq_comm]
  | cons x rest ih =>
    simp only [List.mapM_cons, bind_eq_ok_iff, pure, Except.pure, Except.ok.injEq,
      List.forall₂_cons_left_iff, ih]
    constructor
    · rintro ⟨y, hy, ys, hys, rfl⟩
      exact ⟨y, ys, hy, hys, rfl⟩
    · rintro ⟨y, ys, hy, hys, rfl⟩
      exact ⟨y, hy, ys, hys, rfl⟩

theorem mapM_total {f : α → Except ε β} {xs : List α} (h : ∀ x ∈ xs, ∃ y, f x = .ok y) :
    ∃ ys, xs.mapM f = .ok ys := by
  simp only [mapM_eq_ok_iff]
  induction xs with
  | nil => exact ⟨[], .nil⟩
  | cons x rest ih =>
    obtain ⟨y, hy⟩ := h x List.mem_cons_self
    obtain ⟨ys, hys⟩ := ih fun z hz => h z (List.mem_cons_of_mem _ hz)
    exact ⟨y :: ys, .cons hy hys⟩

theorem mapM_eq_some_iff {f : α → Option β} {xs : List α} {ys : List β} :
    xs.mapM f = some ys ↔ List.Forall₂ (fun x y => f x = some y) xs ys := by
  induction xs generalizing ys with
  | nil => simp [eq_comm]
  | cons x rest ih =>
    simp only [List.mapM_cons, Option.bind_eq_bind, Option.bind_eq_some_iff, Option.pure_def,
      Option.some.injEq, List.forall₂_cons_left_iff, ih]
    constructor
    · rintro ⟨y, hy, ys, hys, rfl⟩
      exact ⟨y, ys, hy, hys, rfl⟩
    · rintro ⟨y, ys, hy, hys, rfl⟩
      exact ⟨y, hy, ys, hys, rfl⟩

theorem exists_mem_of_forall₂ {R : α → β → Prop} {xs : List α} {ys : List β} {y : β}
    (h : List.Forall₂ R xs ys) (hy : y ∈ ys) : ∃ x ∈ xs, R x y := by
  induction h with
  | nil => cases hy
  | @cons x first _ _ hfirst _ ih =>
    rcases List.mem_cons.1 hy with rfl | hy
    · exact ⟨x, List.mem_cons_self, hfirst⟩
    · obtain ⟨x, hx, hR⟩ := ih hy
      exact ⟨x, List.mem_cons_of_mem _ hx, hR⟩

theorem foldlM_cons_eq_ok_iff {f : β → α → Except ε β} {x : α} {xs : List α} {b c : β} :
    (x :: xs).foldlM f b = .ok c ↔ ∃ mid, f b x = .ok mid ∧ xs.foldlM f mid = .ok c := by
  rw [List.foldlM_cons, bind_eq_ok_iff]

theorem foldlM_nil_eq_ok_iff {f : β → α → Except ε β} {b c : β} :
    ([] : List α).foldlM f b = .ok c ↔ b = c := by
  simp [pure, Except.pure]

theorem foldlM_invariant {f : β → α → Except ε β} {xs : List α} {b c : β} (I : β → Prop)
    (hstep : ∀ x ∈ xs, ∀ b c, I b → f b x = .ok c → I c) (hb : I b) (h : xs.foldlM f b = .ok c) :
    I c := by
  induction xs generalizing b with
  | nil => exact foldlM_nil_eq_ok_iff.1 h ▸ hb
  | cons x rest ih =>
    obtain ⟨mid, hx, hrest⟩ := foldlM_cons_eq_ok_iff.1 h
    exact ih (fun y hy => hstep y (List.mem_cons_of_mem _ hy))
      (hstep x List.mem_cons_self _ _ hb hx) hrest

/-- Steps that can only fail or do what `g` does come to `foldl g`. -/
theorem foldlM_eq_foldl {f : β → α → Except ε β} {g : β → α → β} {xs : List α} {b c : β}
    (hstep : ∀ x b c, f b x = .ok c → c = g b x) (h : xs.foldlM f b = .ok c) : c = xs.foldl g b := by
  induction xs generalizing b with
  | nil => exact (foldlM_nil_eq_ok_iff.1 h).symm
  | cons x rest ih =>
    obtain ⟨mid, hx, hrest⟩ := foldlM_cons_eq_ok_iff.1 h
    rw [List.foldl_cons, ← hstep x b mid hx]
    exact ih hrest

theorem foldlM_flatMap {f : β → α → Except ε β} {xs : List α} {b c : β} (view : β → List γ)
    (added : α → List γ) (hstep : ∀ x ∈ xs, ∀ b c, f b x = .ok c → view c = view b ++ added x)
    (h : xs.foldlM f b = .ok c) : view c = view b ++ xs.flatMap added := by
  induction xs generalizing b with
  | nil => rw [foldlM_nil_eq_ok_iff.1 h, List.flatMap_nil, List.append_nil]
  | cons x rest ih =>
    obtain ⟨mid, hx, hrest⟩ := foldlM_cons_eq_ok_iff.1 h
    rw [ih (fun y hy => hstep y (List.mem_cons_of_mem _ hy)) hrest,
      hstep x List.mem_cons_self _ _ hx, List.flatMap_cons, List.append_assoc]

theorem foldl_view (view : β → δ) {f : β → α → β} {xs : List α}
    (h : ∀ x ∈ xs, ∀ b, view (f b x) = view b) (b : β) : view (xs.foldl f b) = view b :=
  List.foldlRecOn (motive := fun c => view c = view b) xs f rfl
    fun c hc x hx => (h x hx c).trans hc

theorem foldl_view_of_mem (view : β → Option δ) (key : α → κ) {f : β → α → β} {xs : List α} {x : α}
    {found : Option δ} (hd : (xs.map key).Nodup) (hx : x ∈ xs)
    (hstep : ∀ b, view (f b x) = found.or (view b))
    (hother : ∀ y ∈ xs, key y ≠ key x → ∀ b, view (f b y) = view b) (b : β) :
    view (xs.foldl f b) = found.or (view b) := by
  induction xs generalizing b with
  | nil => cases hx
  | cons y rest ih =>
    obtain ⟨hnew, hrest⟩ := List.nodup_cons.1 hd
    have hother' : ∀ z ∈ rest, key z ≠ key x → ∀ b, view (f b z) = view b :=
      fun z hz => hother z (List.mem_cons_of_mem _ hz)
    rw [List.foldl_cons]
    rcases List.mem_cons.1 hx with rfl | hx
    -- the steps after it have other keys
    · rw [foldl_view view fun z hz => hother' z hz fun he => hnew (he ▸ List.mem_map_of_mem hz), hstep]
    · rw [ih hrest hx hother', hother y List.mem_cons_self]
      exact fun he => hnew (he ▸ List.mem_map_of_mem hx)

theorem exists_step_of_foldlM {f : β → α → Except ε β} {x : α} {xs : List α} {b c : β}
    (h : xs.foldlM f b = .ok c) (hx : x ∈ xs) : ∃ before after, f before x = .ok after := by
  induction xs generalizing b with
  | nil => cases hx
  | cons y rest ih =>
    obtain ⟨mid, hy, hrest⟩ := foldlM_cons_eq_ok_iff.1 h
    rcases List.mem_cons.1 hx with rfl | hx
    · exact ⟨b, mid, hy⟩
    · exact ih hrest hx

theorem map_filter_eq_flatMap (p : α → Bool) (f : α → γ) (xs : List α) :
    (xs.filter p).map f = xs.flatMap fun x => if p x then [f x] else [] := by
  induction xs with
  | nil => rfl
  | cons x rest ih => cases hp : p x <;> simp [hp, ih]

/-- `view` is a list that steps append to; they succeed as long as `P` holds of what comes of it. -/
theorem foldlM_total {f : β → α → Except ε β} {xs : List α} {b : β} (view : β → List γ)
    (added : α → List γ) (P : List γ → Prop)
    (hstep : ∀ x ∈ xs, ∀ b rest, P (view b ++ (added x ++ rest)) →
      ∃ c, f b x = .ok c ∧ view c = view b ++ added x)
    (h : P (view b ++ xs.flatMap added)) : ∃ c, xs.foldlM f b = .ok c := by
  induction xs generalizing b with
  | nil => exact ⟨b, foldlM_nil_eq_ok_iff.2 rfl⟩
  | cons x rest ih =>
    rw [List.flatMap_cons] at h
    obtain ⟨mid, hx, hmid⟩ := hstep x List.mem_cons_self b _ h
    rw [← List.append_assoc, ← hmid] at h
    obtain ⟨c, hrest⟩ := ih (fun y hy => hstep y (List.mem_cons_of_mem _ hy)) h
    exact ⟨c, foldlM_cons_eq_ok_iff.2 ⟨mid, hx, hrest⟩⟩

/-- For steps whose success does not depend on the state. -/
theorem exists_foldlM_ok_iff {f : β → α → Except ε β} {P : α → Prop} {xs : List α} (b : β)
    (hstep : ∀ x ∈ xs, ∀ b, (∃ c, f b x = .ok c) ↔ P x) :
    (∃ c, xs.foldlM f b = .ok c) ↔ ∀ x ∈ xs, P x := by
  induction xs generalizing b with
  | nil => exact ⟨fun _ x hx => absurd hx List.not_mem_nil, fun _ => ⟨b, foldlM_nil_eq_ok_iff.2 rfl⟩⟩
  | cons x rest ih =>
    have hrest : ∀ b, (∃ c, rest.foldlM f b = .ok c) ↔ ∀ y ∈ rest, P y :=
      fun b => ih b fun y hy => hstep y (List.mem_cons_of_mem _ hy)
    rw [List.forall_mem_cons, ← hstep x List.mem_cons_self b, List.foldlM_cons, exists_bind_ok_iff]
    simp only [hrest, exists_and_right]

theorem exists_error_of_foldlM {f : β → α → Except ε β} {xs : List α} {b : β} {error : ε}
    (h : xs.foldlM f b = .error error) : ∃ x ∈ xs, ∃ mid, f mid x = .error error := by
  induction xs generalizing b with
  | nil => cases h
  | cons x rest ih =>
    rw [List.foldlM_cons] at h
    cases hx : f b x with
    | error reason =>
      rw [hx] at h
      cases h
      exact ⟨x, List.mem_cons_self, b, hx⟩
    | ok mid =>
      rw [hx] at h
      obtain ⟨y, hy, hfail⟩ := ih h
      exact ⟨y, List.mem_cons_of_mem _ hy, hfail⟩

end ArgGuard
