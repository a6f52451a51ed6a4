/-!
# Ordered members

`Members α` is what stands between the braces of an object: names with values, in the order in
which the names first appeared. `set` overwrites a value without moving its name and puts a new
name last, so `get?_set` says which value a later reader sees and `names_set` which order it
sees. Every table of this library that an answer lists is kept this way, also the ones whose names
are not strings but coordinates.
-/

namespace ArgGuard

/-- Names with values, in order of first appearance. -/
abbrev Members (α : Type u) := List (String × α)

namespace Members

variable {κ : Type w} [DecidableEq κ] {α : Type u} {β : Type v}

/-- The value standing under a name. -/
def get? : List (κ × α) → κ → Option α
  | [], _ => none
  | (key, value) :: rest, name => if key = name then some value else get? rest name

/-- Whether a name is there. -/
def contains (members : List (κ × α)) (name : κ) : Bool :=
  (get? members name).isSome

def names (members : List (κ × α)) : List κ :=
  members.map (·.1)

/-- Puts a value under a name: an old name keeps its place, a new one goes last. -/
def set : List (κ × α) → κ → α → List (κ × α)
  | [], name, value => [(name, value)]
  | (key, old) :: rest, name, value =>
    if key = name then (key, value) :: rest else (key, old) :: set rest name value

/-- Reads the pairs in order; a repeated name keeps its first place and its last value. -/
def ofList (pairs : List (κ × α)) : List (κ × α) :=
  pairs.foldl (fun members pair => set members pair.1 pair.2) []

/-- Changes the value under a name, starting from `fresh` where the name is new. -/
def update (members : List (κ × α)) (name : κ) (fresh : α) (change : α → α) : List (κ × α) :=
  set members name (change ((get? members name).getD fresh))

/-- Applies a function to every value. -/
def mapValues (change : α → β) (members : List (κ × α)) : List (κ × β) :=
  members.map fun (name, value) => (name, change value)

@[simp] theorem get?_nil (name : κ) : get? ([] : List (κ × α)) name = none := rfl

theorem get?_cons (key : κ) (value : α) (rest : List (κ × α)) (name : κ) :
    get? ((key, value) :: rest) name = if key = name then some value else get? rest name := rfl

theorem get?_set (members : List (κ × α)) (name : κ) (value : α) (other : κ) :
    get? (set members name value) other =
      if name = other then some value else get? members other := by
  induction members with
  | nil => rfl
  | cons head rest ih =>
    obtain ⟨key, old⟩ := head
    by_cases hk : key = name
    · subst hk
      rw [set, if_pos rfl, get?_cons, get?_cons]
      by_cases ho : key = other <;> simp [ho]
    · rw [set, if_neg hk, get?_cons, get?_cons, ih]
      by_cases ho : key = other
      · subst ho
        simp [Ne.symm hk]
      · simp [ho]

theorem names_set (members : List (κ × α)) (name : κ) (value : α) :
    names (set members name value) =
      if name ∈ names members then names members else names members ++ [name] := by
  induction members with
  | nil => simp [set, names]
  | cons head rest ih =>
    obtain ⟨key, old⟩ := head
    by_cases hk : key = name
    · subst hk
      simp [set, names]
    · by_cases hr : name ∈ names rest <;> simp_all [set, names, Ne.symm hk]

end Members

end ArgGuard
