import ArgGuard.Json.Pointer
import ArgGuard.Proofs.Members

/-!
# Reading pointers

A pointer is read from its text as RFC 6901 says: every slash begins a step, and inside a step a tilde
stands before `0` for itself or before `1` for a slash. A step into an object is the name of a member; a
step into an array is an index in decimal digits, without a zero in front of other digits. The reader does
not know how pointers are written here. `ofText?_text` says that it reads back every pointer, whatever
characters are in its steps, and `index?_toString` that it takes an index as it is written.
-/

namespace ArgGuard

namespace Pointer

/-- Cuts a text into what stands before the first slash and the steps behind the slashes. A tilde before
anything but `0` or `1` is an error. -/
def cut? : List Char → Option (List Char × List (List Char))
  | [] => some ([], [])
  | '/' :: rest => (cut? rest).map fun (step, steps) => ([], step :: steps)
  | '~' :: '0' :: rest => (cut? rest).map fun (step, steps) => ('~' :: step, steps)
  | '~' :: '1' :: rest => (cut? rest).map fun (step, steps) => ('/' :: step, steps)
  | '~' :: _ => none
  | c :: rest => (cut? rest).map fun (step, steps) => (c :: step, steps)

/-- Reads a pointer: no step at all, or a slash before every one. -/
def ofText? (text : String) : Option Pointer :=
  match cut? text.toList with
  | some ([], steps) => some (steps.map String.ofList)
  | _ => none

/-- The index that a step into an array stands for. -/
def index? (step : String) : Option Nat :=
  match step.toList with
  | ['0'] => some 0
  | digits =>
    if digits ≠ [] ∧ digits.head? ≠ some '0' ∧ digits.all Char.isDigit then
      some (Scan.natOfDigits digits)
    else none

end Pointer

/-- The part of a document that a pointer leads to. -/
def Json.resolve? : Pointer → Json → Option Json
  | [], value => some value
  | step :: rest, .array items => (Pointer.index? step).bind fun index => items[index]?.bind (resolve? rest)
  | step :: rest, .object members => (Members.get? members step).bind (resolve? rest)
  | _ :: _, _ => none

/-- The part of a document that the text of a pointer leads to. -/
def Json.resolveText? (value : Json) (text : String) : Option Json :=
  (Pointer.ofText? text).bind (resolve? · value)

namespace Pointer

/-! ### Steps -/

theorem cut?_plain {c : Char} (hslash : c ≠ '/') (htilde : c ≠ '~') (rest : List Char) :
    cut? (c :: rest) = (cut? rest).map fun (step, steps) => (c :: step, steps) := by
  conv_lhs => unfold cut?
  split <;> simp_all

/-- `cut?` reads back what `escapeChar` wrote, up to the next slash. -/
theorem cut?_escape (step rest : List Char) :
    cut? (step.flatMap escapeChar ++ rest) = (cut? rest).map fun (first, steps) => (step ++ first, steps) := by
  induction step with
  | nil => simp
  | cons c step ih =>
    rw [List.flatMap_cons, List.append_assoc]
    by_cases htilde : c = '~'
    · subst htilde
      simp only [escapeChar, if_true, List.cons_append, List.nil_append, cut?, ih, Option.map_map]
      rfl
    by_cases hslash : c = '/'
    · subst hslash
      simp only [escapeChar, if_neg htilde, if_true, List.cons_append, List.nil_append, cut?, ih,
        Option.map_map]
      rfl
    · rw [escapeChar, if_neg htilde, if_neg hslash, List.singleton_append, cut?_plain hslash htilde, ih,
        Option.map_map]
      rfl

theorem text_cons (step : String) (rest : Pointer) :
    text (step :: rest) = "/" ++ escape step ++ text rest := by
  simp [text, String.join_cons]

theorem toList_text_cons (step : String) (rest : Pointer) :
    (text (step :: rest)).toList = '/' :: (step.toList.flatMap escapeChar ++ (text rest).toList) := by
  simp [text_cons, escape]

theorem cut?_text (pointer : Pointer) :
    cut? pointer.text.toList = some ([], pointer.map String.toList) := by
  induction pointer with
  | nil => rfl
  | cons step rest ih => simp [toList_text_cons, cut?, cut?_escape, ih]

theorem ofText?_text (pointer : Pointer) : ofText? pointer.text = some pointer := by
  simp [ofText?, cut?_text, Function.comp_def]

theorem text_eq_empty_iff {pointer : Pointer} : pointer.text = "" ↔ pointer = [] := by
  constructor
  · intro h
    have hread := ofText?_text pointer
    rw [h] at hread
    exact (Option.some.inj hread).symm
  · rintro rfl
    rfl

/-! ### Indices -/

theorem digitChar_ne_zero : ∀ n < 10, n ≠ 0 → Nat.digitChar n ≠ '0' := by decide

theorem head?_toDigits {n : Nat} (hpos : n ≠ 0) : (Nat.toDigits 10 n).head? ≠ some '0' := by
  induction n using Nat.strongRecOn with
  | ind n ih =>
    rcases Nat.lt_or_ge n 10 with hlt | hge
    · rw [Nat.toDigits_of_lt_base hlt]
      simpa using digitChar_ne_zero n hlt hpos
    · rw [Nat.toDigits_of_base_le (by decide) hge, List.head?_append_of_ne_nil _ Nat.toDigits_ne_nil]
      exact ih (n / 10) (by omega) (by omega)

theorem natOfDigits_toDigits (n : Nat) : Scan.natOfDigits (Nat.toDigits 10 n) = n := by
  have hfold : Scan.natOfDigits (Nat.toDigits 10 n) = Nat.ofDigitChars 10 (Nat.toDigits 10 n) 0 := by
    rw [Nat.ofDigitChars_eq_foldl, Scan.natOfDigits]
    simp only [Scan.digitValue, Nat.mul_comm]
  rw [hfold, Nat.ofDigitChars_ten_toDigits]

theorem index?_toString (n : Nat) : index? (toString n) = some n := by
  have hdigits : (toString n).toList = Nat.toDigits 10 n := by
    rw [Nat.toString_eq_repr, Nat.toList_repr]
  rw [index?, hdigits]
  rcases Nat.eq_zero_or_pos n with rfl | hpos
  · rfl
  · have hhead := head?_toDigits (Nat.ne_of_gt hpos)
    split
    · rename_i hzero
      rw [hzero] at hhead
      exact absurd rfl hhead
    · rw [if_pos ⟨Nat.toDigits_ne_nil, hhead, List.all_eq_true.2 fun c hc =>
        Nat.isDigit_of_mem_toDigits (by decide) (by decide) hc⟩, natOfDigits_toDigits]

/-! ### Names -/

theorem escape_eq {step : String} (h : ∀ c ∈ step.toList, c ≠ '/' ∧ c ≠ '~') : escape step = step := by
  have hsame : step.toList.flatMap escapeChar = step.toList := by
    have hpure : ∀ c ∈ step.toList, escapeChar c = [c] := fun c hc => by
      rw [escapeChar, if_neg (h c hc).2, if_neg (h c hc).1]
    rw [List.flatMap_congr hpure, List.flatMap_singleton']
  rw [escape, hsame, String.ofList_toList]

end Pointer

namespace Json

@[simp] theorem resolve?_nil (value : Json) : value.resolve? [] = some value := rfl

@[simp] theorem resolve?_index (index : Nat) (rest : Pointer) (items : List Json) :
    (array items).resolve? (toString index :: rest) = items[index]?.bind (resolve? rest) := by
  rw [resolve?, Pointer.index?_toString, Option.bind_some]

@[simp] theorem resolve?_member (name : String) (rest : Pointer) (members : Members Json) :
    (object members).resolve? (name :: rest) = (Members.get? members name).bind (resolve? rest) := rfl

theorem resolve?_append (outer inner : Pointer) (value : Json) :
    value.resolve? (outer ++ inner) = (value.resolve? outer).bind (resolve? inner) := by
  induction outer generalizing value with
  | nil => rfl
  | cons step rest ih =>
    cases value with
    | null | bool | number | string => rfl
    | array items =>
      simp only [List.cons_append, resolve?, Option.bind_assoc, funext ih]
    | object members =>
      simp only [List.cons_append, resolve?, Option.bind_assoc, funext ih]

theorem resolveText?_text (value : Json) (pointer : Pointer) :
    value.resolveText? pointer.text = value.resolve? pointer := by
  rw [resolveText?, Pointer.ofText?_text, Option.bind_some]

end Json

end ArgGuard
