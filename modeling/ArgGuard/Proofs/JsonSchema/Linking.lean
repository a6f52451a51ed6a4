import ArgGuard.JsonSchema.Reference

/-!
# Linked tables

`Schema.close` takes one waiting reference after the other into a table and lets those inside its schema
wait in turn. What it keeps all the while is `LinkTable.Closes`: a schema in the table was read from what
its reference leads to, and every reference inside it is known or waits. At the end nothing waits, so
validation never comes to a reference that is not in the table (`link_closes`).
-/

namespace ArgGuard.JsonSchema

variable {reading : Reading} {library : Library} {table final : LinkTable} {pending : List Link}
  {start : Link} {fuel : Nat}

/-- A table whose schemas were read from what their references lead to, and in which every reference
inside a schema is known or still waits. -/
structure LinkTable.Closes (reading : Reading) (library : Library) (pending : List Link)
    (table : LinkTable) : Prop where
  read : ∀ link schema, table.lookup link = some schema → ∃ contents context,
    link.target? library = some (contents, context) ∧ schema = reading.target context contents
  known : ∀ link schema, table.lookup link = some schema → ∀ inner ∈ schema.references,
    inner ∈ pending ∨ (table.lookup inner).isSome = true

theorem LinkTable.Closes.rest {next : Link} {rest : List Link}
    (h : table.Closes reading library (next :: rest))
    (hknown : (table.lookup next).isSome = true) : table.Closes reading library rest where
  read := h.read
  known link schema hlink inner hinner := by
    rcases h.known link schema hlink inner hinner with hwaits | hinner
    · rcases List.mem_cons.1 hwaits with rfl | hwaits
      · exact .inr hknown
      · exact .inl hwaits
    · exact .inr hinner

namespace Schema

theorem lookup_concat {next : Link} {schema : Schema} (hnew : table.lookup next = none) (link : Link) :
    (table ++ [(next, schema)]).lookup link = if link = next then some schema else table.lookup link := by
  rw [List.lookup_append]
  by_cases h : link = next
  · subst h
    rw [if_pos rfl, hnew, Option.none_or, List.lookup_cons, beq_self_eq_true]
  · rw [if_neg h, List.lookup_cons, beq_false_of_ne h, List.lookup_nil, Option.or_none]

/-- Taking a waiting link into the table puts the `references` of its schema in its place. -/
theorem closes_concat {next : Link} {rest : List Link} {contents : Json} {context : Context}
    (h : table.Closes reading library (next :: rest)) (hnew : table.lookup next = none)
    (htarget : next.target? library = some (contents, context)) :
    (table ++ [(next, reading.target context contents)]).Closes reading library
      (rest ++ (reading.target context contents).references) := by
  refine ⟨fun link schema hlink => ?_, fun link schema hlink inner hinner => ?_⟩
  · rw [lookup_concat hnew] at hlink
    split at hlink
    · rename_i heq
      cases hlink
      exact ⟨contents, context, heq ▸ htarget, rfl⟩
    · exact h.read link schema hlink
  · rw [lookup_concat hnew] at hlink ⊢
    split at hlink
    · cases hlink
      exact .inl (List.mem_append_right _ hinner)
    · split
      · exact .inr rfl
      · rename_i hne
        rcases h.known link schema hlink inner hinner with hwaits | hknown
        · rcases List.mem_cons.1 hwaits with rfl | hwaits
          · exact absurd rfl hne
          · exact .inl (List.mem_append_left _ hwaits)
        · exact .inr hknown

theorem close_closes (h : close reading library fuel pending table = some final)
    (hcloses : table.Closes reading library pending) :
    final.Closes reading library [] ∧
      ∀ link, link ∈ pending ∨ (table.lookup link).isSome = true → (final.lookup link).isSome = true := by
  induction fuel generalizing pending table with
  | zero =>
    cases pending with
    | nil =>
      rw [close] at h
      cases h
      exact ⟨hcloses, fun link hlink => hlink.resolve_left (by simp)⟩
    | cons => cases h
  | succ fuel ih =>
    cases pending with
    | nil =>
      rw [close] at h
      cases h
      exact ⟨hcloses, fun link hlink => hlink.resolve_left (by simp)⟩
    | cons next rest =>
      rw [close] at h
      split at h
      · rename_i hknown
        obtain ⟨hfinal, hkept⟩ := ih h (hcloses.rest hknown)
        refine ⟨hfinal, fun link hlink => hkept link ?_⟩
        rcases hlink with hwaits | hlink
        · rcases List.mem_cons.1 hwaits with rfl | hwaits
          · exact .inr hknown
          · exact .inl hwaits
        · exact .inr hlink
      · rename_i hunknown
        have hnew : table.lookup next = none := Option.not_isSome_iff_eq_none.1 hunknown
        split at h
        · cases h
        · rename_i contents context htarget
          dsimp only at h
          split at h
          · obtain ⟨hfinal, hkept⟩ := ih h (closes_concat hcloses hnew htarget)
            refine ⟨hfinal, fun link hlink => hkept link ?_⟩
            rw [lookup_concat hnew]
            split
            · exact .inr rfl
            · rename_i hne
              rcases hlink with hwaits | hlink
              · exact .inl (List.mem_append_left _ ((List.mem_cons.1 hwaits).resolve_left hne))
              · exact .inr hlink
          · cases h

/-- `link` leaves nothing waiting, and knows the link that it starts from. -/
theorem link_closes (h : link reading library start = some table) :
    table.Closes reading library [] ∧ (table.lookup start).isSome = true := by
  have hempty : LinkTable.Closes reading library [start] [] :=
    ⟨fun _ _ hlink => (by cases hlink), fun _ _ hlink => (by cases hlink)⟩
  obtain ⟨hcloses, hkept⟩ := close_closes h hempty
  exact ⟨hcloses, hkept start (.inl List.mem_cons_self)⟩

end Schema

end ArgGuard.JsonSchema
