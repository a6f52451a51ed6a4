import ArgGuard.Graph.Basic
import ArgGuard.Override.Basic
import ArgGuard.Proofs.Members

/-!
# What a reader of overrides sees

Overrides are read by coordinate and written by coordinate, in three tables. `layType`,
`layInputField` and `layArgument` write an entry if there is one; what they write is seen at its own
coordinate and nowhere else. `laidOver` is read coordinate by coordinate as well, provided that no
table above has two entries for a coordinate (`Distinct`).

Whatever goes through the types of a schema writes at one type at a time. `KeptAt` says of a property
that it survives all that may be written at a type; so it survives every procedure that writes there
and nowhere else.
-/

namespace ArgGuard.Overrides

variable {upper lower : Overrides}

/-- Puts a fragment, if there is one, at an input object. -/
def layType (overrides : Overrides) (typeName : String) (entry : Option Fragment) : Overrides :=
  entry.elim overrides (overrides.setType typeName)

/-- Puts a fragment, if there is one, at a field of an input object. -/
def layInputField (overrides : Overrides) (coordinate : Coordinate) (entry : Option Fragment) :
    Overrides :=
  entry.elim overrides (overrides.setInputField coordinate)

/-- Puts an override, if there is one, at an argument. -/
def layArgument (overrides : Overrides) (coordinate : ArgumentCoordinate) (entry : Option Override) :
    Overrides :=
  entry.elim overrides (overrides.setArgument coordinate)

/-! ### Its own coordinate, and the others -/

section Lay

variable (overrides : Overrides) (typeName name : String) (entry : Option Fragment)
  (coordinate other : Coordinate) (argument otherArgument : ArgumentCoordinate)
  (override : Option Override)

theorem type?_layType : (overrides.layType typeName entry).type? name =
    if typeName = name then entry.or (overrides.type? name) else overrides.type? name := by
  cases entry with
  | none => rw [Option.none_or, ite_self]; rfl
  | some fragment => exact Members.get?_set ..

theorem inputField?_layInputField : (overrides.layInputField coordinate entry).inputField? other =
    if coordinate = other then entry.or (overrides.inputField? other)
    else overrides.inputField? other := by
  cases entry with
  | none => rw [Option.none_or, ite_self]; rfl
  | some fragment => exact Members.get?_set ..

theorem argument?_layArgument : (overrides.layArgument argument override).argument? otherArgument =
    if argument = otherArgument then override.or (overrides.argument? otherArgument)
    else overrides.argument? otherArgument := by
  cases override with
  | none => rw [Option.none_or, ite_self]; rfl
  | some override => exact Members.get?_set ..

@[simp] theorem inputField?_layType :
    (overrides.layType typeName entry).inputField? other = overrides.inputField? other := by
  cases entry <;> rfl

@[simp] theorem argument?_layType :
    (overrides.layType typeName entry).argument? otherArgument = overrides.argument? otherArgument := by
  cases entry <;> rfl

@[simp] theorem type?_layInputField :
    (overrides.layInputField coordinate entry).type? name = overrides.type? name := by
  cases entry <;> rfl

@[simp] theorem argument?_layInputField : (overrides.layInputField coordinate entry).argument?
    otherArgument = overrides.argument? otherArgument := by
  cases entry <;> rfl

@[simp] theorem type?_layArgument :
    (overrides.layArgument argument override).type? name = overrides.type? name := by
  cases override <;> rfl

@[simp] theorem inputField?_layArgument :
    (overrides.layArgument argument override).inputField? other = overrides.inputField? other := by
  cases override <;> rfl

end Lay

/-! ### One set of overrides over another -/

/-- Overrides with one entry at most for a coordinate. -/
structure Distinct (overrides : Overrides) : Prop where
  types : (Members.names overrides.types).Nodup
  inputFields : (Members.names overrides.inputFields).Nodup
  arguments : (Members.names overrides.arguments).Nodup

theorem distinct_empty : Distinct empty := ⟨List.nodup_nil, List.nodup_nil, List.nodup_nil⟩

namespace Distinct

variable (h : upper.Distinct)
include h

theorem type?_laidOver (lower : Overrides) (name : String) :
    (upper.laidOver lower).type? name = (upper.type? name).or (lower.type? name) :=
  Members.get?_foldl_set h.types name

theorem inputField?_laidOver (lower : Overrides) (coordinate : Coordinate) :
    (upper.laidOver lower).inputField? coordinate =
      (upper.inputField? coordinate).or (lower.inputField? coordinate) :=
  Members.get?_foldl_set h.inputFields coordinate

theorem argument?_laidOver (lower : Overrides) (coordinate : ArgumentCoordinate) :
    (upper.laidOver lower).argument? coordinate =
      (upper.argument? coordinate).or (lower.argument? coordinate) :=
  Members.get?_foldl_set h.arguments coordinate

end Distinct

/-! ### Writing at one type -/

/-- A property of overrides that survives what may be written at a type: at the type itself and at
its fields if it is an input object, at the arguments of its fields if these take arguments. -/
structure KeptAt (type : GraphType) (I : Overrides → Prop) : Prop where
  layType : type.isInputObject = true → ∀ overrides entry, I overrides →
    I (overrides.layType type.name entry)
  layInputField : type.isInputObject = true → ∀ field ∈ type.fields, ∀ overrides entry, I overrides →
    I (overrides.layInputField ⟨type.name, field.name⟩ entry)
  layArgument : type.isOutputObject = true → ∀ field ∈ type.fields, ∀ argument ∈ field.arguments,
    ∀ overrides entry, I overrides →
      I (overrides.layArgument ⟨type.name, field.name, argument.name⟩ entry)

theorem keptAt_distinct (type : GraphType) : KeptAt type Distinct where
  layType _ overrides entry h := by
    cases entry with
    | none => exact h
    | some entry => exact { h with types := Members.nodup_names_set h.types .. }
  layInputField _ field _ overrides entry h := by
    cases entry with
    | none => exact h
    | some entry => exact { h with inputFields := Members.nodup_names_set h.inputFields .. }
  layArgument _ field _ argument _ overrides entry h := by
    cases entry with
    | none => exact h
    | some entry => exact { h with arguments := Members.nodup_names_set h.arguments .. }

/-- Overrides that a reader cannot tell apart at the types of other names. -/
structure AgreeBeside (typeName : String) (before after : Overrides) : Prop where
  type : ∀ name, name ≠ typeName → after.type? name = before.type? name
  inputField : ∀ name fieldName, name ≠ typeName →
    after.inputField? ⟨name, fieldName⟩ = before.inputField? ⟨name, fieldName⟩
  argument : ∀ name fieldName argumentName, name ≠ typeName →
    after.argument? ⟨name, fieldName, argumentName⟩ = before.argument? ⟨name, fieldName, argumentName⟩

theorem agreeBeside_refl (typeName : String) (overrides : Overrides) :
    AgreeBeside typeName overrides overrides :=
  ⟨fun _ _ => rfl, fun _ _ _ => rfl, fun _ _ _ _ => rfl⟩

theorem keptAt_agreeBeside (type : GraphType) (before : Overrides) :
    KeptAt type (AgreeBeside type.name before) where
  layType _ overrides entry h :=
    { type := fun name hname => by rw [type?_layType, if_neg (Ne.symm hname), h.type name hname]
      inputField := fun name fieldName hname => by
        rw [inputField?_layType, h.inputField name fieldName hname]
      argument := fun name fieldName argumentName hname => by
        rw [argument?_layType, h.argument name fieldName argumentName hname] }
  layInputField _ field _ overrides entry h :=
    { type := fun name hname => by rw [type?_layInputField, h.type name hname]
      inputField := fun name fieldName hname => by
        rw [inputField?_layInputField, if_neg fun he => hname (congrArg Coordinate.typeName he).symm,
          h.inputField name fieldName hname]
      argument := fun name fieldName argumentName hname => by
        rw [argument?_layInputField, h.argument name fieldName argumentName hname] }
  layArgument _ field _ argument _ overrides entry h :=
    { type := fun name hname => by rw [type?_layArgument, h.type name hname]
      inputField := fun name fieldName hname => by
        rw [inputField?_layArgument, h.inputField name fieldName hname]
      argument := fun name fieldName argumentName hname => by
        rw [argument?_layArgument,
          if_neg fun he => hname (congrArg ArgumentCoordinate.typeName he).symm,
          h.argument name fieldName argumentName hname] }

/-! ### Entries stand at positions -/

/-- Overrides that hold entries for positions of a graph only. -/
structure Placed (graph : TypeGraph) (overrides : Overrides) : Prop where
  type : ∀ name, overrides.type? name ≠ none →
    ∃ type ∈ graph.types, type.isInputObject = true ∧ type.name = name
  inputField : ∀ coordinate, overrides.inputField? coordinate ≠ none →
    ∃ type ∈ graph.types, type.isInputObject = true ∧ ∃ field ∈ type.fields,
      ⟨type.name, field.name⟩ = coordinate
  argument : ∀ coordinate, overrides.argument? coordinate ≠ none →
    ∃ type ∈ graph.types, type.isOutputObject = true ∧ ∃ field ∈ type.fields,
      ∃ argument ∈ field.arguments, ⟨type.name, field.name, argument.name⟩ = coordinate

variable {graph : TypeGraph}

theorem placed_empty (graph : TypeGraph) : Placed graph empty :=
  ⟨fun _ h => absurd rfl h, fun _ h => absurd rfl h, fun _ h => absurd rfl h⟩

theorem keptAt_placed {type : GraphType} (htype : type ∈ graph.types) : KeptAt type (Placed graph) where
  layType hkind overrides entry h :=
    { type := fun name hname => by
        rw [type?_layType] at hname
        split at hname
        · exact ⟨type, htype, hkind, by assumption⟩
        · exact h.type name hname
      inputField := fun coordinate hentry => h.inputField coordinate (by simpa using hentry)
      argument := fun coordinate hentry => h.argument coordinate (by simpa using hentry) }
  layInputField hkind field hfield overrides entry h :=
    { type := fun name hentry => h.type name (by simpa using hentry)
      inputField := fun coordinate hentry => by
        rw [inputField?_layInputField] at hentry
        split at hentry
        · exact ⟨type, htype, hkind, field, hfield, by assumption⟩
        · exact h.inputField coordinate hentry
      argument := fun coordinate hentry => h.argument coordinate (by simpa using hentry) }
  layArgument hkind field hfield argument hargument overrides entry h :=
    { type := fun name hentry => h.type name (by simpa using hentry)
      inputField := fun coordinate hentry => h.inputField coordinate (by simpa using hentry)
      argument := fun coordinate hentry => by
        rw [argument?_layArgument] at hentry
        split at hentry
        · exact ⟨type, htype, hkind, field, hfield, argument, hargument, by assumption⟩
        · exact h.argument coordinate hentry }

theorem Placed.laidOver (hupper : Placed graph upper) (hd : upper.Distinct) (hlower : Placed graph lower) :
    Placed graph (upper.laidOver lower) where
  type name hentry := by
    rw [hd.type?_laidOver, Ne, Option.or_eq_none_iff, not_and_or] at hentry
    exact hentry.elim (hupper.type name) (hlower.type name)
  inputField coordinate hentry := by
    rw [hd.inputField?_laidOver, Ne, Option.or_eq_none_iff, not_and_or] at hentry
    exact hentry.elim (hupper.inputField coordinate) (hlower.inputField coordinate)
  argument coordinate hentry := by
    rw [hd.argument?_laidOver, Ne, Option.or_eq_none_iff, not_and_or] at hentry
    exact hentry.elim (hupper.argument coordinate) (hlower.argument coordinate)

end ArgGuard.Overrides
