import ArgGuard.Proofs.Override.Store
import Mathlib.Logic.Function.Basic

/-!
# Declarations one after the other

A store is filled from a document and by calls, and both may speak of the same field. Here a
`Declaration` is one thing that is said, and `Declared` is what has been said so far, looked up by
name. `Declared.replay` goes through declarations in their order: one for a field puts a value in the
place of all that was declared for it, one for an argument first turns it into arguments. A document
comes to the declarations of its types and members (`ofJson_eq_foldl`), a call to one declaration.

`declared_declare` is the step of a store and `declared_foldl` the run: what a store shows to its
readers is what the replay arrives at. An argument hangs on the declarations for it and for its field
only (`argument?_replay`).
-/

namespace ArgGuard

/-- One thing that is declared. -/
inductive Declaration
  | type (typeName : String)
  | fragment (typeName : String) (document : Json)
  | field (coordinate : Coordinate) (document : Json)
  | argument (coordinate : ArgumentCoordinate) (entry : DeclaredArgument)

/-- What has been declared, by name. -/
@[ext]
structure Declared where
  type : String → Bool
  fragment : String → Option Json
  field : Coordinate → Option DeclaredField

def ArgumentCoordinate.field (coordinate : ArgumentCoordinate) : Coordinate :=
  ⟨coordinate.typeName, coordinate.fieldName⟩

/-! ### The replay -/

namespace Declared

def nothing : Declared := ⟨fun _ => false, fun _ => none, fun _ => none⟩

/-- A declaration for a type or for something in it declares the type. -/
def addType (declared : Declared) (typeName : String) : Declared :=
  { declared with type := Function.update declared.type typeName true }

def setField (declared : Declared) (coordinate : Coordinate) (entry : DeclaredField) : Declared :=
  { declared.addType coordinate.typeName with
    field := Function.update declared.field coordinate (some entry) }

/-- What is declared after one more declaration. -/
def step (declared : Declared) : Declaration → Declared
  | .type typeName => declared.addType typeName
  | .fragment typeName document =>
    { declared.addType typeName with
      fragment := Function.update declared.fragment typeName (some document) }
  | .field coordinate document => declared.setField coordinate (.value document)
  | .argument coordinate entry =>
    declared.setField coordinate.field (.arguments
      (Members.set (DeclaredField.toArguments (declared.field coordinate.field))
        coordinate.argumentName entry))

def replay (history : List Declaration) : Declared := history.foldl step nothing

/-- What is declared for an argument, in either form. -/
def argument? (declared : Declared) (coordinate : ArgumentCoordinate) : Option DeclaredArgument :=
  Members.get? (DeclaredField.toArguments (declared.field coordinate.field)) coordinate.argumentName

end Declared

/-- What is declared for an argument after a declaration, given what was declared for it before. -/
def ArgumentCoordinate.follow (coordinate : ArgumentCoordinate) (entry : Option DeclaredArgument) :
    Declaration → Option DeclaredArgument
  | .field other document =>
    if other = coordinate.field then
      document.object?.bind fun members => (Members.get? members coordinate.argumentName).map .value
    else entry
  | .argument other replacing => if other = coordinate then some replacing else entry
  | _ => entry

namespace Declared

theorem argument?_step (declared : Declared) (declaration : Declaration)
    (coordinate : ArgumentCoordinate) : (declared.step declaration).argument? coordinate =
      coordinate.follow (declared.argument? coordinate) declaration := by
  unfold argument?
  cases declaration with
  | type typeName => rfl
  | fragment typeName document => rfl
  | field other document =>
    simp only [step, setField, ArgumentCoordinate.follow, Function.update_apply]
    by_cases hfield : coordinate.field = other
    · rw [if_pos hfield, if_pos hfield.symm]
      cases document with
      | object members =>
        exact Members.get?_mapEntries (fun _ document => DeclaredArgument.value document) _
      | _ => rfl
    · rw [if_neg hfield, if_neg (Ne.symm hfield)]
  | argument other entry =>
    simp only [step, setField, ArgumentCoordinate.follow, Function.update_apply]
    by_cases hfield : coordinate.field = other.field
    -- the arguments of one field are told apart by their names
    · rw [if_pos hfield, hfield, DeclaredField.toArguments, Members.get?_set]
      obtain ⟨typeName, fieldName, argumentName⟩ := coordinate
      obtain ⟨rfl, rfl⟩ := Coordinate.mk.inj hfield
      exact if_congr (by rw [ArgumentCoordinate.mk.injEq]; simp) rfl rfl
    · rw [if_neg hfield, if_neg fun h => hfield (congrArg _ h.symm)]

theorem argument?_replay (history : List Declaration) (coordinate : ArgumentCoordinate) :
    (replay history).argument? coordinate = history.foldl coordinate.follow none :=
  (List.foldl_hom (argument? · coordinate) fun declared declaration =>
    (argument?_step declared declaration coordinate).symm).symm

end Declared

/-! ### Documents and calls -/

namespace Declaration

def ofMember (typeName : String) (member : String × Json) : Declaration :=
  if member.1 = OverrideStore.typeFragmentKey then .fragment typeName member.2
  else .field ⟨typeName, member.1⟩ member.2

/-- What a document says of one type. A type is declared also where nothing is said of it. -/
def ofType (entry : String × Json) : List Declaration :=
  .type entry.1 :: (entry.2.object?.getD []).map (ofMember entry.1)

def ofDocument (document : Json) : List Declaration :=
  (document.object?.getD []).flatMap ofType

end Declaration

/-- A call that adds to a store. -/
inductive OverrideCall
  | inputType (typeName : String) (fragment : Json)
  | inputField (typeName fieldName : String) (fragment : Json)
  | argument (coordinate : ArgumentCoordinate) (fragment : Json)
  | argumentFunction (coordinate : ArgumentCoordinate) (function : ValidationFunction)

namespace OverrideCall

def apply (store : OverrideStore) : OverrideCall → OverrideStore
  | inputType typeName fragment => store.inputType typeName fragment
  | inputField typeName fieldName fragment => store.inputField typeName fieldName fragment
  | argument coordinate fragment => store.argument coordinate fragment
  | argumentFunction coordinate function => store.argumentFunction coordinate function

def declaration : OverrideCall → Declaration
  | inputType typeName fragment => .fragment typeName fragment
  | inputField typeName fieldName fragment => .field ⟨typeName, fieldName⟩ fragment
  | argument coordinate fragment => .argument coordinate (.value fragment)
  | argumentFunction coordinate function => .argument coordinate (.function function)

end OverrideCall

/-- What a document declares, if there is one, and then call after call. -/
def Declaration.history (document : Option Json) (calls : List OverrideCall) : List Declaration :=
  document.elim [] ofDocument ++ calls.map OverrideCall.declaration

namespace OverrideStore

variable {store after : OverrideStore} {typeName : String}

def declare (store : OverrideStore) : Declaration → OverrideStore
  | .type typeName => store.updateType typeName id
  | .fragment typeName document => store.inputType typeName document
  | .field coordinate document => store.inputField coordinate.typeName coordinate.fieldName document
  | .argument coordinate entry => store.declareArgument coordinate entry

theorem apply_eq_declare (store : OverrideStore) (call : OverrideCall) :
    call.apply store = store.declare call.declaration := by
  cases call <;> rfl

theorem updateType_updateType (store : OverrideStore) (typeName : String)
    (first second : DeclaredType → DeclaredType) :
    (store.updateType typeName first).updateType typeName second =
      store.updateType typeName (second ∘ first) := by
  simp only [updateType, Members.update, Members.get?_set, Members.set_set, if_true]
  rfl

theorem declare_ofMember (store : OverrideStore) (typeName : String) (member : String × Json) :
    store.declare (.ofMember typeName member) =
      store.updateType typeName (·.declareMember member) := by
  unfold Declaration.ofMember DeclaredType.declareMember
  split <;> rfl

theorem updateType_declareMember (members : Members Json) (store : OverrideStore) (typeName : String)
    (change : DeclaredType → DeclaredType) :
    (members.map (Declaration.ofMember typeName)).foldl declare (store.updateType typeName change) =
      store.updateType typeName (fun declared => members.foldl .declareMember (change declared)) := by
  -- every member adds to the change, which is general for that reason
  induction members generalizing change with
  | nil => rfl
  | cons member rest ih =>
    rw [List.map_cons, List.foldl_cons, declare_ofMember, updateType_updateType, ih]
    rfl

theorem declareType_eq_foldl {entry : String × Json} (h : store.declareType entry = .ok after) :
    after = (Declaration.ofType entry).foldl declare store := by
  obtain ⟨members, hmembers, h⟩ := bind_eq_ok_iff.1 h
  obtain ⟨typeName, document⟩ := entry
  cases document with
  | object members =>
    cases hmembers
    cases h
    exact (updateType_declareMember members store typeName id).symm
  | _ => cases hmembers

/-- Reading a document is to `declare`, in order, what `Declaration.ofDocument` lists. -/
theorem ofJson_eq_foldl {document : Json} (h : ofJson document = .ok store) :
    store = (Declaration.ofDocument document).foldl declare {} := by
  obtain ⟨types, htypes, h⟩ := bind_eq_ok_iff.1 h
  cases document with
  | object members =>
    cases htypes
    rw [Declaration.ofDocument, List.foldl_flatMap]
    exact foldlM_eq_foldl (fun entry store after hstep => declareType_eq_foldl hstep) h
  | _ => cases htypes

/-! ### What a store shows -/

def declared (store : OverrideStore) : Declared where
  type name := Members.contains store.types name
  fragment name := (Members.get? store.types name).bind DeclaredType.fragment
  field coordinate := (Members.get? store.types coordinate.typeName).bind fun declared =>
    Members.get? declared.fields coordinate.fieldName

def typeOrNew (store : OverrideStore) (typeName : String) : DeclaredType :=
  (Members.get? store.types typeName).getD {}

theorem fragment_typeOrNew (store : OverrideStore) (typeName : String) :
    (store.typeOrNew typeName).fragment = store.declared.fragment typeName := by
  dsimp only [typeOrNew, declared]
  cases Members.get? store.types typeName <;> rfl

theorem field_typeOrNew (store : OverrideStore) (coordinate : Coordinate) :
    Members.get? (store.typeOrNew coordinate.typeName).fields coordinate.fieldName =
      store.declared.field coordinate := by
  dsimp only [typeOrNew, declared]
  cases Members.get? store.types coordinate.typeName <;> rfl

theorem declared_updateType (store : OverrideStore) (typeName : String)
    (change : DeclaredType → DeclaredType) : (store.updateType typeName change).declared =
      { store.declared.addType typeName with
        fragment := Function.update store.declared.fragment typeName
          (change (store.typeOrNew typeName)).fragment
        field := fun coordinate => if coordinate.typeName = typeName then
            Members.get? (change (store.typeOrNew typeName)).fields coordinate.fieldName
          else store.declared.field coordinate } := by
  -- all three readers look up one type
  have hget : ∀ name, Members.get? (store.updateType typeName change).types name =
      if typeName = name then some (change (store.typeOrNew typeName))
      else Members.get? store.types name := fun name => Members.get?_set ..
  refine Declared.ext (funext fun name => ?_) (funext fun name => ?_) (funext fun coordinate => ?_)
  · simp only [declared, Declared.addType, Members.contains, hget, Function.update_apply, eq_comm]
    split <;> rfl
  · simp only [declared, hget, Function.update_apply, eq_comm]
    split <;> rfl
  · simp only [declared, hget, eq_comm]
    split <;> rfl

theorem field_typeOrNew_of_eq (coordinate : Coordinate) (h : coordinate.typeName = typeName) :
    Members.get? (store.typeOrNew typeName).fields coordinate.fieldName =
      store.declared.field coordinate :=
  h ▸ store.field_typeOrNew coordinate

theorem declared_setField (store : OverrideStore) (coordinate : Coordinate)
    (entry : DeclaredType → DeclaredField) :
    (store.updateType coordinate.typeName fun declared =>
      { declared with
        fields := Members.set declared.fields coordinate.fieldName (entry declared) }).declared =
      store.declared.setField coordinate (entry (store.typeOrNew coordinate.typeName)) := by
  rw [declared_updateType]
  refine Declared.ext rfl ?_ (funext fun other => ?_)
  · simp only [fragment_typeOrNew, Function.update_eq_self]
    rfl
  · simp only [Declared.setField, Function.update_apply, Members.get?_set]
    obtain ⟨typeName, fieldName⟩ := coordinate
    obtain ⟨otherType, otherField⟩ := other
    by_cases htype : otherType = typeName
    · rw [if_pos htype, field_typeOrNew_of_eq ⟨otherType, otherField⟩ htype]
      simp [htype, eq_comm]
    · simp [htype]

/-- `declare` on the store is `step` for its readers. -/
theorem declared_declare (store : OverrideStore) (declaration : Declaration) :
    (store.declare declaration).declared = store.declared.step declaration := by
  cases declaration with
  | type typeName =>
    refine (declared_updateType store typeName id).trans (Declared.ext rfl ?_ (funext fun _ => ?_))
    · simp only [id, fragment_typeOrNew, Function.update_eq_self]
      rfl
    · exact (ite_congr rfl (field_typeOrNew_of_eq _) fun _ => rfl).trans (ite_self _)
  | fragment typeName document =>
    refine (declared_updateType store typeName _).trans (Declared.ext rfl rfl (funext fun _ => ?_))
    exact (ite_congr rfl (field_typeOrNew_of_eq _) fun _ => rfl).trans (ite_self _)
  | field coordinate document => exact declared_setField store coordinate fun _ => .value document
  | argument coordinate entry =>
    have hfield := store.field_typeOrNew coordinate.field
    rw [Declared.step, ← hfield]
    exact declared_setField store coordinate.field _

theorem declared_foldl (history : List Declaration) :
    (history.foldl declare {}).declared = Declared.replay history :=
  (List.foldl_hom declared fun store declaration => (declared_declare store declaration).symm).symm

end OverrideStore

end ArgGuard
