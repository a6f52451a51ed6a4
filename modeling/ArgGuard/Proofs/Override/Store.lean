import ArgGuard.Override.Store
import ArgGuard.Proofs.Graph.Classification
import ArgGuard.Proofs.Json.Structure
import ArgGuard.Proofs.Override.Lookup

/-!
# What a store declares

A store keeps what was declared by type and by field, before anything is known of the schema. Here
`type?`, `inputField?` and `argument?` read it by coordinate, and the lemmas on `resolve` say that the
overrides of a store that fits a schema hold exactly what these readers find. That needs no two
declarations for one name; `Distinct` says so, and every way to declare overrides keeps to it.
-/

namespace ArgGuard

def DeclaredArgument.override? : DeclaredArgument → Option Override
  | .value document => document.object?.map .fragment
  | .function judge => some (.function judge)

def DeclaredField.fragment? : DeclaredField → Option Fragment
  | .value document => document.object?
  | .arguments _ => none

namespace DeclaredType

def fragment? (declared : DeclaredType) : Option Fragment :=
  declared.fragment.bind Json.object?

/-- What stands at an argument of a field. -/
def override? (declared : DeclaredType) (fieldName argumentName : String) : Option Override :=
  (Members.get? (DeclaredField.toArguments (Members.get? declared.fields fieldName)) argumentName).bind
    DeclaredArgument.override?

/-- A type of which no field, and of whose fields no argument, is declared twice. -/
structure Distinct (declared : DeclaredType) : Prop where
  fields : (Members.names declared.fields).Nodup
  arguments : ∀ entry ∈ declared.fields,
    (Members.names (DeclaredField.toArguments (some entry.2))).Nodup

end DeclaredType

namespace OverrideStore

/-- The fragment that a store declares for an input object. -/
def type? (store : OverrideStore) (typeName : String) : Option Fragment :=
  (Members.get? store.types typeName).bind DeclaredType.fragment?

/-- The fragment that a store declares for a field of an input object. -/
def inputField? (store : OverrideStore) (coordinate : Coordinate) : Option Fragment :=
  (Members.get? store.types coordinate.typeName).bind fun declared =>
    (Members.get? declared.fields coordinate.fieldName).bind DeclaredField.fragment?

def argument? (store : OverrideStore) (coordinate : ArgumentCoordinate) : Option Override :=
  (Members.get? store.types coordinate.typeName).bind
    (·.override? coordinate.fieldName coordinate.argumentName)

/-- A store that declares nothing twice. -/
structure Distinct (store : OverrideStore) : Prop where
  names : (Members.names store.types).Nodup
  types : ∀ entry ∈ store.types, entry.2.Distinct

/-! ### Ways to declare -/

theorem names_toArguments_value (document : Json) (h : document.hasDistinctNames = true) :
    (Members.names (DeclaredField.toArguments (some (.value document)))).Nodup := by
  cases document with
  | object members =>
    have hnames : Members.names (Members.mapValues DeclaredArgument.value members) =
        Members.names members :=
      Members.names_mapEntries fun _ document => DeclaredArgument.value document
    exact hnames ▸ (Json.hasDistinctNames_object.1 h).1
  | _ => exact List.nodup_nil

theorem distinct_empty : Distinct {} := ⟨List.nodup_nil, by simp⟩

end OverrideStore

namespace DeclaredType.Distinct

variable {declared : DeclaredType}

theorem empty : Distinct {} := ⟨List.nodup_nil, by simp⟩

theorem toArguments (h : declared.Distinct) (fieldName : String) :
    (Members.names (DeclaredField.toArguments (Members.get? declared.fields fieldName))).Nodup := by
  cases hget : Members.get? declared.fields fieldName with
  | none => exact List.nodup_nil
  | some entry => exact h.arguments _ (Members.mem_of_get? hget)

theorem setField (h : declared.Distinct) (fieldName : String) {entry : DeclaredField}
    (hentry : (Members.names (DeclaredField.toArguments (some entry))).Nodup) :
    Distinct { declared with fields := Members.set declared.fields fieldName entry } where
  fields := Members.nodup_names_set h.fields ..
  arguments other hother := by
    rcases Members.mem_set hother with rfl | hother
    · exact hentry
    · exact h.arguments other hother

theorem declareMember (h : declared.Distinct) {member : String × Json}
    (hmember : member.2.hasDistinctNames = true) : (declared.declareMember member).Distinct := by
  unfold DeclaredType.declareMember
  split
  · exact ⟨h.fields, h.arguments⟩
  · exact h.setField _ (OverrideStore.names_toArguments_value _ hmember)

end DeclaredType.Distinct

namespace OverrideStore

variable {store : OverrideStore} {graph : TypeGraph} {type : GraphType} {field : GraphField}
  {found resolved : Overrides} {declared : DeclaredType} {I : Overrides → Prop} {α : Type u}
  {typeName fieldName argumentName : String}

namespace Distinct

theorem updateType (h : store.Distinct) (typeName : String) {change : DeclaredType → DeclaredType}
    (hchange : ∀ declared, declared.Distinct → (change declared).Distinct) :
    (store.updateType typeName change).Distinct where
  names := Members.nodup_names_set h.names ..
  types entry hentry := by
    rcases Members.mem_set hentry with rfl | hentry
    · refine hchange _ ?_
      cases hget : Members.get? store.types typeName with
      | none => exact DeclaredType.Distinct.empty
      | some declared => exact h.types _ (Members.mem_of_get? hget)
    · exact h.types entry hentry

theorem inputType (h : store.Distinct) (typeName : String) (document : Json) :
    (store.inputType typeName document).Distinct :=
  h.updateType typeName fun _ hdeclared => ⟨hdeclared.fields, hdeclared.arguments⟩

theorem inputField (h : store.Distinct) (typeName fieldName : String) {document : Json}
    (hdocument : document.hasDistinctNames = true) :
    (store.inputField typeName fieldName document).Distinct :=
  h.updateType typeName fun _ hdeclared =>
    hdeclared.setField fieldName (names_toArguments_value document hdocument)

theorem declareArgument (h : store.Distinct) (coordinate : ArgumentCoordinate)
    (entry : DeclaredArgument) : (store.declareArgument coordinate entry).Distinct :=
  h.updateType coordinate.typeName fun _ hdeclared =>
    hdeclared.setField coordinate.fieldName
      (Members.nodup_names_set (hdeclared.toArguments coordinate.fieldName) ..)

end Distinct

theorem distinct_ofJson {document : Json} (hd : document.hasDistinctNames = true)
    (h : ofJson document = .ok store) : store.Distinct := by
  obtain ⟨types, htypes, h⟩ := bind_eq_ok_iff.1 h
  cases document with
  | object members =>
    cases htypes
    refine foldlM_invariant Distinct (fun entry hentry store after hstore hstep => ?_) distinct_empty h
    obtain ⟨members, hmembers, hstep⟩ := bind_eq_ok_iff.1 hstep
    cases hstep
    have hentry := (Json.hasDistinctNames_object.1 hd).2 entry hentry
    obtain ⟨typeName, document⟩ := entry
    cases document with
    | object =>
      cases hmembers
      refine hstore.updateType typeName fun declared hdeclared => ?_
      exact List.foldlRecOn _ _ hdeclared fun declared hdeclared member hmember =>
        hdeclared.declareMember ((Json.hasDistinctNames_object.1 hentry).2 member hmember)
    | _ => cases hmembers
  | _ => cases htypes

/-! ### Single declarations -/

theorem expectFragment_ok {location : String} {document : Json} {fragment : Option Fragment}
    (h : expectFragment location document = .ok fragment) : fragment = document.object? := by
  cases document <;> cases h <;> rfl

theorem expectField_ok (h : expectField type fieldName = .ok field) :
    field ∈ type.fields ∧ field.name = fieldName := by
  unfold expectField at h
  cases hfind : type.field? fieldName with
  | none => rw [hfind] at h; cases h
  | some other =>
    rw [hfind] at h
    cases h
    exact ⟨List.mem_of_find?_eq_some hfind, by simpa using List.find?_some hfind⟩

theorem resolveInputField_ok {entry : DeclaredField}
    (h : resolveInputField type found (fieldName, entry) = .ok resolved) :
    (∃ field ∈ type.fields, field.name = fieldName) ∧
      resolved = found.layInputField ⟨type.name, fieldName⟩ entry.fragment? := by
  obtain ⟨field, hfield, h⟩ := bind_eq_ok_iff.1 h
  refine ⟨⟨field, expectField_ok hfield⟩, ?_⟩
  cases entry with
  | value document =>
    obtain ⟨fragment, hfragment, h⟩ := bind_eq_ok_iff.1 h
    rw [DeclaredField.fragment?, ← expectFragment_ok hfragment]
    cases fragment <;> cases h <;> rfl
  | arguments arguments =>
    dsimp only at h
    split at h <;> cases h

theorem resolveArgument_ok {entry : DeclaredArgument}
    (h : resolveArgument type field found (argumentName, entry) = .ok resolved) :
    (∃ argument ∈ field.arguments, argument.name = argumentName) ∧
      resolved = found.layArgument ⟨type.name, field.name, argumentName⟩ entry.override? := by
  unfold resolveArgument at h
  dsimp only at h
  split at h
  · cases h
  · rename_i hknown
    constructor
    · cases hfind : field.argument? argumentName with
      | none => rw [hfind] at hknown; cases hknown rfl
      | some argument =>
        exact ⟨argument, List.mem_of_find?_eq_some hfind, by simpa using List.find?_some hfind⟩
    · cases entry with
      | function judge => cases h; rfl
      | value document =>
        obtain ⟨fragment, hfragment, h⟩ := bind_eq_ok_iff.1 h
        rw [DeclaredArgument.override?, ← expectFragment_ok hfragment]
        cases fragment <;> cases h <;> rfl

theorem resolveOutputField_ok {entry : DeclaredField}
    (h : resolveOutputField type found (fieldName, entry) = .ok resolved) :
    ∃ field ∈ type.fields, field.name = fieldName ∧
      (DeclaredField.toArguments (some entry)).foldlM (resolveArgument type field) found =
        .ok resolved := by
  obtain ⟨field, hfield, h⟩ := bind_eq_ok_iff.1 h
  obtain ⟨hmem, hname⟩ := expectField_ok hfield
  refine ⟨field, hmem, hname, ?_⟩
  cases entry with
  | arguments arguments => exact h
  | value document =>
    cases document with
    | null => exact h
    | object members => exact h
    | _ => cases h

/-- `layType` comes before the fields. -/
theorem resolveInputType_ok (h : resolveInputType type declared found = .ok resolved) :
    declared.fields.foldlM (resolveInputField type)
      (found.layType type.name declared.fragment?) = .ok resolved := by
  unfold resolveInputType at h
  unfold DeclaredType.fragment?
  cases hdocument : declared.fragment with
  | none => rw [hdocument] at h; exact h
  | some document =>
    rw [hdocument] at h
    obtain ⟨fragment, hfragment, h⟩ := bind_eq_ok_iff.1 h
    rw [Option.bind_some, ← expectFragment_ok hfragment]
    cases fragment <;> exact h

theorem resolveOutputType_ok (h : resolveOutputType type declared found = .ok resolved) :
    declared.fields.foldlM (resolveOutputField type) found = .ok resolved := by
  unfold resolveOutputType at h
  split at h
  · cases h
  · exact h

theorem resolveType_ok {entry : DeclaredType}
    (h : resolveType graph found (typeName, entry) = .ok resolved) :
    ∃ type ∈ graph.types, type.name = typeName ∧
      (type.isInputObject = true ∧ resolveInputType type entry found = .ok resolved ∨
        type.isOutputObject = true ∧ resolveOutputType type entry found = .ok resolved) := by
  unfold resolveType at h
  dsimp only at h
  cases hfind : graph.find? typeName with
  | none => rw [hfind] at h; cases h
  | some type =>
    rw [hfind] at h
    obtain ⟨hmem, hname⟩ := TypeGraph.find?_eq_some_iff.1 hfind
    refine ⟨type, hmem, hname, ?_⟩
    dsimp only at h
    split at h
    · exact .inl ⟨by assumption, h⟩
    · split at h
      · exact .inr ⟨by assumption, h⟩
      · cases h

theorem resolveType_kept {entry : DeclaredType}
    (hkept : ∀ type ∈ graph.types, type.name = typeName → Overrides.KeptAt type I) (hfound : I found)
    (h : resolveType graph found (typeName, entry) = .ok resolved) : I resolved := by
  obtain ⟨type, hmem, hname, ⟨hinput, h⟩ | ⟨houtput, h⟩⟩ := resolveType_ok h
  · have hI := hkept type hmem hname
    refine foldlM_invariant I (fun member _ found resolved hfound hstep => ?_)
      (hI.layType hinput _ _ hfound) (resolveInputType_ok h)
    obtain ⟨⟨field, hfield, hfieldName⟩, rfl⟩ := resolveInputField_ok hstep
    exact hfieldName ▸ hI.layInputField hinput field hfield _ _ hfound
  · have hI := hkept type hmem hname
    refine foldlM_invariant I (fun member _ found resolved hfound hstep => ?_) hfound
      (resolveOutputType_ok h)
    obtain ⟨field, hfield, -, hstep⟩ := resolveOutputField_ok hstep
    refine foldlM_invariant I (fun member _ found resolved hfound hstep => ?_) hfound hstep
    obtain ⟨⟨argument, hargument, hargumentName⟩, rfl⟩ := resolveArgument_ok hstep
    exact hargumentName ▸ hI.layArgument houtput field hfield argument hargument _ _ hfound

/-! ### One type -/

theorem resolveType_of_input (htype : type ∈ graph.types) (hkind : type.isInputObject = true)
    (declared : DeclaredType) (found : Overrides) :
    resolveType graph found (type.name, declared) = resolveInputType type declared found := by
  unfold resolveType
  dsimp only
  rw [TypeGraph.find?_eq_some_iff.2 ⟨htype, rfl⟩]
  exact if_pos hkind

theorem resolveType_of_output (htype : type ∈ graph.types) (hkind : type.isOutputObject = true)
    (declared : DeclaredType) (found : Overrides) :
    resolveType graph found (type.name, declared) = resolveOutputType type declared found := by
  unfold resolveType
  dsimp only
  rw [TypeGraph.find?_eq_some_iff.2 ⟨htype, rfl⟩]
  exact (if_neg (by simp [GraphType.isInputObject_of_output hkind])).trans (if_pos hkind)

theorem type?_resolveInputType (h : resolveInputType type declared found = .ok resolved) :
    resolved.type? type.name = declared.fragment?.or (found.type? type.name) := by
  refine foldlM_invariant (fun resolved => resolved.type? type.name = _)
    (fun member _ found resolved hfound hstep => ?_) ?_ (resolveInputType_ok h)
  · obtain ⟨-, rfl⟩ := resolveInputField_ok hstep
    rw [Overrides.type?_layInputField, hfound]
  · rw [Overrides.type?_layType, if_pos rfl]

theorem inputField?_resolveInputType (hd : declared.Distinct)
    (h : resolveInputType type declared found = .ok resolved) (fieldName : String) :
    resolved.inputField? ⟨type.name, fieldName⟩ =
      ((Members.get? declared.fields fieldName).bind DeclaredField.fragment?).or
        (found.inputField? ⟨type.name, fieldName⟩) := by
  rw [← Overrides.inputField?_layType found type.name declared.fragment?]
  refine Members.foldlM_view (Overrides.inputField? · ⟨type.name, fieldName⟩) hd.fields
    (fun entry found resolved _ hstep => ?_) (fun entry _ hne found resolved hstep => ?_)
    (resolveInputType_ok h)
  · obtain ⟨-, rfl⟩ := resolveInputField_ok hstep
    rw [Overrides.inputField?_layInputField, if_pos rfl]
  · obtain ⟨-, rfl⟩ := resolveInputField_ok hstep
    rw [Overrides.inputField?_layInputField, if_neg fun he => hne (congrArg Coordinate.fieldName he)]

theorem argument?_resolveOutputField {entry : DeclaredField}
    (hd : (Members.names (DeclaredField.toArguments (some entry))).Nodup)
    (h : resolveOutputField type found (fieldName, entry) = .ok resolved) (argumentName : String) :
    resolved.argument? ⟨type.name, fieldName, argumentName⟩ =
      ((Members.get? (DeclaredField.toArguments (some entry)) argumentName).bind
        DeclaredArgument.override?).or (found.argument? ⟨type.name, fieldName, argumentName⟩) := by
  obtain ⟨field, -, rfl, hentries⟩ := resolveOutputField_ok h
  refine Members.foldlM_view (Overrides.argument? · ⟨type.name, field.name, argumentName⟩) hd
    (fun entry found resolved _ hstep => ?_) (fun entry _ hne found resolved hstep => ?_) hentries
  · obtain ⟨-, rfl⟩ := resolveArgument_ok hstep
    rw [Overrides.argument?_layArgument, if_pos rfl]
  · obtain ⟨-, rfl⟩ := resolveArgument_ok hstep
    rw [Overrides.argument?_layArgument,
      if_neg fun he => hne (congrArg ArgumentCoordinate.argumentName he)]

theorem argument?_resolveOutputField_of_ne {entry : DeclaredField} {other : String}
    (hne : fieldName ≠ other)
    (h : resolveOutputField type found (fieldName, entry) = .ok resolved) (argumentName : String) :
    resolved.argument? ⟨type.name, other, argumentName⟩ =
      found.argument? ⟨type.name, other, argumentName⟩ := by
  obtain ⟨field, -, rfl, hentries⟩ := resolveOutputField_ok h
  refine foldlM_invariant
    (fun resolved : Overrides => resolved.argument? ⟨type.name, other, argumentName⟩ = _)
    (fun entry _ found resolved hfound hstep => ?_) rfl hentries
  obtain ⟨-, rfl⟩ := resolveArgument_ok hstep
  rw [Overrides.argument?_layArgument,
    if_neg fun he => hne (congrArg ArgumentCoordinate.fieldName he), hfound]

theorem argument?_resolveOutputType (hd : declared.Distinct)
    (h : resolveOutputType type declared found = .ok resolved) (fieldName argumentName : String) :
    resolved.argument? ⟨type.name, fieldName, argumentName⟩ =
      (declared.override? fieldName argumentName).or
        (found.argument? ⟨type.name, fieldName, argumentName⟩) := by
  have hview := Members.foldlM_view (Overrides.argument? · ⟨type.name, fieldName, argumentName⟩)
    hd.fields
    (fun entry found resolved hentry hstep =>
      argument?_resolveOutputField (hd.arguments _ hentry) hstep argumentName)
    (fun entry _ hne found resolved hstep => argument?_resolveOutputField_of_ne hne hstep argumentName)
    (resolveOutputType_ok h)
  rw [hview, DeclaredType.override?]
  cases Members.get? declared.fields fieldName <;> rfl

/-! ### All types -/

/-- What `view` reads at a type was written by `resolveType` at this type. -/
theorem view_resolve (view : Overrides → Option α) {read? : DeclaredType → Option α}
    (hd : store.Distinct)
    (hstep : ∀ declared found resolved, declared.Distinct →
      resolveType graph found (typeName, declared) = .ok resolved →
        view resolved = (read? declared).or (view found))
    (hother : ∀ before after name, Overrides.AgreeBeside name before after → typeName ≠ name →
      view after = view before)
    (h : store.resolve graph = .ok resolved) :
    view resolved = ((Members.get? store.types typeName).bind read?).or (view Overrides.empty) := by
  -- the declaration of another type writes beside this one
  refine Members.foldlM_view view hd.names (fun declared found resolved hmem hresolve => ?_)
    (fun entry _ hne found resolved hresolve => ?_) h
  · exact hstep declared found resolved (hd.types _ hmem) hresolve
  · refine hother found resolved entry.1 (resolveType_kept (fun type _ hname => ?_)
      (Overrides.agreeBeside_refl entry.1 found) hresolve) (Ne.symm hne)
    exact hname ▸ Overrides.keptAt_agreeBeside type found

theorem type?_resolve (hd : store.Distinct) (h : store.resolve graph = .ok resolved)
    (htype : type ∈ graph.types) (hkind : type.isInputObject = true) :
    resolved.type? type.name = store.type? type.name := by
  refine (view_resolve (Overrides.type? · type.name) hd (fun declared found resolved _ hresolve => ?_)
    (fun before after name hagree hname => hagree.type type.name hname) h).trans Option.or_none
  rw [resolveType_of_input htype hkind] at hresolve
  exact type?_resolveInputType hresolve

theorem inputField?_resolve (hd : store.Distinct) (h : store.resolve graph = .ok resolved)
    (htype : type ∈ graph.types) (hkind : type.isInputObject = true) (fieldName : String) :
    resolved.inputField? ⟨type.name, fieldName⟩ = store.inputField? ⟨type.name, fieldName⟩ := by
  refine (view_resolve (Overrides.inputField? · ⟨type.name, fieldName⟩) hd
    (fun declared found resolved hdeclared hresolve => ?_)
    (fun before after name hagree hname => hagree.inputField type.name fieldName hname) h).trans
      Option.or_none
  rw [resolveType_of_input htype hkind] at hresolve
  exact inputField?_resolveInputType hdeclared hresolve fieldName

theorem argument?_resolve (hd : store.Distinct) (h : store.resolve graph = .ok resolved)
    (htype : type ∈ graph.types) (hkind : type.isOutputObject = true)
    (fieldName argumentName : String) :
    resolved.argument? ⟨type.name, fieldName, argumentName⟩ =
      store.argument? ⟨type.name, fieldName, argumentName⟩ := by
  refine (view_resolve (Overrides.argument? · ⟨type.name, fieldName, argumentName⟩) hd
    (fun declared found resolved hdeclared hresolve => ?_)
    (fun before after name hagree hname => hagree.argument type.name fieldName argumentName hname)
    h).trans Option.or_none
  rw [resolveType_of_output htype hkind] at hresolve
  exact argument?_resolveOutputType hdeclared hresolve fieldName argumentName

/-- Resolved overrides stand at positions of the graph (`Placed`), one at most at each. -/
theorem placed_resolve (h : store.resolve graph = .ok resolved) :
    Overrides.Placed graph resolved ∧ resolved.Distinct := by
  constructor
  · refine foldlM_invariant (Overrides.Placed graph) (fun entry _ found resolved hfound hresolve => ?_)
      (Overrides.placed_empty graph) h
    exact resolveType_kept (fun type htype _ => Overrides.keptAt_placed htype) hfound hresolve
  · refine foldlM_invariant Overrides.Distinct (fun entry _ found resolved hfound hresolve => ?_)
      Overrides.distinct_empty h
    exact resolveType_kept (fun type _ _ => Overrides.keptAt_distinct type) hfound hresolve

end OverrideStore

end ArgGuard
