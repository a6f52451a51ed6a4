import ArgGuard.Proofs.Override.Replay

/-!
# Declarations that fit a schema

Resolving goes through what is declared and stops at the first thing that does not fit the schema.
Whether a thing fits does not hang on what came before it, so a store resolves if and only if each
thing fits (`exists_resolve_iff`): the form in which a field was declared, a value or arguments, has
to be one that the kind of its type takes. `Declared.Fits` says that of what has been declared, without
the store and without an order.

`means_history` is about stores as they come about, from a document or from nothing and then call by
call.
-/

namespace ArgGuard

/-- A document that may be declared as a fragment; `null` declares none. -/
def Json.IsFragment (document : Json) : Prop :=
  document = .null ∨ ∃ members, document = .object members

def DeclaredArgument.Fits : DeclaredArgument → Prop
  | .value document => document.IsFragment
  | .function _ => True

namespace DeclaredField

/-- What may be declared for a field of an input object. -/
def FitsInput (type : GraphType) (fieldName : String) (entry : DeclaredField) : Prop :=
  (∃ field, type.field? fieldName = some field) ∧
    ∃ document, entry = .value document ∧ document.IsFragment

/-- What may be declared for a field that takes arguments: nothing, or arguments in either form. -/
def FitsOutput (type : GraphType) (fieldName : String) (entry : DeclaredField) : Prop :=
  ∃ field, type.field? fieldName = some field ∧
    (entry = .value .null ∨
      (∃ members, entry = .value (.object members) ∧ ∀ member ∈ members,
        (∃ argument, field.argument? member.1 = some argument) ∧ member.2.IsFragment) ∨
      ∃ arguments, entry = .arguments arguments ∧ ∀ member ∈ arguments,
        (∃ argument, field.argument? member.1 = some argument) ∧ member.2.Fits)

end DeclaredField

namespace Declared

/-- What is declared in an input object fits the type. -/
@[mk_iff]
structure FitsInput (declared : Declared) (type : GraphType) : Prop where
  fragment : ∀ document, declared.fragment type.name = some document → document.IsFragment
  fields : ∀ fieldName entry, declared.field ⟨type.name, fieldName⟩ = some entry →
    entry.FitsInput type fieldName

@[mk_iff]
structure FitsOutput (declared : Declared) (type : GraphType) : Prop where
  fragment : declared.fragment type.name = none
  fields : ∀ fieldName entry, declared.field ⟨type.name, fieldName⟩ = some entry →
    entry.FitsOutput type fieldName

/-- Every declared type is there, and what is declared in it is what its kind takes. -/
def Fits (declared : Declared) (graph : TypeGraph) : Prop :=
  ∀ typeName, declared.type typeName = true → ∃ type, graph.find? typeName = some type ∧
    (type.isInputObject = true ∧ declared.FitsInput type ∨
      type.isOutputObject = true ∧ declared.FitsOutput type)

/-- Overrides that hold what has been declared for a position, and nothing beside. -/
structure HeldBy (declared : Declared) (graph : TypeGraph) (overrides : Overrides) : Prop where
  type : ∀ type ∈ graph.types, type.isInputObject = true →
    overrides.type? type.name = (declared.fragment type.name).bind Json.object?
  inputField : ∀ type ∈ graph.types, type.isInputObject = true → ∀ fieldName,
    overrides.inputField? ⟨type.name, fieldName⟩ =
      (declared.field ⟨type.name, fieldName⟩).bind DeclaredField.fragment?
  argument : ∀ type ∈ graph.types, type.isOutputObject = true → ∀ fieldName argumentName,
    overrides.argument? ⟨type.name, fieldName, argumentName⟩ =
      (declared.argument? ⟨type.name, fieldName, argumentName⟩).bind DeclaredArgument.override?
  placed : Overrides.Placed graph overrides

end Declared

namespace OverrideStore

variable {store : OverrideStore} {graph : TypeGraph} {type : GraphType} {field : GraphField}
  {declared : DeclaredType} {typeName fieldName argumentName : String}

/-! ### One thing -/

theorem exists_expectFragment_iff (location : String) (document : Json) :
    (∃ fragment, expectFragment location document = .ok fragment) ↔ document.IsFragment := by
  cases document <;>
    simp [expectFragment, expectObject, Json.IsFragment, Functor.map, Except.map]

/-- `expectFragment` succeeds on fragments alone, and what follows asks nothing of the fragment. -/
theorem exists_withFragment_iff {location : String} {document : Json} {P : Prop}
    {go : Option Fragment → Except OverrideError Overrides}
    (hgo : ∀ fragment, (∃ resolved, go fragment = .ok resolved) ↔ P) :
    (∃ resolved, (expectFragment location document >>= go) = .ok resolved) ↔
      document.IsFragment ∧ P := by
  simp only [exists_bind_ok_iff, hgo, exists_and_right, exists_expectFragment_iff]

theorem expectField_eq_ok_iff :
    expectField type fieldName = .ok field ↔ type.field? fieldName = some field := by
  unfold expectField
  cases type.field? fieldName <;> simp

theorem exists_resolveInputField_iff (found : Overrides) (entry : String × DeclaredField) :
    (∃ resolved, resolveInputField type found entry = .ok resolved) ↔
      entry.2.FitsInput type entry.1 := by
  obtain ⟨fieldName, declared⟩ := entry
  unfold resolveInputField
  simp only [exists_bind_ok_iff, expectField_eq_ok_iff, exists_and_right]
  refine and_congr_right fun _ => ?_
  cases declared with
  | value document =>
    refine (exists_withFragment_iff (P := True) fun fragment => ?_).trans (by simp)
    cases fragment <;> exact iff_of_true ⟨_, rfl⟩ trivial
  | arguments arguments =>
    refine iff_of_false ?_ (by simp)
    rintro ⟨resolved, h⟩
    dsimp only at h
    split at h <;> cases h

theorem exists_resolveArgument_iff (found : Overrides) (entry : String × DeclaredArgument) :
    (∃ resolved, resolveArgument type field found entry = .ok resolved) ↔
      (∃ argument, field.argument? entry.1 = some argument) ∧ entry.2.Fits := by
  obtain ⟨argumentName, declared⟩ := entry
  unfold resolveArgument
  dsimp only
  cases field.argument? argumentName with
  | none => exact iff_of_false (not_exists_ok_of_error rfl) (by simp)
  | some argument =>
    rw [and_iff_right ⟨argument, rfl⟩]
    cases declared with
    | function judge => exact iff_of_true ⟨_, rfl⟩ trivial
    | value document =>
      refine (exists_withFragment_iff (P := True) fun fragment => ?_).trans (and_iff_left trivial)
      cases fragment <;> exact iff_of_true ⟨_, rfl⟩ trivial

theorem exists_resolveOutputField_iff (found : Overrides) (entry : String × DeclaredField) :
    (∃ resolved, resolveOutputField type found entry = .ok resolved) ↔
      entry.2.FitsOutput type entry.1 := by
  obtain ⟨fieldName, declared⟩ := entry
  unfold resolveOutputField
  simp only [exists_bind_ok_iff, expectField_eq_ok_iff]
  refine exists_congr fun field => and_congr_right fun _ => ?_
  have harguments : ∀ arguments : Members DeclaredArgument,
      (∃ resolved, arguments.foldlM (resolveArgument type field) found = .ok resolved) ↔
        ∀ member ∈ arguments,
          (∃ argument, field.argument? member.1 = some argument) ∧ member.2.Fits :=
    fun arguments => exists_foldlM_ok_iff found fun member _ found =>
      exists_resolveArgument_iff found member
  cases declared with
  | arguments arguments => exact (harguments arguments).trans (by simp)
  | value document =>
    cases document with
    | null => exact iff_of_true ⟨_, rfl⟩ (.inl rfl)
    | object members =>
      refine (harguments _).trans (List.forall_mem_map.trans ?_)
      simp [DeclaredArgument.Fits]
    | _ => exact iff_of_false (not_exists_ok_of_error rfl) (by simp)

/-! ### One type -/

theorem exists_resolveInputType_iff (found : Overrides) :
    (∃ resolved, resolveInputType type declared found = .ok resolved) ↔
      (∀ document, declared.fragment = some document → document.IsFragment) ∧
        ∀ entry ∈ declared.fields, entry.2.FitsInput type entry.1 := by
  unfold resolveInputType
  have hfields : ∀ found, (∃ resolved,
      declared.fields.foldlM (resolveInputField type) found = .ok resolved) ↔
        ∀ entry ∈ declared.fields, entry.2.FitsInput type entry.1 :=
    fun found => exists_foldlM_ok_iff found fun entry _ found => exists_resolveInputField_iff found entry
  cases declared.fragment with
  | none => exact (hfields found).trans (by simp)
  | some document =>
    refine (exists_withFragment_iff fun fragment => ?_).trans (and_congr_left fun _ => by simp)
    cases fragment <;> exact hfields _

theorem exists_resolveOutputType_iff (found : Overrides) :
    (∃ resolved, resolveOutputType type declared found = .ok resolved) ↔
      declared.fragment = none ∧ ∀ entry ∈ declared.fields, entry.2.FitsOutput type entry.1 := by
  unfold resolveOutputType
  cases declared.fragment with
  | none =>
    rw [and_iff_right rfl]
    exact exists_foldlM_ok_iff found fun entry _ found => exists_resolveOutputField_iff found entry
  | some document => exact iff_of_false (not_exists_ok_of_error rfl) (by simp)

/-! ### All types -/

/-- A store whose types and fields are found under their names. -/
structure Keyed (store : OverrideStore) : Prop where
  types : (Members.names store.types).Nodup
  fields : ∀ entry ∈ store.types, (Members.names entry.2.fields).Nodup

namespace Keyed

theorem empty : Keyed {} := ⟨List.nodup_nil, by simp⟩

theorem updateType (h : store.Keyed) (typeName : String) {change : DeclaredType → DeclaredType}
    (hchange : ∀ declared, (Members.names declared.fields).Nodup →
      (Members.names (change declared).fields).Nodup) : (store.updateType typeName change).Keyed where
  types := Members.nodup_names_set h.types ..
  fields entry hentry := by
    rcases Members.mem_set hentry with rfl | hentry
    · refine hchange _ ?_
      cases hget : Members.get? store.types typeName with
      | none => exact List.nodup_nil
      | some declared => exact h.fields _ (Members.mem_of_get? hget)
    · exact h.fields entry hentry

theorem declare (h : store.Keyed) (declaration : Declaration) : (store.declare declaration).Keyed := by
  cases declaration with
  | type typeName => exact h.updateType typeName fun _ hfields => hfields
  | fragment typeName document => exact h.updateType typeName fun _ hfields => hfields
  | field coordinate document =>
    exact h.updateType _ fun _ hfields => Members.nodup_names_set hfields ..
  | argument coordinate entry =>
    exact h.updateType _ fun _ hfields => Members.nodup_names_set hfields ..

theorem foldl (history : List Declaration) : (history.foldl OverrideStore.declare {}).Keyed :=
  List.foldlRecOn history _ empty fun _ h declaration _ => h.declare declaration

end Keyed

theorem exists_resolveType_iff (hkeyed : store.Keyed) {entry : String × DeclaredType}
    (hentry : entry ∈ store.types) (found : Overrides) :
    (∃ resolved, resolveType graph found entry = .ok resolved) ↔
      ∃ type, graph.find? entry.1 = some type ∧
        (type.isInputObject = true ∧ store.declared.FitsInput type ∨
          type.isOutputObject = true ∧ store.declared.FitsOutput type) := by
  obtain ⟨typeName, declared⟩ := entry
  -- as it is found under its name, the readers see what is resolved
  have hget := Members.get?_of_mem hkeyed.types hentry
  have hfragment : store.declared.fragment typeName = declared.fragment := by
    simp only [OverrideStore.declared, hget, Option.bind_some]
  have hfield : ∀ fieldName, store.declared.field ⟨typeName, fieldName⟩ =
      Members.get? declared.fields fieldName := by
    simp only [OverrideStore.declared, hget, Option.bind_some, implies_true]
  have hfields := hkeyed.fields _ hentry
  unfold resolveType
  dsimp only
  cases hfind : graph.find? typeName with
  | none => exact iff_of_false (not_exists_ok_of_error rfl) (by simp)
  | some type =>
    obtain ⟨-, rfl⟩ := TypeGraph.find?_eq_some_iff.1 hfind
    have hinput : (∃ resolved, resolveInputType type declared found = .ok resolved) ↔
        store.declared.FitsInput type := by
      rw [exists_resolveInputType_iff, Members.forall_mem_iff hfields, Declared.fitsInput_iff]
      simp only [hfragment, hfield]
    have houtput : (∃ resolved, resolveOutputType type declared found = .ok resolved) ↔
        store.declared.FitsOutput type := by
      rw [exists_resolveOutputType_iff, Members.forall_mem_iff hfields, Declared.fitsOutput_iff]
      simp only [hfragment, hfield]
    dsimp only
    split_ifs with hkind houtputKind
    · rw [hinput]
      simp [hkind, GraphType.isOutputObject_of_input hkind]
    · rw [houtput]
      simp [hkind, houtputKind]
    -- what is declared at a scalar, an enumeration or a union fits nothing
    · simp [hkind, houtputKind]

/-- `resolve` succeeds exactly if everything declared `Fits` the graph. -/
theorem exists_resolve_iff (hkeyed : store.Keyed) :
    (∃ resolved, store.resolve graph = .ok resolved) ↔ store.declared.Fits graph := by
  unfold resolve
  rw [exists_foldlM_ok_iff _ fun entry hentry found => exists_resolveType_iff hkeyed hentry found]
  constructor
  · intro h typeName hdeclared
    obtain ⟨declared, hget⟩ := Members.contains_iff.1 hdeclared
    exact h _ (Members.mem_of_get? hget)
  · intro h entry hentry
    exact h entry.1 (Members.contains_of_mem hentry)

/-! ### From documents and calls -/

theorem Distinct.declare (h : store.Distinct) {declaration : Declaration}
    (hnames : ∀ coordinate document, declaration = .field coordinate document →
      document.hasDistinctNames = true) : (store.declare declaration).Distinct := by
  cases declaration with
  | type typeName => exact h.updateType typeName fun _ hdeclared => hdeclared
  | fragment typeName document => exact h.inputType typeName document
  | field coordinate document => exact h.inputField _ _ (hnames coordinate document rfl)
  | argument coordinate entry => exact h.declareArgument coordinate entry

theorem heldBy_resolve {resolved : Overrides} (hd : store.Distinct)
    (h : store.resolve graph = .ok resolved) : store.declared.HeldBy graph resolved where
  type type htype hkind := by
    rw [type?_resolve hd h htype hkind, OverrideStore.type?, declared, Option.bind_assoc]
    rfl
  inputField type htype hkind fieldName := by
    rw [inputField?_resolve hd h htype hkind, inputField?, declared, Option.bind_assoc]
  argument type htype hkind fieldName argumentName := by
    rw [argument?_resolve hd h htype hkind, argument?, Declared.argument?, declared]
    dsimp only [ArgumentCoordinate.field]
    cases Members.get? store.types type.name <;> rfl
  placed := (placed_resolve h).1

/-- The store that a document opens, or no document. -/
def start : Option Json → Except OverrideError OverrideStore
  | some document => ofJson document
  | none => .ok {}

/-- What a store comes to when a history of declarations was added to it. The last item leaves aside
documents that name a member twice, which no document does that was read from a text. -/
structure Means (store : OverrideStore) (history : List Declaration) (graph : TypeGraph) : Prop where
  replay : store.declared = Declared.replay history
  argument : ∀ coordinate, store.declared.argument? coordinate = history.foldl coordinate.follow none
  isEmpty : store.isEmpty = true ↔ ∀ typeName, (Declared.replay history).type typeName = false
  fits : (∃ resolved, store.resolve graph = .ok resolved) ↔ (Declared.replay history).Fits graph
  resolved : (∀ coordinate document, .field coordinate document ∈ history →
    document.hasDistinctNames = true) → ∀ resolved, store.resolve graph = .ok resolved →
      (Declared.replay history).HeldBy graph resolved

theorem isEmpty_iff : store.isEmpty = true ↔ ∀ typeName, store.declared.type typeName = false := by
  obtain ⟨types⟩ := store
  cases types with
  | nil => exact iff_of_true rfl fun _ => rfl
  | cons entry rest =>
    refine iff_of_false (by simp [isEmpty]) fun h => ?_
    have hfirst := h entry.1
    simp [declared, Members.contains_of_mem List.mem_cons_self] at hfirst

theorem foldl_means (history : List Declaration) (graph : TypeGraph) :
    (history.foldl declare {}).Means history graph := by
  have hreplay := declared_foldl history
  constructor
  case replay => exact hreplay
  case argument =>
    intro coordinate
    rw [hreplay, Declared.argument?_replay]
  case isEmpty => exact hreplay ▸ isEmpty_iff
  case fits => exact hreplay ▸ exists_resolve_iff (Keyed.foldl history)
  case resolved =>
    intro hnames resolved h
    -- arguments are read by name here, where `fits` went through them
    have hd : (history.foldl declare {}).Distinct :=
      List.foldlRecOn history _ distinct_empty fun _ h declaration hmem =>
        h.declare fun coordinate document heq => hnames coordinate document (heq ▸ hmem)
    exact hreplay ▸ heldBy_resolve hd h

/-- A store that was started from a document, or from nothing, and extended call by call shows what the
replay of `Declaration.history` arrives at, and resolves exactly if that `Fits`. -/
theorem means_history (graph : TypeGraph) (document : Option Json) (calls : List OverrideCall)
    {store : OverrideStore} (h : start document = .ok store) :
    (calls.foldl OverrideCall.apply store).Means
      (Declaration.history document calls) graph := by
  have hstore : store = (document.elim [] Declaration.ofDocument).foldl declare {} := by
    cases document with
    | none => exact (Except.ok.inj h).symm
    | some document => exact ofJson_eq_foldl h
  have hcalls : calls.foldl OverrideCall.apply store =
      (calls.map OverrideCall.declaration).foldl declare store := by
    rw [List.foldl_map]
    exact congrArg (List.foldl · store calls) (funext fun _ => funext fun _ => apply_eq_declare ..)
  rw [hcalls, hstore, ← List.foldl_append]
  exact foldl_means (Declaration.history document calls) graph

/-- A query with two arguments, and an input object with two fields. -/
def booksDefinitions : List TypeDefinition :=
  [⟨"Query", [], .object [⟨"books",
      [⟨"filter", .named "BookFilter" false, []⟩, ⟨"limit", .named "Int" false, []⟩],
      .list (.named "String" false) false, []⟩]⟩,
    ⟨"BookFilter", [], .inputObject [⟨"title", .named "String" false, []⟩,
      ⟨"year", .named "Int" false, []⟩]⟩]

def booksDocument : Json :=
  .object [("Query", .object [("books", .object [("limit", .object [("maximum", .ofInt 50)])])]),
    ("BookFilter", .object [("title", .string "any"), ("year", .null)])]

/-- The function is declared beside the limit of the document, then both give way to a value, and the
function of the filter comes on top of that; a faulty fragment gives way as well. -/
def booksCalls : List OverrideCall :=
  [.argumentFunction ⟨"Query", "books", "limit"⟩ ⟨fun _ => .ok ()⟩,
    .inputField "Query" "books" (.object [("limit", .object [("minimum", .ofInt 1)])]),
    .argumentFunction ⟨"Query", "books", "filter"⟩ ⟨fun _ => .ok ()⟩,
    .inputField "BookFilter" "title" (.object [("minLength", .ofInt 3)]),
    .inputType "BookFilter" (.object [("minProperties", .ofInt 1)])]

theorem means_history_books :
    ∃ store, start (some booksDocument) = .ok store ∧
      (booksCalls.foldl OverrideCall.apply store).Means
        (Declaration.history (some booksDocument) booksCalls) (.ofDefinitions booksDefinitions) ∧
      (Declared.replay (Declaration.history (some booksDocument) booksCalls)).Fits
        (.ofDefinitions booksDefinitions) := by
  have hfits : ((start (some booksDocument)).toOption.any fun store =>
      ((booksCalls.foldl OverrideCall.apply store).resolve (.ofDefinitions booksDefinitions)).isOk) =
        true := by
    decide +kernel
  obtain ⟨store, h, hfits⟩ := exists_ok_of_any hfits
  have hmeans := means_history (.ofDefinitions booksDefinitions) (some booksDocument) booksCalls h
  exact ⟨store, h, hmeans, hmeans.fits.1 (exists_ok_of_isOk hfits)⟩

end OverrideStore

end ArgGuard
