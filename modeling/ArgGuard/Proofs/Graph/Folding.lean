import ArgGuard.Proofs.Graph.Classification
import Mathlib.Data.List.Induction

/-!
# What a graph keeps of its document

A document may define a type in several places, first by a definition and then by extensions, in any order
and under different kinds. `ofDefinitions_gathers` says what becomes of it: the graph has every defined name
once, in the order in which the names first appear; the first definition of a name decides the kind; and
fields, values and directives of a type are those of all its definitions, one after the other, as the
document writes them (`GraphField.written`, `TypeBody.fields`, `TypeBody.values`). The fields are classified
by the finished graph itself, although they were read before it was there: whatever the list level, the leaf
of a position says under which kind the graph holds its name.
-/

namespace ArgGuard

/-- The levels of a position: itself, its items, their items, down to the leaf. -/
def Position.levels : Position → List Position
  | .named name leaf nonNull => [.named name leaf nonNull]
  | .list item nonNull => .list item nonNull :: item.levels

theorem Position.leaf_of_mem_levels {position level : Position} (h : level ∈ position.levels) :
    level.leafName = position.leafName ∧ level.leaf = position.leaf := by
  induction position with
  | named name leaf nonNull => rw [List.mem_singleton.1 h]; exact ⟨rfl, rfl⟩
  | list item nonNull ih =>
    rcases List.mem_cons.1 h with rfl | h
    · exact ⟨rfl, rfl⟩
    · exact ih h

/-! ### What the document writes -/

/-- The type as the document writes it, without what the leaf was found to be. -/
def Position.written : Position → TypeRef
  | .named name _ nonNull => .named name nonNull
  | .list item nonNull => .list item.written nonNull

/-- The field as the document writes it. A field of an input object is one without arguments. -/
def GraphField.written (field : GraphField) : FieldDefinition where
  name := field.name
  arguments := field.arguments.map fun argument =>
    ⟨argument.name, argument.position.written, argument.directives⟩
  type := field.position.written
  directives := field.directives

/-- The fields between the braces of a definition. -/
def TypeBody.fields : TypeBody → List FieldDefinition
  | .object fields | .interface fields => fields
  | .inputObject fields => fields.map fun field => ⟨field.name, [], field.type, field.directives⟩
  | .scalar | .union | .enumeration _ => []

/-- The enumeration values between the braces of a definition. -/
def TypeBody.values : TypeBody → List String
  | .enumeration values => values
  | .scalar | .object _ | .interface _ | .union | .inputObject _ => []

theorem Position.written_ofTypeRef (kindOf : String → Option TypeKind) (type : TypeRef) :
    (Position.ofTypeRef kindOf type).written = type := by
  induction type with
  | named name nonNull => rfl
  | list item nonNull ih => rw [ofTypeRef, written, ih]

theorem GraphField.written_ofDefinition (kindOf : String → Option TypeKind) (field : FieldDefinition) :
    (GraphField.ofDefinition kindOf field).written = field := by
  simp [written, ofDefinition, Position.written_ofTypeRef, Function.comp_def]

theorem TypeDefinition.written_fields (kindOf : String → Option TypeKind) (definition : TypeDefinition) :
    (definition.fields kindOf).map (·.written) = definition.body.fields := by
  have hfields : ∀ fields : List FieldDefinition,
      (fields.map (.ofDefinition kindOf)).map GraphField.written = fields := by
    simp [Function.comp_def, GraphField.written_ofDefinition]
  unfold TypeDefinition.fields
  cases definition.body with
  | object fields => exact hfields fields
  | interface fields => exact hfields fields
  | inputObject fields =>
    simp [TypeBody.fields, GraphField.written, GraphField.ofInputValue, Position.written_ofTypeRef]
  | scalar | union | enumeration => rfl

theorem TypeDefinition.values_eq (definition : TypeDefinition) :
    definition.values = definition.body.values := by
  unfold TypeDefinition.values
  cases definition.body <;> rfl

/-- A list inside a type to whose end every definition of the type adds. -/
structure GraphType.Grows {α : Type u} (kindOf : String → Option TypeKind)
    (view : GraphType → List α) (adds : TypeDefinition → List α) : Prop where
  empty : ∀ name kind, view (.empty name kind) = []
  extend : ∀ type definition, view (type.extend kindOf definition) = view type ++ adds definition

namespace TypeGraph

variable {α : Type u} {kindOf : String → Option TypeKind} {definitions : List TypeDefinition}
  {view : GraphType → List α} {adds : TypeDefinition → List α}

/-! ### Names -/

theorem eraseDups_concat (names : List String) (name : String) :
    (names ++ [name]).eraseDups = if name ∈ names then names.eraseDups else names.eraseDups ++ [name] := by
  rw [List.eraseDups_append, List.removeAll]
  by_cases h : name ∈ names
  · rw [if_pos h, List.filter_cons_of_neg (by simp [h]), List.filter_nil]
    exact List.append_nil _
  · rw [if_neg h, List.filter_cons_of_pos (by simp [h]), List.filter_nil]
    rfl

/-- `eraseDups` keeps each name where it first appears. -/
theorem names_foldl_absorb (kindOf : String → Option TypeKind) (definitions : List TypeDefinition) :
    (definitions.foldl (absorb kindOf) []).map (·.name) = (definitions.map (·.name)).eraseDups := by
  induction definitions using List.reverseRecOn with
  | nil => rfl
  | append_singleton definitions definition ih =>
    rw [List.foldl_append, List.foldl_cons, List.foldl_nil, names_absorb, ih, List.map_append,
      List.map_singleton, eraseDups_concat]
    simp only [List.mem_eraseDups]

/-! ### What definitions add -/

/-- What all definitions of a name add, one after the other. -/
def gathered (adds : TypeDefinition → List α) (definitions : List TypeDefinition) (name : String) :
    List α :=
  (definitions.filter (·.name = name)).flatMap adds

theorem gathered_concat (adds : TypeDefinition → List α) (definitions : List TypeDefinition)
    (definition : TypeDefinition) (name : String) :
    gathered adds (definitions ++ [definition]) name =
      gathered adds definitions name ++ if definition.name = name then adds definition else [] := by
  by_cases h : definition.name = name <;> simp [gathered, h]

theorem gathered_eq_nil {name : String} (h : name ∉ definitions.map (·.name)) :
    gathered adds definitions name = [] := by
  rw [gathered, List.filter_eq_nil_iff.2]
  · rfl
  · intro definition hmem hname
    exact h (List.mem_map.2 ⟨definition, hmem, of_decide_eq_true hname⟩)

theorem view_absorb {types : List GraphType} (hview : GraphType.Grows kindOf view adds)
    (hnames : types.map (·.name) = (definitions.map (·.name)).eraseDups)
    (h : ∀ type ∈ types, view type = gathered adds definitions type.name) (definition : TypeDefinition) :
    ∀ type ∈ absorb kindOf types definition,
      view type = gathered adds (definitions ++ [definition]) type.name := by
  intro type htype
  rw [gathered_concat]
  unfold absorb at htype
  split at htype
  · obtain ⟨before, hbefore, rfl⟩ := List.mem_map.1 htype
    split
    · rename_i hname
      rw [hview.extend, h before hbefore]
      exact congrArg _ (if_pos hname.symm).symm
    · rename_i hname
      rw [if_neg (Ne.symm hname), List.append_nil, h before hbefore]
  · rename_i hnew
    rcases List.mem_append.1 htype with htype | htype
    · have hname : definition.name ≠ type.name := fun he => hnew (he ▸ List.mem_map_of_mem htype)
      rw [if_neg hname, List.append_nil, h type htype]
    · -- a name that is new among the types was not defined before
      rw [hnames, List.mem_eraseDups] at hnew
      rw [List.mem_singleton.1 htype, hview.extend, hview.empty]
      exact congrArg₂ (· ++ ·) (gathered_eq_nil hnew).symm (if_pos rfl).symm

/-- In the type of a name a list that `Grows` is what all definitions of the name add. -/
theorem view_foldl_absorb (hview : GraphType.Grows kindOf view adds) :
    ∀ type ∈ definitions.foldl (absorb kindOf) [], view type = gathered adds definitions type.name := by
  induction definitions using List.reverseRecOn with
  | nil => simp
  | append_singleton definitions definition ih =>
    rw [List.foldl_append, List.foldl_cons, List.foldl_nil]
    exact view_absorb hview (names_foldl_absorb kindOf definitions) ih definition

/-- The directives of all definitions of a name. -/
def directivesOf (definitions : List TypeDefinition) (name : String) : List Directive :=
  (definitions.filter (·.name = name)).flatMap (·.directives)

theorem directives_ofDefinitions {type : GraphType} (h : type ∈ (ofDefinitions definitions).types) :
    type.directives = directivesOf definitions type.name :=
  view_foldl_absorb ⟨fun _ _ => rfl, fun _ _ => rfl⟩ type h

/-! ### The whole graph -/

/-- The leaf of a position says under which kind, if any, a graph holds its name. -/
structure LeafAgrees (graph : TypeGraph) (position : Position) : Prop where
  inputObject : position.leaf = .inputObject ↔ graph.kind? position.leafName = some .inputObject
  enumeration : position.leaf = .enumeration ↔ graph.kind? position.leafName = some .enumeration
  output : position.leaf = .output ↔
    ∃ kind ∈ [TypeKind.object, .interface, .union], graph.kind? position.leafName = some kind
  builtin : ∀ scalar, position.leaf = .builtin scalar ↔
    Builtin.ofName? position.leafName = some scalar ∧
      (graph.kind? position.leafName = some .scalar ∨ graph.kind? position.leafName = none)
  customScalar : position.leaf = .customScalar ↔
    Builtin.ofName? position.leafName = none ∧ graph.kind? position.leafName = some .scalar
  unknown : position.leaf = .unknown ↔
    Builtin.ofName? position.leafName = none ∧ graph.kind? position.leafName = none

/-- A graph that holds what definitions say, and nothing else. -/
structure Gathers (graph : TypeGraph) (definitions : List TypeDefinition) : Prop where
  names : graph.types.map (·.name) = (definitions.map (·.name)).eraseDups
  kind : ∀ type ∈ graph.types, ∃ first,
    definitions.find? (·.name = type.name) = some first ∧ type.kind = first.kind
  fields : ∀ type ∈ graph.types,
    type.fields.map (·.written) = gathered (·.body.fields) definitions type.name
  values : ∀ type ∈ graph.types, type.values = gathered (·.body.values) definitions type.name
  directives : ∀ type ∈ graph.types, type.directives = directivesOf definitions type.name
  leaves : ∀ type ∈ graph.types, ∀ field ∈ type.fields,
    (∀ level ∈ field.position.levels, graph.LeafAgrees level) ∧
      ∀ argument ∈ field.arguments, ∀ level ∈ argument.position.levels, graph.LeafAgrees level

theorem Classifies.leafAgrees {graph : TypeGraph} {position : Position} (h : graph.Classifies position) :
    graph.LeafAgrees position := by
  have hleaf : position.leaf = Leaf.classify position.leafName (graph.kind? position.leafName) := h
  constructor
  · rw [hleaf]; exact Leaf.classify_eq_inputObject_iff
  · rw [hleaf]; exact Leaf.classify_eq_enumeration_iff
  · rw [hleaf]; exact Leaf.classify_eq_output_iff
  · intro scalar
    rw [hleaf]; exact Leaf.classify_eq_builtin_iff
  · rw [hleaf]; exact Leaf.classify_eq_customScalar_iff
  · rw [hleaf]; exact Leaf.classify_eq_unknown_iff

theorem Classifies.level {graph : TypeGraph} {position level : Position} (h : graph.Classifies position)
    (hlevel : level ∈ position.levels) : graph.Classifies level := by
  obtain ⟨hname, hleaf⟩ := Position.leaf_of_mem_levels hlevel
  rw [Classifies, hname, hleaf]
  exact h

theorem kind_ofDefinitions {type : GraphType} (h : type ∈ (ofDefinitions definitions).types) :
    ∃ first, definitions.find? (·.name = type.name) = some first ∧ type.kind = first.kind := by
  have hkind : (ofDefinitions definitions).kind? type.name = some type.kind :=
    kind?_eq_some_iff.2 ⟨type, h, rfl, rfl⟩
  rw [kind?_ofDefinitions, declaredKind, Option.map_eq_some_iff] at hkind
  obtain ⟨first, hfirst, hkind⟩ := hkind
  exact ⟨first, hfirst, hkind.symm⟩

/-- `ofDefinitions` keeps what the document writes and classifies every leaf by the finished graph. -/
theorem ofDefinitions_gathers (definitions : List TypeDefinition) :
    (ofDefinitions definitions).Gathers definitions where
  names := names_foldl_absorb _ definitions
  kind _ htype := kind_ofDefinitions htype
  fields := view_foldl_absorb ⟨fun _ _ => rfl, fun type definition => by
    rw [GraphType.extend, List.map_append, TypeDefinition.written_fields]⟩
  values := view_foldl_absorb ⟨fun _ _ => rfl, fun type definition => by
    rw [GraphType.extend, TypeDefinition.values_eq]⟩
  directives _ htype := directives_ofDefinitions htype
  leaves type htype field hfield := by
    obtain ⟨hposition, harguments⟩ := ofDefinitions_classified definitions type htype field hfield
    exact ⟨fun level hlevel => (hposition.level hlevel).leafAgrees, fun argument hargument level hlevel =>
      ((harguments argument hargument).level hlevel).leafAgrees⟩

/-- An extension may come before its type, and a name keeps the kind of its first definition. -/
example : ((ofDefinitions
    [⟨"Filter", [], .inputObject [⟨"since", .named "Date" false, []⟩]⟩, ⟨"Date", [], .scalar⟩,
      ⟨"Filter", [], .object [⟨"text", [], .list (.named "Filter" true) false, []⟩]⟩]).types.map
        fun type => (type.name, type.kind, type.fields.map fun field => (field.name, field.position))) =
    [("Filter", .inputObject, [("since", .named "Date" .customScalar false),
        ("text", .list (.named "Filter" .inputObject true) false)]), ("Date", .scalar, [])] := by
  decide

end TypeGraph

end ArgGuard
