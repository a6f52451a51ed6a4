import ArgGuard.Graph.Basic
import ArgGuard.Proofs.Members

/-!
# Leaves and declarations

The leaf of a position was classified while the definitions were read, before the graph was there.
Here the classification is tied to the finished graph: `ofDefinitions_classified` says that every
position in it carries what the graph itself says of its leaf. So a leaf that is taken for an input
object is declared as one, and a leaf that is taken for a scalar has the name of that scalar.
-/

namespace ArgGuard

variable {kindOf : String → Option TypeKind} {name : String} {definitions : List TypeDefinition}

namespace Leaf

variable {kind : Option TypeKind}

/-- `Leaf.classify` goes by the kind alone for a declared type. `Builtin.ofName?` decides only about scalars
and undeclared names. -/
theorem classify_cases (name : String) (kind : Option TypeKind) :
    (∃ scalar, Builtin.ofName? name = some scalar ∧ (kind = some .scalar ∨ kind = none) ∧
      classify name kind = .builtin scalar) ∨
    (Builtin.ofName? name = none ∧ kind = some .scalar ∧ classify name kind = .customScalar) ∨
    (Builtin.ofName? name = none ∧ kind = none ∧ classify name kind = .unknown) ∨
    (kind = some .inputObject ∧ classify name kind = .inputObject) ∨
    (kind = some .enumeration ∧ classify name kind = .enumeration) ∨
    ((∃ found ∈ [TypeKind.object, .interface, .union], kind = some found) ∧
      classify name kind = .output) := by
  rcases kind with _ | kind
  · cases h : Builtin.ofName? name <;> simp [classify, h]
  · cases kind <;> cases h : Builtin.ofName? name <;> simp [classify, h]

theorem classify_eq_inputObject_iff : classify name kind = .inputObject ↔ kind = some .inputObject := by
  grind [classify_cases name kind]

theorem classify_eq_enumeration_iff : classify name kind = .enumeration ↔ kind = some .enumeration := by
  grind [classify_cases name kind]

theorem classify_eq_output_iff :
    classify name kind = .output ↔ ∃ found ∈ [TypeKind.object, .interface, .union], kind = some found := by
  grind [classify_cases name kind]

theorem classify_eq_builtin_iff {scalar : Builtin} :
    classify name kind = .builtin scalar ↔
      Builtin.ofName? name = some scalar ∧ (kind = some .scalar ∨ kind = none) := by
  grind [classify_cases name kind]

theorem classify_eq_customScalar_iff :
    classify name kind = .customScalar ↔ Builtin.ofName? name = none ∧ kind = some .scalar := by
  grind [classify_cases name kind]

theorem classify_eq_unknown_iff :
    classify name kind = .unknown ↔ Builtin.ofName? name = none ∧ kind = none := by
  grind [classify_cases name kind]

theorem ofName?_of_classify {scalar : Builtin} (h : classify name kind = .builtin scalar) :
    Builtin.ofName? name = some scalar :=
  (classify_eq_builtin_iff.1 h).1

theorem ofName?_eq_none_of_classify
    (h : classify name kind = .customScalar ∨ classify name kind = .unknown) :
    Builtin.ofName? name = none :=
  h.elim (fun h => (classify_eq_customScalar_iff.1 h).1) fun h => (classify_eq_unknown_iff.1 h).1

end Leaf

theorem GraphType.isOutputObject_of_input {type : GraphType} (h : type.isInputObject = true) :
    type.isOutputObject = false := by
  rw [isOutputObject, of_decide_eq_true h]
  rfl

theorem GraphType.isInputObject_of_output {type : GraphType} (h : type.isOutputObject = true) :
    type.isInputObject = false := by
  cases hinput : type.isInputObject with
  | false => rfl
  | true => exact h.symm.trans (isOutputObject_of_input hinput)

namespace TypeGraph

variable {graph : TypeGraph} {type : GraphType} {position : Position}

theorem find?_eq_some_iff : graph.find? name = some type ↔ type ∈ graph.types ∧ type.name = name := by
  constructor
  · intro h
    exact ⟨List.mem_of_find?_eq_some h, by simpa using List.find?_some h⟩
  · rintro ⟨hmem, rfl⟩
    have hd := graph.distinct
    unfold find?
    generalize graph.types = types at hmem hd
    induction types with
    | nil => cases hmem
    | cons first rest ih =>
      obtain ⟨hnew, hrest⟩ := List.nodup_cons.1 hd
      rcases List.mem_cons.1 hmem with rfl | hmem
      · exact List.find?_cons_of_pos (by simp)
      · rw [List.find?_cons_of_neg]
        · exact ih hmem hrest
        · intro he
          exact hnew (List.mem_map.2 ⟨type, hmem, (of_decide_eq_true he).symm⟩)

def kind? (graph : TypeGraph) (name : String) : Option TypeKind :=
  (graph.find? name).map (·.kind)

/-- Whether a position carries what the graph says of its leaf. -/
def Classifies (graph : TypeGraph) (position : Position) : Prop :=
  position.leaf = Leaf.classify position.leafName (graph.kind? position.leafName)

/-- A graph whose positions all carry what the graph says of their leaves. -/
def Classified (graph : TypeGraph) : Prop :=
  ∀ type ∈ graph.types, ∀ field ∈ type.fields, graph.Classifies field.position ∧
    ∀ argument ∈ field.arguments, graph.Classifies argument.position

/-! ### Kinds -/

/-- The kind of the first type of a name. -/
def kindAmong (types : List GraphType) (name : String) : Option TypeKind :=
  (types.find? (·.name = name)).map (·.kind)

theorem kindAmong_append (types others : List GraphType) (name : String) :
    kindAmong (types ++ others) name = (kindAmong types name).or (kindAmong others name) := by
  rw [kindAmong, List.find?_append]
  cases h : types.find? (·.name = name) <;> simp [kindAmong, h]

theorem kindAmong_map {change : GraphType → GraphType} (hname : ∀ type, (change type).name = type.name)
    (hkind : ∀ type, (change type).kind = type.kind) (types : List GraphType) (name : String) :
    kindAmong (types.map change) name = kindAmong types name := by
  simp only [kindAmong, List.find?_map, Function.comp_def, hname]
  cases types.find? (·.name = name) <;> simp [hkind]

theorem kindAmong_absorb (types : List GraphType) (definition : TypeDefinition) (name : String) :
    kindAmong (absorb kindOf types definition) name =
      (kindAmong types name).or (if definition.name = name then some definition.kind else none) := by
  unfold absorb
  split
  · rename_i hmem
    rw [kindAmong_map]
    · split
      · rename_i hname
        subst hname
        obtain ⟨type, htype, hname⟩ := List.mem_map.1 hmem
        have hfound : (types.find? (·.name = definition.name)).isSome = true :=
          List.find?_isSome.2 ⟨type, htype, by simpa using hname⟩
        obtain ⟨found, hfound⟩ := Option.isSome_iff_exists.1 hfound
        rw [kindAmong, hfound]; rfl
      · rw [Option.or_none]
    all_goals
      intro type
      split <;> rfl
  · rw [kindAmong_append]
    congr 1
    simp only [kindAmong, List.find?_singleton, GraphType.extend, GraphType.empty]
    by_cases h : definition.name = name <;> simp [h]

theorem kindAmong_foldl_absorb (definitions : List TypeDefinition) (types : List GraphType)
    (name : String) :
    kindAmong (definitions.foldl (absorb kindOf) types) name =
      (kindAmong types name).or (declaredKind definitions name) := by
  induction definitions generalizing types with
  | nil => rw [declaredKind, List.find?_nil, Option.map_none, Option.or_none]; rfl
  | cons definition rest ih =>
    rw [List.foldl_cons, ih, kindAmong_absorb, Option.or_assoc]
    congr 1
    by_cases h : definition.name = name <;> simp [declaredKind, h]

theorem kind?_ofDefinitions (definitions : List TypeDefinition) (name : String) :
    (ofDefinitions definitions).kind? name = declaredKind definitions name :=
  kindAmong_foldl_absorb definitions [] name

/-! ### Positions -/

theorem fields_absorb {P : GraphField → Prop} {types : List GraphType} {definition : TypeDefinition}
    (htypes : ∀ type ∈ types, ∀ field ∈ type.fields, P field)
    (hdefinition : ∀ field ∈ definition.fields kindOf, P field) :
    ∀ type ∈ absorb kindOf types definition, ∀ field ∈ type.fields, P field := by
  have hextend : ∀ type : GraphType, (∀ field ∈ type.fields, P field) →
      ∀ field ∈ (type.extend kindOf definition).fields, P field := by
    intro type htype field hfield
    rcases List.mem_append.1 hfield with hfield | hfield
    · exact htype field hfield
    · exact hdefinition field hfield
  unfold absorb
  split
  · intro type htype
    obtain ⟨before, hbefore, rfl⟩ := List.mem_map.1 htype
    split
    · exact hextend before (htypes before hbefore)
    · exact htypes before hbefore
  · intro type htype
    rcases List.mem_append.1 htype with htype | htype
    · exact htypes type htype
    · rw [List.mem_singleton.1 htype]
      exact hextend _ (by simp [GraphType.empty])

theorem fields_foldl_absorb {P : GraphField → Prop}
    (h : ∀ definition ∈ definitions, ∀ field ∈ definition.fields kindOf, P field)
    {types : List GraphType} (htypes : ∀ type ∈ types, ∀ field ∈ type.fields, P field) :
    ∀ type ∈ definitions.foldl (absorb kindOf) types, ∀ field ∈ type.fields, P field := by
  induction definitions generalizing types with
  | nil => exact htypes
  | cons definition rest ih =>
    exact ih (fun other ho => h other (List.mem_cons_of_mem _ ho))
      (fields_absorb htypes (h definition List.mem_cons_self))

theorem leaf_ofTypeRef (kindOf : String → Option TypeKind) (type : TypeRef) :
    (Position.ofTypeRef kindOf type).leaf =
      Leaf.classify (Position.ofTypeRef kindOf type).leafName
        (kindOf (Position.ofTypeRef kindOf type).leafName) := by
  induction type with
  | named => rfl
  | list item nonNull ih => exact ih

theorem classifies_ofTypeRef (definitions : List TypeDefinition) (type : TypeRef) :
    (ofDefinitions definitions).Classifies (.ofTypeRef (declaredKind definitions) type) := by
  rw [Classifies, kind?_ofDefinitions]
  exact leaf_ofTypeRef _ type

theorem ofDefinitions_classified (definitions : List TypeDefinition) :
    (ofDefinitions definitions).Classified := by
  refine fields_foldl_absorb (fun definition _ field hfield => ?_) (by simp)
  unfold TypeDefinition.fields at hfield
  split at hfield
  · obtain ⟨declared, -, rfl⟩ := List.mem_map.1 hfield
    refine ⟨classifies_ofTypeRef _ _, fun argument hargument => ?_⟩
    obtain ⟨input, -, rfl⟩ := List.mem_map.1 hargument
    exact classifies_ofTypeRef _ _
  · obtain ⟨declared, -, rfl⟩ := List.mem_map.1 hfield
    refine ⟨classifies_ofTypeRef _ _, fun argument hargument => ?_⟩
    obtain ⟨input, -, rfl⟩ := List.mem_map.1 hargument
    exact classifies_ofTypeRef _ _
  · obtain ⟨declared, -, rfl⟩ := List.mem_map.1 hfield
    exact ⟨classifies_ofTypeRef _ _, by simp [GraphField.ofInputValue]⟩
  all_goals cases hfield

/-! ### What a leaf tells -/

theorem kind?_eq_some_iff {kind : TypeKind} :
    graph.kind? name = some kind ↔ ∃ type ∈ graph.types, type.name = name ∧ type.kind = kind := by
  simp only [kind?, Option.map_eq_some_iff, find?_eq_some_iff, and_assoc]

theorem Classifies.inputObject (h : graph.Classifies position) (hleaf : position.leaf = .inputObject) :
    ∃ type ∈ graph.types, type.name = position.leafName ∧ type.kind = .inputObject :=
  kind?_eq_some_iff.1 (Leaf.classify_eq_inputObject_iff.1 (h.symm.trans hleaf))

theorem Classifies.enumeration (h : graph.Classifies position) (hleaf : position.leaf = .enumeration) :
    ∃ type ∈ graph.types, type.name = position.leafName ∧ type.kind = .enumeration :=
  kind?_eq_some_iff.1 (Leaf.classify_eq_enumeration_iff.1 (h.symm.trans hleaf))

theorem Classifies.builtin {scalar : Builtin} (h : graph.Classifies position)
    (hleaf : position.leaf = .builtin scalar) : Builtin.ofName? position.leafName = some scalar :=
  Leaf.ofName?_of_classify (h.symm.trans hleaf)

theorem Classifies.kind?_ne_enumeration (h : graph.Classifies position)
    (hleaf : position.leaf ≠ .enumeration) : graph.kind? position.leafName ≠ some .enumeration :=
  fun hkind => hleaf (h.trans (Leaf.classify_eq_enumeration_iff.2 hkind))

/-! ### Enumerations -/

theorem nodup_enumerations (graph : TypeGraph) : (Members.names graph.enumerations).Nodup := by
  have hsublist : (Members.names graph.enumerations).Sublist (graph.types.map (·.name)) := by
    rw [Members.names, enumerations, List.map_map]
    exact List.filter_sublist.map _
  exact graph.distinct.sublist hsublist

theorem get?_enumerations (htype : type ∈ graph.types) (hkind : type.kind = .enumeration) :
    Members.get? graph.enumerations type.name = some type.values := by
  refine Members.get?_of_mem graph.nodup_enumerations ?_
  exact List.mem_map.2 ⟨type, List.mem_filter.2 ⟨htype, decide_eq_true hkind⟩, rfl⟩

theorem get?_enumerations_eq_none (h : graph.kind? name ≠ some .enumeration) :
    Members.get? graph.enumerations name = none := by
  refine Members.get?_eq_none_of_notMem fun hmem => ?_
  obtain ⟨entry, hentry, hname⟩ := List.mem_map.1 hmem
  obtain ⟨type, htype, rfl⟩ := List.mem_map.1 hentry
  obtain ⟨htype, hkind⟩ := List.mem_filter.1 htype
  exact h (kind?_eq_some_iff.2 ⟨type, htype, hname, of_decide_eq_true hkind⟩)

end TypeGraph

end ArgGuard
