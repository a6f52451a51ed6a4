import ArgGuard.Proofs.Graph.Classification
import ArgGuard.Proofs.Schema.Bare

/-!
# Leaves and their fragments

What a leaf refers to is decided when the graph is built, from the kinds of all definitions. Its fragment
is decided later and from its name alone: built-in scalars come first, then the enumerations of the graph.
`Renders` says what the classification asks for, an array for every list and at the leaf a primitive, the
values of an enumeration, a reference to an input object, or nothing. The two agree
(`synthesize_renders_iff`) unless an enumeration or an output type bears the name of a built-in scalar: such
a leaf is rendered as the scalar.
-/

namespace ArgGuard

variable {graph : TypeGraph} {dialect : Dialect} {type : GraphType} {position : Position}
  {fragment : Fragment} {name : String}

namespace TypeGraph

/-- A type at which the graph takes a value: the type of an argument, or of a field of an input object. -/
inductive TakesAt (graph : TypeGraph) : Position → Prop
  | argument {type : GraphType} {field : GraphField} {argument : GraphArgument}
      (htype : type ∈ graph.types) (hfield : field ∈ type.fields)
      (hargument : argument ∈ field.arguments) : TakesAt graph argument.position
  | inputField {type : GraphType} {field : GraphField} (htype : type ∈ graph.types)
      (hinput : type.kind = .inputObject) (hfield : field ∈ type.fields) : TakesAt graph field.position

/-- The fragment that the classification of the leaf asks for: at every level of lists an array with the
nullability of the level, and within them the fragment of the leaf. -/
inductive Renders (graph : TypeGraph) (dialect : Dialect) : Position → Fragment → Prop
  | builtin {name : String} {scalar : Builtin} {nonNull : Bool} :
      Renders graph dialect (.named name (.builtin scalar) nonNull) (dialect.primitive scalar (!nonNull))
  | enumeration {type : GraphType} {nonNull : Bool} (htype : type ∈ graph.types)
      (hkind : type.kind = .enumeration) :
      Renders graph dialect (.named type.name .enumeration nonNull)
        (dialect.enumeration type.values (!nonNull))
  | inputObject {type : GraphType} {nonNull : Bool} (htype : type ∈ graph.types)
      (hkind : type.kind = .inputObject) :
      Renders graph dialect (.named type.name .inputObject nonNull)
        (dialect.reference (dialect.referenceId type.name none none) (!nonNull))
  | unshaped {name : String} {leaf : Leaf} {nonNull : Bool}
      (hleaf : leaf = .customScalar ∨ leaf = .output ∨ leaf = .unknown) :
      Renders graph dialect (.named name leaf nonNull) []
  | list {item : Position} {nonNull : Bool} {inner : Fragment} (hinner : Renders graph dialect item inner) :
      Renders graph dialect (.list item nonNull) (dialect.array inner (!nonNull))

end TypeGraph

namespace Position

/-- The built-in scalar of whose name an enumeration or an output type is. -/
def namesake? (position : Position) : Option Builtin :=
  match position.leaf with
  | .enumeration | .output => Builtin.ofName? position.leafName
  | .builtin _ | .customScalar | .inputObject | .unknown => none

def withLeaf (leaf : Leaf) : Position → Position
  | named name _ nonNull => named name leaf nonNull
  | list item nonNull => list (item.withLeaf leaf) nonNull

end Position

/-! ### The fragment of a leaf -/

namespace Inference

theorem standard_eq_nil (hbuiltin : Builtin.ofName? name = none)
    (hkind : graph.kind? name ≠ some .enumeration) (nonNull : Bool) :
    (⟨dialect, none, graph.enumerations⟩ : Inference).standard name nonNull = [] := by
  rw [standard, hbuiltin]
  dsimp only
  rw [TypeGraph.get?_enumerations_eq_none hkind]

theorem bareFragment_renders (hclassifies : graph.Classifies position)
    (hnamesake : position.namesake? = none) :
    graph.Renders dialect position
      ((⟨dialect, none, graph.enumerations⟩ : Inference).bareFragment position) := by
  induction position with
  | list item nonNull ih => exact .list (ih hclassifies hnamesake)
  | named name leaf nonNull =>
    -- the fragment comes from the name, so for each leaf the classification has to say what the name is
    have hnothing : Builtin.ofName? name = none → leaf ≠ .enumeration →
        leaf = .customScalar ∨ leaf = .output ∨ leaf = .unknown →
        graph.Renders dialect (.named name leaf nonNull)
          ((⟨dialect, none, graph.enumerations⟩ : Inference).standard name nonNull) := by
      intro hname henumeration hleaf
      rw [standard_eq_nil hname (hclassifies.kind?_ne_enumeration henumeration)]
      exact .unshaped hleaf
    cases leaf with
    | builtin scalar =>
      have hname : Builtin.ofName? name = some scalar := hclassifies.builtin rfl
      show graph.Renders dialect _ (standard _ name nonNull)
      rw [standard, hname]
      exact .builtin
    | enumeration =>
      have hname : Builtin.ofName? name = none := hnamesake
      obtain ⟨type, htype, rfl, hkind⟩ := hclassifies.enumeration rfl
      show graph.Renders dialect _ (standard _ type.name nonNull)
      rw [standard, hname, TypeGraph.get?_enumerations htype hkind]
      exact .enumeration htype hkind
    | inputObject =>
      obtain ⟨type, htype, rfl, hkind⟩ := hclassifies.inputObject rfl
      exact .inputObject htype hkind
    | output => exact hnothing hnamesake (by simp) (by simp)
    | customScalar =>
      exact hnothing (Leaf.ofName?_eq_none_of_classify (.inl hclassifies.symm)) (by simp) (by simp)
    | unknown =>
      exact hnothing (Leaf.ofName?_eq_none_of_classify (.inr hclassifies.symm)) (by simp) (by simp)

theorem bareFragment_renders_namesake {scalar : Builtin} (hnamesake : position.namesake? = some scalar) :
    graph.Renders dialect (position.withLeaf (.builtin scalar))
      ((⟨dialect, none, graph.enumerations⟩ : Inference).bareFragment position) := by
  induction position with
  | list item nonNull ih => exact .list (ih hnamesake)
  | named name leaf nonNull =>
    have hscalar : Builtin.ofName? name = some scalar →
        graph.Renders dialect (.named name (.builtin scalar) nonNull)
          ((⟨dialect, none, graph.enumerations⟩ : Inference).standard name nonNull) := by
      intro hname
      rw [standard, hname]
      exact .builtin
    cases leaf with
    | enumeration | output => exact hscalar hnamesake
    | builtin | customScalar | inputObject | unknown => cases hnamesake

end Inference

/-! ### Fragments tell leaves apart -/

namespace Dialect

theorem array_inj {items others : Fragment} {nullable : Bool}
    (h : dialect.array items nullable = dialect.array others nullable) : items = others := by
  cases dialect <;> simpa [array, nativeFragment] using h

theorem primitive_ne_nil (scalar : Builtin) (nullable : Bool) : dialect.primitive scalar nullable ≠ [] := by
  cases dialect <;> simp [primitive, nativeFragment]

theorem primitive_ne_enumeration (scalar : Builtin) (values : List String) (nullable : Bool) :
    dialect.primitive scalar nullable ≠ dialect.enumeration values nullable := by
  cases dialect <;> simp [primitive, enumeration, nativeFragment]

end Dialect

namespace TypeGraph

theorem renders_list_iff {item : Position} {nonNull : Bool} :
    graph.Renders dialect (.list item nonNull) fragment ↔
      ∃ inner, graph.Renders dialect item inner ∧ fragment = dialect.array inner (!nonNull) := by
  constructor
  · rintro (_ | _ | _ | _ | hinner)
    exact ⟨_, hinner, rfl⟩
  · rintro ⟨inner, hinner, rfl⟩
    exact .list hinner

theorem Renders.eq_enumeration {nonNull : Bool}
    (h : graph.Renders dialect (.named name .enumeration nonNull) fragment) :
    ∃ values, fragment = dialect.enumeration values (!nonNull) := by
  cases h with
  | enumeration => exact ⟨_, rfl⟩
  | unshaped hleaf => simp at hleaf

theorem Renders.eq_nil {nonNull : Bool} (h : graph.Renders dialect (.named name .output nonNull) fragment) :
    fragment = [] := by
  cases h
  rfl

theorem not_renders_namesake {scalar : Builtin} (hnamesake : position.namesake? = some scalar)
    (hscalar : graph.Renders dialect (position.withLeaf (.builtin scalar)) fragment) :
    ¬graph.Renders dialect position fragment := by
  induction position generalizing fragment with
  | list item nonNull ih =>
    intro hlist
    obtain ⟨inner, hinner, rfl⟩ := renders_list_iff.1 hscalar
    obtain ⟨other, hother, heq⟩ := renders_list_iff.1 hlist
    rw [Dialect.array_inj heq] at hinner
    exact ih hnamesake hinner hother
  | named name leaf nonNull =>
    have hfragment : fragment = dialect.primitive scalar (!nonNull) := by
      cases hscalar with
      | builtin => rfl
      | unshaped hleaf => simp at hleaf
    intro hrenders
    cases leaf with
    | enumeration =>
      obtain ⟨values, hvalues⟩ := hrenders.eq_enumeration
      exact Dialect.primitive_ne_enumeration scalar values _ (hfragment.symm.trans hvalues)
    | output => exact Dialect.primitive_ne_nil scalar _ (hfragment.symm.trans hrenders.eq_nil)
    | builtin | customScalar | inputObject | unknown => cases hnamesake

theorem Classified.takesAt (h : graph.Classified) (hposition : graph.TakesAt position) :
    graph.Classifies position := by
  cases hposition with
  | argument htype hfield hargument => exact (h _ htype _ hfield).2 _ hargument
  | inputField htype _ hfield => exact (h _ htype _ hfield).1

end TypeGraph

/-- Without an override and a hook, `synthesize` gives every type at which the graph of a document takes a
value the fragment that its leaf asks for (`Renders`), if and only if the leaf is no `namesake?` of a
built-in scalar. Such a leaf has the fragment of the scalar. -/
theorem Inference.synthesize_renders_iff (definitions : List TypeDefinition) (dialect : Dialect)
    {position : Position} (hposition : (TypeGraph.ofDefinitions definitions).TakesAt position) (id : String) :
    ∃ fragment, (⟨dialect, none, (TypeGraph.ofDefinitions definitions).enumerations⟩ :
        Inference).synthesize position none id = dialect.tag fragment id ∧
      ((TypeGraph.ofDefinitions definitions).Renders dialect position fragment ↔
        position.namesake? = none) ∧
      ∀ scalar, position.namesake? = some scalar → (TypeGraph.ofDefinitions definitions).Renders dialect
        (position.withLeaf (.builtin scalar)) fragment := by
  have hclassifies := (TypeGraph.ofDefinitions_classified definitions).takesAt hposition
  refine ⟨_, synthesize_none id, ⟨fun hrenders => ?_, bareFragment_renders hclassifies⟩,
    fun scalar hscalar => bareFragment_renders_namesake hscalar⟩
  rw [Option.eq_none_iff_forall_not_mem]
  intro scalar hscalar
  exact TypeGraph.not_renders_namesake hscalar (bareFragment_renders_namesake hscalar) hrenders

/-! ### A library catalogue -/

/-- A document whose enumeration is extended, and whose query is declared before the types it takes. -/
def shelvesDocument : List TypeDefinition :=
  [⟨"Query", [], .object
      [⟨"shelves", [⟨"filters", .list (.list (.named "ShelfFilter" true) false) true, []⟩],
        .named "Int" false, []⟩]⟩,
    ⟨"ShelfFilter", [], .inputObject [⟨"genres", .list (.named "Genre" true) false, []⟩]⟩,
    ⟨"Genre", [], .enumeration ["NOVEL"]⟩,
    ⟨"Genre", [], .enumeration ["ESSAY"]⟩]

theorem Inference.synthesize_renders_iff_shelves :
    (TypeGraph.ofDefinitions shelvesDocument).TakesAt (.list (.named "Genre" .enumeration true) false) ∧
      ∃ fragment, (⟨.native, none, (TypeGraph.ofDefinitions shelvesDocument).enumerations⟩ :
          Inference).synthesize (.list (.named "Genre" .enumeration true) false) none "ShelfFilter.genres" =
            Dialect.native.tag fragment "ShelfFilter.genres" ∧
        (TypeGraph.ofDefinitions shelvesDocument).Renders .native
          (.list (.named "Genre" .enumeration true) false) fragment := by
  have hgenres : (TypeGraph.ofDefinitions shelvesDocument).TakesAt
      (.list (.named "Genre" .enumeration true) false) :=
    .inputField (List.getElem_mem (l := (TypeGraph.ofDefinitions shelvesDocument).types) (n := 1) (by decide))
      rfl (List.getElem_mem (n := 0) (by decide))
  obtain ⟨fragment, hfragment, hrenders, -⟩ :=
    synthesize_renders_iff shelvesDocument .native hgenres "ShelfFilter.genres"
  exact ⟨hgenres, fragment, hfragment, hrenders.2 (by decide)⟩

def namesakeDocument : List TypeDefinition :=
  [⟨"ID", [], .enumeration ["ISBN", "ISSN"]⟩,
    ⟨"Query", [], .object [⟨"book", [⟨"kind", .named "ID" true, []⟩], .named "Int" false, []⟩]⟩]

/-- An argument of this enumeration is classified as an enumeration and has the fragment of an `ID`, which
admits any text. -/
theorem Inference.synthesize_namesake_not_rendered :
    (TypeGraph.ofDefinitions namesakeDocument).TakesAt (.named "ID" .enumeration true) ∧
      ∀ fragment, (TypeGraph.ofDefinitions namesakeDocument).Renders .native (.named "ID" .enumeration true)
          fragment →
        (⟨.native, none, (TypeGraph.ofDefinitions namesakeDocument).enumerations⟩ : Inference).synthesize
          (.named "ID" .enumeration true) none "Query.book.kind" ≠
            Dialect.native.tag fragment "Query.book.kind" := by
  refine ⟨.argument (List.getElem_mem (l := (TypeGraph.ofDefinitions namesakeDocument).types) (n := 1)
    (by decide)) (List.getElem_mem (n := 0) (by decide)) (List.getElem_mem (n := 0) (by decide)), ?_⟩
  intro fragment hrenders heq
  obtain ⟨values, rfl⟩ := hrenders.eq_enumeration
  have habsent : Members.contains ((⟨.native, none, (TypeGraph.ofDefinitions namesakeDocument).enumerations⟩ :
      Inference).synthesize (.named "ID" .enumeration true) none "Query.book.kind") "enum" = false := by decide
  have hpresent : Members.contains
      (Dialect.native.tag (Dialect.native.enumeration values false) "Query.book.kind") "enum" = true := rfl
  rw [heq] at habsent
  exact Bool.false_ne_true (habsent.symm.trans hpresent)

end ArgGuard
