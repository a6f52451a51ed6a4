import ArgGuard.Graph.Definition
import ArgGuard.Graph.Position

/-!
# Type graphs

A type graph holds every type of a schema once, in the order in which the names first appear.
`ofDefinitions` folds a document into it: the first definition of a name decides the type's kind,
and every definition of the name, the first one or an extension, adds its fields, values and
directives at the end. Positions are classified by the kinds of all definitions, so a field may
refer to a type that comes later. That names are distinct is part of the type.
-/

namespace ArgGuard

/-- The kinds of types. -/
inductive TypeKind
  | scalar | object | interface | union | enumeration | inputObject
deriving DecidableEq, Repr

namespace TypeKind

/-- The kind that a definition declares. -/
def ofBody : TypeBody → TypeKind
  | .scalar => scalar
  | .object _ => object
  | .interface _ => interface
  | .union => union
  | .enumeration _ => enumeration
  | .inputObject _ => inputObject

end TypeKind

/-- An argument of a field. -/
structure GraphArgument where
  name : String
  position : Position
  directives : List Directive

/-- A field. The fields of an input object have no arguments. -/
structure GraphField where
  name : String
  position : Position
  arguments : List GraphArgument
  directives : List Directive

/-- A named type with all that its definitions say. -/
structure GraphType where
  name : String
  kind : TypeKind
  fields : List GraphField
  directives : List Directive
  values : List String

namespace GraphField

def argument? (field : GraphField) (name : String) : Option GraphArgument :=
  field.arguments.find? (·.name = name)

end GraphField

namespace GraphType

/-- Names that begin with two underscores belong to introspection. -/
def isIntrospection (type : GraphType) : Bool :=
  "__".toList.isPrefixOf type.name.toList

def isInputObject (type : GraphType) : Bool :=
  type.kind = .inputObject

/-- Whether the fields of the type take arguments. -/
def isOutputObject (type : GraphType) : Bool :=
  type.kind = .object || type.kind = .interface

def field? (type : GraphType) (name : String) : Option GraphField :=
  type.fields.find? (·.name = name)

end GraphType

/-- What a name refers to, given the kind under which it is declared, if it is. -/
def Leaf.classify (name : String) : Option TypeKind → Leaf
  | some .inputObject => .inputObject
  | some .enumeration => .enumeration
  | some .object | some .interface | some .union => .output
  | some .scalar => ((Builtin.ofName? name).map Leaf.builtin).getD .customScalar
  | none => ((Builtin.ofName? name).map Leaf.builtin).getD .unknown

/-- The position of a type, with its leaf classified. -/
def Position.ofTypeRef (kindOf : String → Option TypeKind) : TypeRef → Position
  | .named name nonNull => .named name (Leaf.classify name (kindOf name)) nonNull
  | .list item nonNull => .list (ofTypeRef kindOf item) nonNull

namespace GraphField

/-- A field of an object or interface. -/
def ofDefinition (kindOf : String → Option TypeKind) (field : FieldDefinition) : GraphField where
  name := field.name
  position := .ofTypeRef kindOf field.type
  arguments := field.arguments.map fun argument =>
    ⟨argument.name, .ofTypeRef kindOf argument.type, argument.directives⟩
  directives := field.directives

/-- A field of an input object. -/
def ofInputValue (kindOf : String → Option TypeKind) (field : InputValue) : GraphField where
  name := field.name
  position := .ofTypeRef kindOf field.type
  arguments := []
  directives := field.directives

end GraphField

namespace TypeDefinition

def kind (definition : TypeDefinition) : TypeKind := .ofBody definition.body

def fields (kindOf : String → Option TypeKind) (definition : TypeDefinition) : List GraphField :=
  match definition.body with
  | .object fields | .interface fields => fields.map (.ofDefinition kindOf)
  | .inputObject fields => fields.map (.ofInputValue kindOf)
  | .scalar | .union | .enumeration _ => []

def values (definition : TypeDefinition) : List String :=
  match definition.body with
  | .enumeration values => values
  | _ => []

end TypeDefinition

namespace GraphType

/-- A type of which nothing is known but its kind. -/
def empty (name : String) (kind : TypeKind) : GraphType := ⟨name, kind, [], [], []⟩

/-- Adds what a definition says. -/
def extend (kindOf : String → Option TypeKind) (type : GraphType) (definition : TypeDefinition) :
    GraphType :=
  { type with
    fields := type.fields ++ definition.fields kindOf
    directives := type.directives ++ definition.directives
    values := type.values ++ definition.values }

end GraphType

/-- The types of a schema; no name stands twice. -/
structure TypeGraph where
  types : List GraphType
  distinct : (types.map (·.name)).Nodup

namespace TypeGraph

def find? (graph : TypeGraph) (name : String) : Option GraphType :=
  graph.types.find? (·.name = name)

def declaresInputObject (graph : TypeGraph) (name : String) : Bool :=
  (graph.find? name).any (·.isInputObject)

/-- The values of every enumeration, by its name. -/
def enumerations (graph : TypeGraph) : Members (List String) :=
  (graph.types.filter (·.kind = .enumeration)).map fun type => (type.name, type.values)

/-- The kind under which a name is declared first. -/
def declaredKind (definitions : List TypeDefinition) (name : String) : Option TypeKind :=
  (definitions.find? (·.name = name)).map (·.kind)

/-- Adds a definition to the type of its name, or puts a new type at the end. -/
def absorb (kindOf : String → Option TypeKind) (types : List GraphType)
    (definition : TypeDefinition) : List GraphType :=
  if definition.name ∈ types.map (·.name) then
    types.map fun type =>
      if type.name = definition.name then type.extend kindOf definition else type
  else
    types ++ [(GraphType.empty definition.name definition.kind).extend kindOf definition]

theorem names_absorb (kindOf : String → Option TypeKind) (types : List GraphType)
    (definition : TypeDefinition) :
    (absorb kindOf types definition).map (·.name) =
      if definition.name ∈ types.map (·.name) then types.map (·.name)
      else types.map (·.name) ++ [definition.name] := by
  unfold absorb
  split
  · rw [List.map_map]
    refine List.map_congr_left fun type _ => ?_
    simp only [Function.comp_apply]
    split <;> rfl
  · simp [GraphType.extend, GraphType.empty]

theorem nodup_absorb (kindOf : String → Option TypeKind) (types : List GraphType)
    (definition : TypeDefinition) (h : (types.map (·.name)).Nodup) :
    ((absorb kindOf types definition).map (·.name)).Nodup := by
  rw [names_absorb]
  split
  · exact h
  · rename_i hnew
    rw [List.nodup_append]
    exact ⟨h, by simp, fun a ha b hb => by
      rw [List.mem_singleton] at hb; rintro rfl; exact hnew (hb ▸ ha)⟩

theorem nodup_foldl_absorb (kindOf : String → Option TypeKind) (definitions : List TypeDefinition)
    (types : List GraphType) (h : (types.map (·.name)).Nodup) :
    ((definitions.foldl (absorb kindOf) types).map (·.name)).Nodup := by
  induction definitions generalizing types with
  | nil => exact h
  | cons definition rest ih => exact ih _ (nodup_absorb kindOf types definition h)

/-- Folds a document into a graph. -/
def ofDefinitions (definitions : List TypeDefinition) : TypeGraph where
  types := definitions.foldl (absorb (declaredKind definitions)) []
  distinct := nodup_foldl_absorb _ definitions [] List.nodup_nil

end TypeGraph

end ArgGuard
