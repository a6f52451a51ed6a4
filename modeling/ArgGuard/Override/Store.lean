import ArgGuard.Graph.Basic
import ArgGuard.Override.Basic

/-!
# Declaring overrides

Overrides are declared before the schema is known, in a JSON document or call by call. In the
document, what stands under a field is the fragment of an input field or an object of arguments,
and only the schema can tell which; `resolve` decides it, checks every name against the schema and
answers the first fault in the order of declaration.

A call that declares an argument first turns the field's declaration into arguments: the members
of an object become its arguments, and any other declaration is given up.
-/

namespace ArgGuard

/-- What is declared for one argument. -/
inductive DeclaredArgument
  | value (value : Json)
  | function (function : ValidationFunction)

/-- What is declared for one field. -/
inductive DeclaredField
  | value (value : Json)
  | arguments (arguments : Members DeclaredArgument)

/-- What is declared for one type. -/
structure DeclaredType where
  fragment : Option Json := none
  fields : Members DeclaredField := []

/-- Declared overrides, by type. -/
structure OverrideStore where
  types : Members DeclaredType := []

/-- What can be wrong with overrides. -/
inductive OverrideError
  | unknownType (typeName : String)
  | unknownField (typeName fieldName : String)
  | unknownArgument (typeName fieldName argumentName : String)
  | typeFragmentOnNonInputType (typeName : String)
  | argumentsOnInputField (typeName fieldName : String)
  | functionOnInputField (typeName fieldName : String)
  | notValidatable (typeName : String)
  | notAnObject (location : String) (found : Json.Kind)
deriving DecidableEq, Repr

/-- The text of an error. -/
def OverrideError.message : OverrideError → String
  | unknownType typeName => s!"Validation overrides refer to unknown type '{typeName}'"
  | unknownField typeName fieldName =>
    s!"Validation overrides refer to unknown field '{fieldName}' of type '{typeName}'"
  | unknownArgument typeName fieldName argumentName =>
    s!"Validation overrides refer to unknown argument '{argumentName}' of " ++
      s!"'{typeName}.{fieldName}'"
  | typeFragmentOnNonInputType typeName =>
    s!"Type-level validation fragment supplied for '{typeName}', which is not an input object type"
  | argumentsOnInputField typeName fieldName =>
    s!"Per-argument overrides supplied for input field '{typeName}.{fieldName}', " ++
      "which takes a single fragment"
  | functionOnInputField typeName fieldName =>
    s!"Validation function supplied for input field '{typeName}.{fieldName}'; " ++
      "functions are only allowed for arguments"
  | notValidatable typeName =>
    s!"Validation overrides supplied for '{typeName}', which has no validatable fields"
  | notAnObject location found =>
    s!"Validation override at '{location}' must be an object, found {found.phrase}"

/-- The member under which the document declares the fragment of the type itself. -/
def OverrideStore.typeFragmentKey : String := "$type"

namespace DeclaredField

def toArguments : Option DeclaredField → Members DeclaredArgument
  | some (.arguments entries) => entries
  | some (.value (.object members)) => Members.mapValues .value members
  | _ => []

end DeclaredField

namespace DeclaredType

/-- Takes one member of a type's document. -/
def declareMember (declared : DeclaredType) (member : String × Json) : DeclaredType :=
  if member.1 = OverrideStore.typeFragmentKey then { declared with fragment := some member.2 }
  else { declared with fields := Members.set declared.fields member.1 (.value member.2) }

end DeclaredType

namespace OverrideStore

/-- The members of a document that has to be an object. -/
def expectObject (location : String) : Json → Except OverrideError (Members Json)
  | .object members => .ok members
  | other => .error (.notAnObject location other.kind)

/-- The fragment that a document declares; `null` declares none. -/
def expectFragment (location : String) : Json → Except OverrideError (Option Fragment)
  | .null => .ok none
  | document => some <$> expectObject location document

/-- Whether nothing is declared. -/
def isEmpty (store : OverrideStore) : Bool := store.types.isEmpty

/-- Changes what is declared for a type. -/
def updateType (store : OverrideStore) (typeName : String) (change : DeclaredType → DeclaredType) :
    OverrideStore :=
  ⟨Members.update store.types typeName {} change⟩

/-- Declares the fragment of an input object. -/
def inputType (store : OverrideStore) (typeName : String) (fragment : Json) : OverrideStore :=
  store.updateType typeName fun declared => { declared with fragment := some fragment }

/-- Declares a field by a value. -/
def inputField (store : OverrideStore) (typeName fieldName : String) (fragment : Json) :
    OverrideStore :=
  store.updateType typeName fun declared =>
    { declared with fields := Members.set declared.fields fieldName (.value fragment) }

def declareArgument (store : OverrideStore) (coordinate : ArgumentCoordinate)
    (entry : DeclaredArgument) : OverrideStore :=
  store.updateType coordinate.typeName fun declared =>
    let arguments := DeclaredField.toArguments (Members.get? declared.fields coordinate.fieldName)
    let arguments := Members.set arguments coordinate.argumentName entry
    { declared with
      fields := Members.set declared.fields coordinate.fieldName (.arguments arguments) }

def argument (store : OverrideStore) (coordinate : ArgumentCoordinate) (fragment : Json) :
    OverrideStore :=
  store.declareArgument coordinate (.value fragment)

def argumentFunction (store : OverrideStore) (coordinate : ArgumentCoordinate)
    (function : ValidationFunction) : OverrideStore :=
  store.declareArgument coordinate (.function function)

/-- Takes one type of the document. -/
def declareType (store : OverrideStore) (entry : String × Json) :
    Except OverrideError OverrideStore := do
  let members ← expectObject entry.1 entry.2
  return store.updateType entry.1 fun declared => members.foldl DeclaredType.declareMember declared

/-- Reads a document that holds the overrides of every type under the type's name. -/
def ofJson (document : Json) : Except OverrideError OverrideStore := do
  let types ← expectObject "overrides" document
  types.foldlM declareType {}

/-- The field that a declaration is for. -/
def expectField (type : GraphType) (fieldName : String) : Except OverrideError GraphField :=
  match type.field? fieldName with
  | some field => .ok field
  | none => .error (.unknownField type.name fieldName)

def hasFunction (arguments : Members DeclaredArgument) : Bool :=
  arguments.any fun (_, entry) => match entry with
    | .function _ => true
    | .value _ => false

def resolveInputField (type : GraphType) (found : Overrides) (entry : String × DeclaredField) :
    Except OverrideError Overrides := do
  let (fieldName, declared) := entry
  let _ ← expectField type fieldName
  match declared with
  | .value value =>
    match ← expectFragment s!"{type.name}.{fieldName}" value with
    | some fragment => return found.setInputField ⟨type.name, fieldName⟩ fragment
    | none => return found
  | .arguments arguments =>
    if hasFunction arguments then .error (.functionOnInputField type.name fieldName)
    else .error (.argumentsOnInputField type.name fieldName)

/-- Resolves what is declared for an input object. -/
def resolveInputType (type : GraphType) (declared : DeclaredType) (found : Overrides) :
    Except OverrideError Overrides := do
  let found ← match declared.fragment with
    | none => pure found
    | some document => do
      match ← expectFragment s!"{type.name}.{typeFragmentKey}" document with
      | some fragment => pure (found.setType type.name fragment)
      | none => pure found
  declared.fields.foldlM (resolveInputField type) found

def resolveArgument (type : GraphType) (field : GraphField) (found : Overrides)
    (entry : String × DeclaredArgument) : Except OverrideError Overrides := do
  let (argumentName, declared) := entry
  if (field.argument? argumentName).isNone then
    .error (.unknownArgument type.name field.name argumentName)
  let coordinate : ArgumentCoordinate := ⟨type.name, field.name, argumentName⟩
  match declared with
  | .function function => return found.setArgument coordinate (.function function)
  | .value value =>
    match ← expectFragment s!"{type.name}.{field.name}.{argumentName}" value with
    | some fragment => return found.setArgument coordinate (.fragment fragment)
    | none => return found

/-- Resolves the declaration of a field that takes arguments; `null` declares nothing. -/
def resolveOutputField (type : GraphType) (found : Overrides) (entry : String × DeclaredField) :
    Except OverrideError Overrides := do
  let (fieldName, declared) := entry
  let field ← expectField type fieldName
  match declared with
  | .value .null => return found
  | .value value =>
    let members ← expectObject s!"{type.name}.{fieldName}" value
    (Members.mapValues DeclaredArgument.value members).foldlM (resolveArgument type field) found
  | .arguments arguments => arguments.foldlM (resolveArgument type field) found

/-- Resolves what is declared for an object or interface. -/
def resolveOutputType (type : GraphType) (declared : DeclaredType) (found : Overrides) :
    Except OverrideError Overrides :=
  if declared.fragment.isSome then .error (.typeFragmentOnNonInputType type.name)
  else declared.fields.foldlM (resolveOutputField type) found

def resolveType (graph : TypeGraph) (found : Overrides) (entry : String × DeclaredType) :
    Except OverrideError Overrides :=
  match graph.find? entry.1 with
  | none => .error (.unknownType entry.1)
  | some type =>
    if type.isInputObject then resolveInputType type entry.2 found
    else if type.isOutputObject then resolveOutputType type entry.2 found
    else .error (.notValidatable entry.1)

/-- Checks every declaration against a schema. -/
def resolve (store : OverrideStore) (graph : TypeGraph) : Except OverrideError Overrides :=
  store.types.foldlM (resolveType graph) Overrides.empty

end OverrideStore

end ArgGuard
