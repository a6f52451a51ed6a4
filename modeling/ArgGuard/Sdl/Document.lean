import ArgGuard.Graph.Basic
import ArgGuard.Sdl.Constant

/-!
# Schema documents

A document is one or more definitions of schemas, types and directives. Only types matter to a
graph; the other definitions are read, checked and left out. An extension has no description and
must add something, while a plain definition may stop behind its name.
-/

namespace ArgGuard.Sdl

/-- A description, which means nothing. -/
def description : Reader Unit := do
  let _ ← Reader.optional string

/-- An argument or input field. -/
def inputValue : Reader InputValue := do
  description
  let valueName ← name
  mark ":"
  let type ← typeRef
  let _ ← Reader.optional (mark "=" *> constant)
  let found ← directives
  return ⟨valueName, type, found⟩

/-- The arguments of a field or of a directive. -/
def argumentsDefinition : Reader (List InputValue) :=
  mark "(" *> Reader.many1 inputValue <* mark ")"

/-- A field of an object or interface. -/
def fieldDefinition : Reader FieldDefinition := do
  description
  let fieldName ← name
  let arguments ← Reader.optional argumentsDefinition
  mark ":"
  let type ← typeRef
  let found ← directives
  return ⟨fieldName, arguments.getD [], type, found⟩

def braced (entry : Reader α) : Reader (List α) :=
  mark "\x7b" *> Reader.many1 entry <* mark "\x7d"

/-- The interfaces that a type names. -/
def implementsInterfaces : Reader Unit := do
  mark "implements"
  let _ ← Reader.optional (mark "&")
  let _ ← Reader.sepBy1 name (mark "&")

def unionMembers : Reader Unit := do
  mark "="
  let _ ← Reader.optional (mark "|")
  let _ ← Reader.sepBy1 name (mark "|")

def enumerationValues : Reader (List String) := braced do
  description
  let value ← enumerationValue
  let _ ← directives
  return value

/-- The keyword of a definition with the name behind it: plain ones may have a description. -/
def headed (extending : Bool) (keyword : String) : Reader String := do
  if extending then mark "extend" else description
  mark keyword
  name

/-- What follows the name: directives and a body. A plain definition may lack both, an extension
only one of them. -/
def directivesAndBody (extending : Bool) (absent : α) (body : Reader α) :
    Reader (List Directive × α) := do
  let found ← Reader.optional directives1
  let rest ← Reader.optional body
  if extending && found.isNone && rest.isNone then Reader.fail
  return (found.getD [], rest.getD absent)

def scalarType (extending : Bool) : Reader TypeDefinition := do
  let typeName ← headed extending "scalar"
  let found ← if extending then directives1 else directives
  return ⟨typeName, found, .scalar⟩

/-- An object; naming an interface is enough for an extension. -/
def objectType (extending : Bool) : Reader TypeDefinition := do
  let typeName ← headed extending "type"
  let interfaces ← Reader.optional implementsInterfaces
  let (found, fields) ←
    directivesAndBody (extending && interfaces.isNone) [] (braced fieldDefinition)
  return ⟨typeName, found, .object fields⟩

def interfaceType (extending : Bool) : Reader TypeDefinition := do
  let typeName ← headed extending "interface"
  let _ ← Reader.optional implementsInterfaces
  let (found, fields) ← directivesAndBody extending [] (braced fieldDefinition)
  return ⟨typeName, found, .interface fields⟩

def unionType (extending : Bool) : Reader TypeDefinition := do
  let typeName ← headed extending "union"
  let (found, _) ← directivesAndBody extending () unionMembers
  return ⟨typeName, found, .union⟩

def enumerationType (extending : Bool) : Reader TypeDefinition := do
  let typeName ← headed extending "enum"
  let (found, values) ← directivesAndBody extending [] enumerationValues
  return ⟨typeName, found, .enumeration values⟩

def inputObjectType (extending : Bool) : Reader TypeDefinition := do
  let typeName ← headed extending "input"
  let (found, fields) ← directivesAndBody extending [] (braced inputValue)
  return ⟨typeName, found, .inputObject fields⟩

/-- A type of any kind, plain or extended. -/
def typeDefinition : Reader TypeDefinition :=
  let kinds : List (Bool → Reader TypeDefinition) :=
    [scalarType, objectType, interfaceType, unionType, enumerationType, inputObjectType]
  Reader.firstOf (kinds.flatMap fun kind => [kind false, kind true])

/-- An operation with the name of its root type. -/
def rootOperation : Reader String := do
  let operation ← word (Reader.firstOf
    (["query", "mutation", "subscription"].map fun text => Reader.literal text *> pure text))
  mark ":"
  let _ ← name
  return operation

/-- A schema: no operation has two roots, and a plain schema has a query root. -/
def schemaDefinition : Reader Unit := do
  let extending ← Reader.optional (mark "extend")
  mark "schema"
  let (_, roots) ← directivesAndBody extending.isSome [] (braced rootOperation)
  if !roots.Nodup then Reader.fail
  if extending.isNone && !roots.contains "query" then Reader.fail

/-- The places where a directive may stand. A word is found before any other word that begins
with it. -/
def directiveLocations : List String :=
  ["QUERY", "MUTATION", "SUBSCRIPTION", "FIELD_DEFINITION", "FIELD", "FRAGMENT_DEFINITION",
   "FRAGMENT_SPREAD", "INLINE_FRAGMENT", "SCHEMA", "SCALAR", "OBJECT", "ARGUMENT_DEFINITION",
   "INTERFACE", "UNION", "ENUM_VALUE", "ENUM", "INPUT_OBJECT", "INPUT_FIELD_DEFINITION",
   "VARIABLE_DEFINITION"]

def directiveDefinition : Reader Unit := do
  description
  mark "directive"
  mark "@"
  let _ ← name
  let _ ← Reader.optional argumentsDefinition
  let _ ← Reader.optional (mark "repeatable")
  mark "on"
  let _ ← Reader.optional (mark "|")
  let location := word (Reader.firstOf (directiveLocations.map Reader.literal))
  let _ ← Reader.sepBy1 location (mark "|")

/-- One definition; only a type leaves something behind. -/
def definition : Reader (Option TypeDefinition) :=
  (schemaDefinition *> pure none) <|> (some <$> typeDefinition) <|>
    (directiveDefinition *> pure none)

/-- Reads a document. -/
def parse (text : String) : Option (List TypeDefinition) :=
  (Reader.parseAll (Reader.many1 definition <* skip) text).map (·.filterMap id)

end ArgGuard.Sdl

namespace ArgGuard.TypeGraph

/-- The graph of a schema document. -/
def parse (text : String) : Option TypeGraph :=
  (Sdl.parse text).map ofDefinitions

end ArgGuard.TypeGraph
