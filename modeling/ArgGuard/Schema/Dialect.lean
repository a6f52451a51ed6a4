import ArgGuard.Graph.Position
import ArgGuard.JsonSchema.Draft
import ArgGuard.Override.Basic

/-!
# Dialects

A dialect is a vocabulary for fragments: how it writes a scalar, an enumeration, a list, an object
or a reference that may be `null` or not, how it names a unit, and under which key a fragment
carries its own name. There are two of them. `jsonSchema` writes the vocabulary of JSON Schema;
`native` writes the compact one, which says `kind` and `nullable` at every level.

A fragment's references are found without knowing the vocabulary: every text under the reference
key counts, however deep it stands.
-/

namespace ArgGuard

/-- The vocabularies for fragments. -/
inductive Dialect
  | jsonSchema
  | native
deriving DecidableEq, Repr

/-- `Type`, `Type.field` or `Type.field.argument`. -/
def unitName (typeName : String) (fieldName argumentName : Option String) : String :=
  ".".intercalate (typeName :: (fieldName.toList ++ argumentName.toList))

namespace Dialect

/-- The name of the unit of a type, of one of its fields, or of an argument of a field. -/
def referenceId (dialect : Dialect) (typeName : String)
    (fieldName argumentName : Option String) : String :=
  match dialect with
  | jsonSchema => JsonSchema.definitionsPath ++ unitName typeName fieldName argumentName
  | native => unitName typeName fieldName argumentName

/-- The key under which a fragment carries its own name. -/
def tagKey : Dialect → String
  | jsonSchema => "$comment"
  | native => "$id"

/-- The keys that an override may not replace where the fragment has them. -/
def identityKeys : Dialect → List String
  | jsonSchema => ["$comment", "type", "$ref", "allOf", "anyOf"]
  | native => ["$id", "kind", "ref", "nullable"]

def referenceKey : Dialect → String
  | jsonSchema => "$ref"
  | native => "ref"

/-- The keys that give a fragment a kind of value, as opposed to constraints alone. -/
def shapeKeys : Dialect → List String
  | jsonSchema => ["type", "$ref", "anyOf", "oneOf", "allOf", "enum", "const"]
  | native => ["kind", "ref", "enum"]

/-- The type of a JSON Schema, with `null` beside it where it is admitted. -/
def typeValue (name : String) (nullable : Bool) : Json :=
  if nullable then .array [.string name, .string "null"] else .string name

/-- A fragment of the native vocabulary: kind and nullability, then the rest. -/
def nativeFragment (kind : String) (nullable : Bool) (rest : Fragment) : Fragment :=
  ("kind", .string kind) :: ("nullable", .bool nullable) :: rest

def scalarName : Dialect → Builtin → String
  | jsonSchema, .int => "integer"
  | jsonSchema, .float => "number"
  | jsonSchema, .string | jsonSchema, .id => "string"
  | jsonSchema, .boolean => "boolean"
  | native, .int => "integer"
  | native, .float => "float"
  | native, .string => "string"
  | native, .boolean => "boolean"
  | native, .id => "id"

/-- A built-in scalar. -/
def primitive (dialect : Dialect) (scalar : Builtin) (nullable : Bool) : Fragment :=
  match dialect with
  | jsonSchema => [("type", typeValue (scalarName .jsonSchema scalar) nullable)]
  | native => nativeFragment (scalarName .native scalar) nullable []

def enumeration (dialect : Dialect) (values : List String) (nullable : Bool) : Fragment :=
  match dialect with
  | jsonSchema =>
    [("type", typeValue "string" nullable),
      ("enum", .array (values.map .string ++ if nullable then [.null] else []))]
  | native => nativeFragment "string" nullable [("enum", .array (values.map .string))]

/-- A reference to a unit. The unit of an input object admits `null` in JSON Schema, so a reference
that admits it needs nothing else; one that does not stands beside a type. -/
def reference (dialect : Dialect) (target : String) (nullable : Bool) : Fragment :=
  match dialect with
  | jsonSchema =>
    if nullable then [("$ref", .string target)]
    else [("type", .string "object"), ("allOf", .array [.object [("$ref", .string target)]])]
  | native =>
    [("kind", .string "ref"), ("ref", .string target), ("nullable", .bool nullable)]

/-- A list of items. -/
def array (dialect : Dialect) (items : Fragment) (nullable : Bool) : Fragment :=
  match dialect with
  | jsonSchema => [("type", typeValue "array" nullable), ("items", .object items)]
  | native => nativeFragment "array" nullable [("items", .object items)]

/-- The properties of an object as a document. -/
def propertiesValue (properties : Members Fragment) : Json :=
  .object (Members.mapValues .object properties)

/-- The names of the required properties as a document. -/
def requiredValue (required : List String) : Json :=
  .array (required.map .string)

/-- The properties of a JSON Schema and, unless it is empty, the list of the required ones, which
one draft does not admit empty. -/
def schemaMembers (properties : Members Fragment) (required : List String) : Fragment :=
  ("properties", propertiesValue properties) ::
    if required.isEmpty then [] else [("required", requiredValue required)]

/-- An object that is not `null`. -/
def object (dialect : Dialect) (properties : Members Fragment) (required : List String) :
    Fragment :=
  match dialect with
  | jsonSchema => ("type", .string "object") :: schemaMembers properties required
  | native =>
    nativeFragment "object" false
      [("properties", propertiesValue properties), ("required", requiredValue required)]

/-- The unit of an input object, which references to the type lead to. -/
def typeUnit (dialect : Dialect) (properties : Members Fragment) (required : List String) :
    Fragment :=
  match dialect with
  | jsonSchema => ("type", typeValue "object" true) :: schemaMembers properties required
  | native => object native properties required

/-- Whether a fragment says what kind of value it describes. -/
def hasShape (dialect : Dialect) (fragment : Fragment) : Bool :=
  dialect.shapeKeys.any (Members.contains fragment)

/-- Writes the fragment's own name into it. -/
def tag (dialect : Dialect) (fragment : Fragment) (id : String) : Fragment :=
  Members.set fragment dialect.tagKey (.string id)

mutual

/-- Every text under a key in a document, in order. -/
def textsUnder (key : String) : Json → List String
  | .object members => textsUnderMembers key members
  | .array items => textsUnderItems key items
  | _ => []

/-- Every text under a key in items. -/
def textsUnderItems (key : String) : List Json → List String
  | [] => []
  | item :: rest => textsUnder key item ++ textsUnderItems key rest

/-- Every text under a key in members. A member under the key that is no text is looked into. -/
def textsUnderMembers (key : String) : List (String × Json) → List String
  | [] => []
  | (name, .string text) :: rest =>
    if name = key then text :: textsUnderMembers key rest else textsUnderMembers key rest
  | (_, value) :: rest => textsUnder key value ++ textsUnderMembers key rest

end

/-- The units that a fragment refers to, in order, nested references included. -/
def references (dialect : Dialect) (fragment : Fragment) : List String :=
  textsUnderMembers dialect.referenceKey fragment

end Dialect

end ArgGuard
