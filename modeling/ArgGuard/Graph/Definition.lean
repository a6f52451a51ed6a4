import ArgGuard.Json.Basic

/-!
# Type definitions

What a schema document holds once it is read: a list of definitions, in the order in which they
stand, extensions among them. Constants of the schema language are kept as JSON documents, an
enumeration value as a string.
-/

namespace ArgGuard

/-- A type as the schema language writes it. -/
inductive TypeRef
  | named (name : String) (nonNull : Bool)
  | list (item : TypeRef) (nonNull : Bool)
deriving DecidableEq, Repr

/-- A directive with its arguments in the order in which they are written. -/
structure Directive where
  name : String
  arguments : List (String × Json)

/-- An argument of a field, or a field of an input object. -/
structure InputValue where
  name : String
  type : TypeRef
  directives : List Directive

/-- A field of an object or interface. -/
structure FieldDefinition where
  name : String
  arguments : List InputValue
  type : TypeRef
  directives : List Directive

/-- What a definition says about its type, beside the directives. -/
inductive TypeBody
  | scalar
  | object (fields : List FieldDefinition)
  | interface (fields : List FieldDefinition)
  | union
  | enumeration (values : List String)
  | inputObject (fields : List InputValue)

/-- A definition of a type, or an extension of one. -/
structure TypeDefinition where
  name : String
  directives : List Directive
  body : TypeBody

end ArgGuard
