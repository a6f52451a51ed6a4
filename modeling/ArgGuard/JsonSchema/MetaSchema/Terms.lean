import ArgGuard.JsonSchema.Subschema

/-!
# Terms of meta-schemas

A meta-schema is a schema for the schemas of a draft. This module has the small schemas that they
are made of. Where a meta-schema refers to itself, the way to do so differs between drafts: a term
for it is given to the terms that need one.
-/

namespace ArgGuard.JsonSchema.MetaSchema

def words (texts : List String) : Json := .array (texts.map .string)

def reference (target : String) : Json := .object [("$ref", .string target)]

def ofType (type : String) : Json := .object [("type", .string type)]

def formatted (format : String) : Json :=
  .object [("type", .string "string"), ("format", .string format)]

/-- A truth value that is false where it is missing. -/
def flag : Json := .object [("type", .string "boolean"), ("default", .bool false)]

/-- A list of anything, where `anything` is a schema that admits everything. -/
def listOf (anything : Json) : Json :=
  .object [("type", .string "array"), ("items", anything)]

/-- A list of schemas that is not empty. -/
def schemaArray (self : Json) : Json :=
  .object [("type", .string "array"), ("minItems", .ofInt 1), ("items", self)]

/-- A whole number that is not negative. -/
def count : Json := .object [("type", .string "integer"), ("minimum", .ofInt 0)]

/-- The names of types. -/
def simpleTypes : Json := .object [("enum", words (TypeName.all.map TypeName.word))]

/-- A type or several different ones. -/
def typeOrTypes (simple : Json) : Json :=
  .object
    [("anyOf", .array
      [simple,
       .object
        [("type", .string "array"), ("items", simple), ("minItems", .ofInt 1),
         ("uniqueItems", .bool true)]])]

def schemaTable (self : Json) : Json :=
  .object
    [("type", .string "object"), ("additionalProperties", self), ("default", .object [])]

def patternTable (self : Json) : Json :=
  .object
    [("type", .string "object"), ("additionalProperties", self),
     ("propertyNames", .object [("format", .string "regex")]), ("default", .object [])]

def schemaOrNames (self names : Json) : Json := .object [("anyOf", .array [self, names])]

/-- A number above zero. -/
def positive : Json := .object [("type", .string "number"), ("exclusiveMinimum", .ofInt 0)]

/-- Different texts, none where they are missing. -/
def stringArray : Json :=
  .object
    [("type", .string "array"), ("items", ofType "string"), ("uniqueItems", .bool true),
     ("default", .array [])]

def extended (term : Json) (more : Members Json) : Json :=
  match term with
  | .object members => .object (members ++ more)
  | other => other

/-- Several keywords with one term. -/
def each (keywords : List String) (term : Json) : Members Json :=
  keywords.map fun keyword => (keyword, term)

end ArgGuard.JsonSchema.MetaSchema
