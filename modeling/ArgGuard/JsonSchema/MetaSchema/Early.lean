import ArgGuard.JsonSchema.MetaSchema.Terms

/-!
# Meta-schemas up to the seventh draft

Each of these drafts has one meta-schema, which refers to itself as a whole and keeps its common
terms under `definitions`.
-/

namespace ArgGuard.JsonSchema.MetaSchema

def self : Json := reference "#"

/-- A common term. -/
def definition (name : String) : Json := reference ("#/definitions/" ++ name)

/-- A number that is zero where it is missing. -/
def withDefaultZero (name : String) : Json :=
  .object [("allOf", .array [definition name, .object [("default", .ofInt 0)]])]

/-- A schema or a list of them. -/
def selfOrArray (default : Json) : Json :=
  .object [("anyOf", .array [self, definition "schemaArray"]), ("default", default)]

/-- A table of schemas and lists of names. -/
def dependencyTable : Json :=
  .object
    [("type", .string "object"),
     ("additionalProperties", schemaOrNames self (definition "stringArray"))]

/-- A schema or a truth value. -/
def selfOrFlag : Json :=
  .object [("anyOf", .array [ofType "boolean", self]), ("default", .object [])]

/-- The address of a meta-schema as it is written in it. -/
def ownAddress (draft : Draft) : Json := .string (draft.address ++ "#")

def draft4 : Json :=
  .object
    [("id", ownAddress .draft4),
     ("$schema", ownAddress .draft4),
     ("description", .string "Core schema meta-schema"),
     ("definitions", .object
      [("schemaArray", schemaArray self),
       ("positiveInteger", count),
       ("positiveIntegerDefault0", withDefaultZero "positiveInteger"),
       ("simpleTypes", simpleTypes),
       ("stringArray", .object
        [("type", .string "array"), ("items", ofType "string"), ("minItems", .ofInt 1),
         ("uniqueItems", .bool true)])]),
     ("type", .string "object"),
     ("properties", .object <|
      each ["id", "$schema", "title", "description"] (ofType "string") ++
      [("default", .object []),
       ("multipleOf", .object
        [("type", .string "number"), ("minimum", .ofInt 0), ("exclusiveMinimum", .bool true)]),
       ("maximum", ofType "number"),
       ("exclusiveMaximum", ofType "boolean"),
       ("minimum", ofType "number"),
       ("exclusiveMinimum", ofType "boolean"),
       ("maxLength", definition "positiveInteger"),
       ("minLength", definition "positiveIntegerDefault0"),
       ("pattern", formatted "regex"),
       ("additionalItems", selfOrFlag),
       ("items", selfOrArray (.object [])),
       ("maxItems", definition "positiveInteger"),
       ("minItems", definition "positiveIntegerDefault0"),
       ("uniqueItems", flag),
       ("maxProperties", definition "positiveInteger"),
       ("minProperties", definition "positiveIntegerDefault0"),
       ("required", definition "stringArray"),
       ("additionalProperties", selfOrFlag)] ++
      each ["definitions", "properties", "patternProperties"] (schemaTable self) ++
      [("dependencies", dependencyTable),
       ("enum", ofType "array"),
       ("type", typeOrTypes (definition "simpleTypes")),
       ("format", ofType "string")] ++
      each ["allOf", "anyOf", "oneOf"] (definition "schemaArray") ++
      [("not", self)]),
     ("dependencies", .object
      [("exclusiveMaximum", words ["maximum"]), ("exclusiveMinimum", words ["minimum"])]),
     ("default", .object [])]

/-- The common terms of the sixth and the seventh draft. -/
def laterDefinitions : Json :=
  .object
    [("schemaArray", schemaArray self),
     ("nonNegativeInteger", count),
     ("nonNegativeIntegerDefault0", withDefaultZero "nonNegativeInteger"),
     ("simpleTypes", simpleTypes),
     ("stringArray", stringArray)]

/-- Keywords on numbers, the length of texts and patterns. -/
def valueKeywords : Members Json :=
  [("multipleOf", positive),
   ("maximum", ofType "number"),
   ("exclusiveMaximum", ofType "number"),
   ("minimum", ofType "number"),
   ("exclusiveMinimum", ofType "number"),
   ("maxLength", definition "nonNegativeInteger"),
   ("minLength", definition "nonNegativeIntegerDefault0"),
   ("pattern", formatted "regex")]

/-- Keywords on items and properties, up to the tables of schemas. -/
def containerKeywords (anything : Json) : Members Json :=
  [("additionalItems", self),
   ("items", selfOrArray anything),
   ("maxItems", definition "nonNegativeInteger"),
   ("minItems", definition "nonNegativeIntegerDefault0"),
   ("uniqueItems", flag),
   ("contains", self),
   ("maxProperties", definition "nonNegativeInteger"),
   ("minProperties", definition "nonNegativeIntegerDefault0"),
   ("required", definition "stringArray"),
   ("additionalProperties", self),
   ("definitions", schemaTable self),
   ("properties", schemaTable self)]

def draft6 : Json :=
  .object
    [("$schema", ownAddress .draft6),
     ("$id", ownAddress .draft6),
     ("title", .string "Core schema meta-schema"),
     ("definitions", laterDefinitions),
     ("type", words ["object", "boolean"]),
     ("properties", .object <|
      [("$id", formatted "uri-reference"),
       ("$schema", formatted "uri"),
       ("$ref", formatted "uri-reference"),
       ("title", ofType "string"),
       ("description", ofType "string"),
       ("default", .object []),
       ("examples", listOf (.object []))] ++ valueKeywords ++ containerKeywords (.object []) ++
      [("patternProperties", schemaTable self),
       ("dependencies", dependencyTable),
       ("propertyNames", self),
       ("const", .object []),
       ("enum", ofType "array"),
       ("type", typeOrTypes (definition "simpleTypes")),
       ("format", ofType "string")] ++
      each ["allOf", "anyOf", "oneOf"] (definition "schemaArray") ++
      [("not", self)]),
     ("default", .object [])]

def draft7 : Json :=
  .object
    [("$schema", ownAddress .draft7),
     ("$id", ownAddress .draft7),
     ("title", .string "Core schema meta-schema"),
     ("definitions", laterDefinitions),
     ("type", words ["object", "boolean"]),
     ("properties", .object <|
      [("$id", formatted "uri-reference"),
       ("$schema", formatted "uri"),
       ("$ref", formatted "uri-reference"),
       ("$comment", ofType "string"),
       ("title", ofType "string"),
       ("description", ofType "string"),
       ("default", .bool true),
       ("readOnly", flag),
       ("writeOnly", flag),
       ("examples", listOf (.bool true))] ++ valueKeywords ++ containerKeywords (.bool true) ++
      [("patternProperties", patternTable self),
       ("dependencies", dependencyTable),
       ("propertyNames", self),
       ("const", .bool true),
       ("enum", listOf (.bool true)),
       ("type", typeOrTypes (definition "simpleTypes"))] ++
      each ["format", "contentMediaType", "contentEncoding"] (ofType "string") ++
      each ["if", "then", "else"] self ++
      each ["allOf", "anyOf", "oneOf"] (definition "schemaArray") ++
      [("not", self)]),
     ("default", .bool true)]

end ArgGuard.JsonSchema.MetaSchema
