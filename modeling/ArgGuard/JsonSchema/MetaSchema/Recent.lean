import ArgGuard.JsonSchema.MetaSchema.Terms

/-!
# Meta-schemas from 2019 on

These drafts split their keywords into vocabularies, each with a meta-schema of its own. The
meta-schema of the draft is the conjunction of them. They refer to the outermost meta-schema that
one came through, so that what a vocabulary says holds for schemas of the whole draft.
-/

namespace ArgGuard.JsonSchema.MetaSchema

/-- What the two drafts do differently in all of their meta-schemas. -/
structure Family where
  draft : Draft
  /-- The keyword and its value by which a meta-schema can be taken for the outermost one. -/
  anchor : String × Json
  /-- A reference to the outermost meta-schema. -/
  self : Json

namespace Family

def of2019 : Family :=
  { draft := .draft2019
    anchor := ("$recursiveAnchor", .bool true)
    self := .object [("$recursiveRef", .string "#")] }

def of2020 : Family :=
  { draft := .draft2020
    anchor := ("$dynamicAnchor", .string "meta")
    self := .object [("$dynamicRef", .string "#meta")] }

variable (family : Family)

/-- The address of something that belongs to a draft, beside its meta-schema. -/
def beside (path : String) : String :=
  let folder := (family.draft.address.toList.reverse.dropWhile (· != '/')).reverse
  String.ofList folder ++ path

def address (vocabulary : String) : String := family.beside ("meta/" ++ vocabulary)

/-- The names of vocabularies as a table says that they are used. -/
def used (vocabularies : List (String × Bool)) : Json :=
  .object (vocabularies.map fun (name, isRequired) =>
    (family.beside ("vocab/" ++ name), .bool isRequired))

/-- The start of a meta-schema. -/
def head (address : String) (vocabularies : List (String × Bool)) (title : String) :
    Members Json :=
  [("$schema", .string family.draft.address), ("$id", .string address),
   ("$vocabulary", family.used vocabularies), family.anchor, ("title", .string title)]

/-- The meta-schema of a vocabulary: its keywords and its common terms. -/
def vocabulary (name title : String) (keywords common : Members Json) : String × Json :=
  (family.address name,
   .object <|
    family.head (family.address name) [(name, true)] title
    ++ [("type", words ["object", "boolean"]), ("properties", .object keywords)]
    ++ (if common.isEmpty then [] else [("$defs", .object common)]))

/-- A common term of a vocabulary. -/
def localTerm (name : String) : Json := reference ("#/$defs/" ++ name)

/-- Keywords on numbers, lengths and counts, in the order that both drafts have. -/
def limitKeywords : Members Json :=
  [("multipleOf", positive)]
  ++ each ["maximum", "exclusiveMaximum", "minimum", "exclusiveMinimum"] (ofType "number")
  ++ [("maxLength", localTerm "nonNegativeInteger"),
      ("minLength", localTerm "nonNegativeIntegerDefault0"),
      ("pattern", formatted "regex"),
      ("maxItems", localTerm "nonNegativeInteger"),
      ("minItems", localTerm "nonNegativeIntegerDefault0"),
      ("uniqueItems", flag),
      ("maxContains", localTerm "nonNegativeInteger"),
      ("minContains", extended (localTerm "nonNegativeInteger") [("default", .ofInt 1)]),
      ("maxProperties", localTerm "nonNegativeInteger"),
      ("minProperties", localTerm "nonNegativeIntegerDefault0"),
      ("required", localTerm "stringArray"),
      ("dependentRequired", .object
        [("type", .string "object"), ("additionalProperties", localTerm "stringArray")])]

/-- Keywords on the values that are admitted. -/
def constKeywords : Members Json := [("const", .bool true), ("enum", listOf (.bool true))]

def validationTerms : Members Json :=
  [("nonNegativeInteger", count),
   ("nonNegativeIntegerDefault0",
    extended (localTerm "nonNegativeInteger") [("default", .ofInt 0)]),
   ("simpleTypes", simpleTypes),
   ("stringArray", stringArray)]

/-- The vocabulary of remarks. -/
def metaData : String × Json :=
  family.vocabulary "meta-data" "Meta-data vocabulary meta-schema"
    (each ["title", "description"] (ofType "string")
      ++ [("default", .bool true)]
      ++ each ["deprecated", "readOnly", "writeOnly"] flag
      ++ [("examples", listOf (.bool true))]) []

/-- A table of schemas that has no default. -/
def plainTable : Json :=
  .object [("type", .string "object"), ("additionalProperties", family.self)]

end Family

/-! ### 2019 -/

namespace Draft2019

open Family

/-- The vocabulary that everything rests on. -/
def core : String × Json :=
  of2019.vocabulary "core" "Core vocabulary meta-schema"
    ([("$id", extended (formatted "uri-reference")
        [("$comment", .string "Non-empty fragments not allowed."),
         ("pattern", .string "^[^#]*#?$")]),
      ("$schema", formatted "uri"),
      ("$anchor", extended (ofType "string")
        [("pattern", .string "^[A-Za-z][-A-Za-z0-9.:_]*$")])]
      ++ each ["$ref", "$recursiveRef"] (formatted "uri-reference")
      ++ [("$recursiveAnchor", flag),
          ("$vocabulary", .object
            [("type", .string "object"), ("propertyNames", formatted "uri"),
             ("additionalProperties", ofType "boolean")]),
          ("$comment", ofType "string"),
          ("$defs", schemaTable of2019.self)]) []

/-- The vocabulary of schemas in schemas. -/
def applicator : String × Json :=
  let self := of2019.self
  of2019.vocabulary "applicator" "Applicator vocabulary meta-schema"
    (each ["additionalItems", "unevaluatedItems"] self
      ++ [("items", .object [("anyOf", .array [self, localTerm "schemaArray"])])]
      ++ each ["contains", "additionalProperties", "unevaluatedProperties"] self
      ++ [("properties", schemaTable self),
          ("patternProperties", patternTable self),
          ("dependentSchemas", of2019.plainTable)]
      ++ each ["propertyNames", "if", "then", "else"] self
      ++ each ["allOf", "anyOf", "oneOf"] (localTerm "schemaArray")
      ++ [("not", self)])
    [("schemaArray", schemaArray self)]

/-- The vocabulary of assertions. -/
def validation : String × Json :=
  of2019.vocabulary "validation" "Validation vocabulary meta-schema"
    (limitKeywords ++ constKeywords ++ [("type", typeOrTypes (localTerm "simpleTypes"))])
    validationTerms

def format : String × Json :=
  of2019.vocabulary "format" "Format vocabulary meta-schema" [("format", ofType "string")] []

/-- The vocabulary of what texts contain. -/
def content : String × Json :=
  of2019.vocabulary "content" "Content vocabulary meta-schema"
    (each ["contentMediaType", "contentEncoding"] (ofType "string")
      ++ [("contentSchema", of2019.self)]) []

/-- The meta-schema of the draft. -/
def whole : Json :=
  .object <|
    of2019.head Draft.draft2019.address
      [("core", true), ("applicator", true), ("validation", true), ("meta-data", true),
       ("format", false), ("content", true)]
      "Core and Validation specifications meta-schema"
    ++ [("allOf", .array <|
          ["core", "applicator", "validation", "meta-data", "format", "content"].map fun name =>
            reference ("meta/" ++ name)),
        ("type", words ["object", "boolean"]),
        ("properties", .object
          [("definitions", .object
            [("$comment", .string <|
                "While no longer an official keyword as it is replaced by $defs, this keyword is "
                ++ "retained in the meta-schema to prevent incompatible extensions as it remains "
                ++ "in common use."),
             ("type", .string "object"), ("additionalProperties", of2019.self),
             ("default", .object [])]),
           ("dependencies", .object
            [("$comment", .string <|
                "\"dependencies\" is no longer a keyword, but schema authors should avoid "
                ++ "redefining it to facilitate a smooth transition to \"dependentSchemas\" and "
                ++ "\"dependentRequired\""),
             ("type", .string "object"),
             ("additionalProperties",
              schemaOrNames of2019.self (reference "meta/validation#/$defs/stringArray"))])])]

/-- All meta-schemas of the draft by address. -/
def documents : List (String × Json) :=
  [(Draft.draft2019.address, whole), core, applicator, validation, of2019.metaData, format,
   content]

end Draft2019

/-! ### 2020 -/

namespace Draft2020

open Family

/-- The vocabulary that everything rests on. -/
def core : String × Json :=
  of2020.vocabulary "core" "Core vocabulary meta-schema"
    [("$id", extended (localTerm "uriReferenceString")
        [("$comment", .string "Non-empty fragments not allowed."),
         ("pattern", .string "^[^#]*#?$")]),
     ("$schema", localTerm "uriString"),
     ("$ref", localTerm "uriReferenceString"),
     ("$anchor", localTerm "anchorString"),
     ("$dynamicRef", localTerm "uriReferenceString"),
     ("$dynamicAnchor", localTerm "anchorString"),
     ("$vocabulary", .object
        [("type", .string "object"), ("propertyNames", localTerm "uriString"),
         ("additionalProperties", ofType "boolean")]),
     ("$comment", ofType "string"),
     ("$defs", of2020.plainTable)]
    [("anchorString", extended (ofType "string")
        [("pattern", .string "^[A-Za-z_][-A-Za-z0-9._]*$")]),
     ("uriString", formatted "uri"),
     ("uriReferenceString", formatted "uri-reference")]

/-- The vocabulary of schemas in schemas. -/
def applicator : String × Json :=
  let self := of2020.self
  of2020.vocabulary "applicator" "Applicator vocabulary meta-schema"
    ([("prefixItems", localTerm "schemaArray")]
      ++ each ["items", "contains", "additionalProperties"] self
      ++ [("properties", schemaTable self),
          ("patternProperties", patternTable self),
          ("dependentSchemas", schemaTable self)]
      ++ each ["propertyNames", "if", "then", "else"] self
      ++ each ["allOf", "anyOf", "oneOf"] (localTerm "schemaArray")
      ++ [("not", self)])
    [("schemaArray", schemaArray self)]

/-- The vocabulary of what nothing else evaluates. -/
def unevaluated : String × Json :=
  of2020.vocabulary "unevaluated" "Unevaluated applicator vocabulary meta-schema"
    (each ["unevaluatedItems", "unevaluatedProperties"] of2020.self) []

/-- The vocabulary of assertions. -/
def validation : String × Json :=
  of2020.vocabulary "validation" "Validation vocabulary meta-schema"
    ([("type", typeOrTypes (localTerm "simpleTypes"))] ++ constKeywords ++ limitKeywords)
    validationTerms

def format : String × Json :=
  of2020.vocabulary "format-annotation"
    "Format vocabulary meta-schema for annotation results" [("format", ofType "string")] []

/-- The vocabulary of what texts contain. -/
def content : String × Json :=
  of2020.vocabulary "content" "Content vocabulary meta-schema"
    (each ["contentEncoding", "contentMediaType"] (ofType "string")
      ++ [("contentSchema", of2020.self)]) []

def vocabularies : List String :=
  ["core", "applicator", "unevaluated", "validation", "meta-data", "format-annotation", "content"]

/-- A keyword that another one took the place of. -/
def replaced (keyword successor target : String) : String × Json :=
  (keyword, .object
    [("$comment", .string s!"\"{keyword}\" has been replaced by \"{successor}\"."),
     ("$ref", .string ("meta/core#/$defs/" ++ target)), ("deprecated", .bool true)])

/-- The meta-schema of the draft. -/
def whole : Json :=
  .object <|
    of2020.head Draft.draft2020.address (vocabularies.map (·, true))
      "Core and Validation specifications meta-schema"
    ++ [("allOf", .array (vocabularies.map fun name => reference ("meta/" ++ name))),
        ("type", words ["object", "boolean"]),
        ("$comment", .string <|
          "This meta-schema also defines keywords that have appeared in previous drafts in order "
          ++ "to prevent incompatible extensions as they remain in common use."),
        ("properties", .object
          [("definitions", .object
            [("$comment", .string "\"definitions\" has been replaced by \"$defs\"."),
             ("type", .string "object"), ("additionalProperties", of2020.self),
             ("deprecated", .bool true), ("default", .object [])]),
           ("dependencies", .object
            [("$comment", .string <|
                "\"dependencies\" has been split and replaced by \"dependentSchemas\" and "
                ++ "\"dependentRequired\" in order to serve their differing semantics."),
             ("type", .string "object"),
             ("additionalProperties",
              schemaOrNames of2020.self (reference "meta/validation#/$defs/stringArray")),
             ("deprecated", .bool true), ("default", .object [])]),
           replaced "$recursiveAnchor" "$dynamicAnchor" "anchorString",
           replaced "$recursiveRef" "$dynamicRef" "uriReferenceString"])]

/-- All meta-schemas of the draft by address. -/
def documents : List (String × Json) :=
  [(Draft.draft2020.address, whole), core, applicator, unevaluated, validation, of2020.metaData,
   format, content]

end Draft2020

end ArgGuard.JsonSchema.MetaSchema
