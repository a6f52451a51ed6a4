import ArgGuard.Json.Basic

/-!
# Drafts of JSON Schema

Drafts differ in which keywords they know and in what a keyword may hold. The differences are stated
by the draft that brought them, so drafts are ordered by their age.
-/

namespace ArgGuard.JsonSchema

/-- Where the definitions of a document stand. -/
def definitionsPath : String := "#/definitions/"

/-- What is left of a text behind another text. -/
def afterText? (start text : String) : Option String :=
  if start.toList.isPrefixOf text.toList then
    some (String.ofList (text.toList.drop start.toList.length))
  else none

/-- The drafts. -/
inductive Draft
  | draft4 | draft6 | draft7 | draft2019 | draft2020
deriving DecidableEq, Repr

namespace Draft

/-- The place of a draft in the order of publication. -/
def age : Draft → Nat
  | draft4 => 0
  | draft6 => 1
  | draft7 => 2
  | draft2019 => 3
  | draft2020 => 4

/-- Whether a draft is the given one or a later one. -/
def since (draft first : Draft) : Bool := first.age ≤ draft.age

/-- Whether a draft is the given one or an earlier one. -/
def upTo (draft last : Draft) : Bool := draft.age ≤ last.age

def name : Draft → String
  | draft4 => "draft4"
  | draft6 => "draft6"
  | draft7 => "draft7"
  | draft2019 => "draft2019-09"
  | draft2020 => "draft2020-12"

/-- All drafts, oldest first. -/
def all : List Draft := [draft4, draft6, draft7, draft2019, draft2020]

def ofName? (name : String) : Option Draft := all.find? (·.name = name)

/-- Whether formats are asserted unless the options say otherwise. -/
def assertsFormats (draft : Draft) : Bool := draft.upTo draft7

/-- Whether the keywords beside a reference are ignored. -/
def referencesStandAlone (draft : Draft) : Bool := draft.upTo draft7

end Draft

/-- The types of documents that a schema can name. An integer is a number as well. -/
inductive TypeName
  | array | boolean | integer | null | number | object | string
deriving DecidableEq, Repr

namespace TypeName

def word : TypeName → String
  | array => "array"
  | boolean => "boolean"
  | integer => "integer"
  | null => "null"
  | number => "number"
  | object => "object"
  | string => "string"

/-- All types in alphabetical order. -/
def all : List TypeName := [array, boolean, integer, null, number, object, string]

def ofWord? (word : String) : Option TypeName := all.find? (·.word = word)

end TypeName

end ArgGuard.JsonSchema
