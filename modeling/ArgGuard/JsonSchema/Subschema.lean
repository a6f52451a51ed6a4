import ArgGuard.JsonSchema.Draft

/-!
# Schemas inside schemas

Every draft has keywords that hold schemas: one, a list of them, or a table. A schema can have an
identifier of its own, from which the references in it start, and names by which it is referred to.
It can also say of which draft it is.
-/

namespace ArgGuard.JsonSchema

namespace Draft

/-- Where the schemas of drafts are published. -/
def addressOf (scheme path : String) : String := scheme ++ "://json-schema.org/" ++ path

/-- The address of the schema of a draft's schemas. -/
def address : Draft → String
  | draft4 => addressOf "http" "draft-04/schema"
  | draft6 => addressOf "http" "draft-06/schema"
  | draft7 => addressOf "http" "draft-07/schema"
  | draft2019 => addressOf "https" "draft/2019-09/schema"
  | draft2020 => addressOf "https" "draft/2020-12/schema"

/-- Takes the number signs off the end of a text. -/
def withoutMarks (text : List Char) : List Char := (text.reverse.dropWhile (· = '#')).reverse

def textOf? (members : Members Json) (keyword : String) : Option (List Char) :=
  ((Members.get? members keyword).bind Json.string?).map String.toList

/-- The draft of a schema inside a schema of the given draft. One that names an unknown draft is of
the last. -/
def inside (draft : Draft) (members : Members Json) : Draft :=
  match textOf? members "$schema" with
  | some text => (all.find? (·.address.toList = withoutMarks text)).getD draft2020
  | none => draft

/-! ### Identifiers and names -/

def idKeyword (draft : Draft) : String := if draft = draft4 then "id" else "$id"

/-- The identifier of a schema. Up to the seventh draft one beside a reference does not count, and
one that starts with a number sign is a name. -/
def id? (draft : Draft) (members : Members Json) : Option (List Char) :=
  let text := textOf? members draft.idKeyword
  let given :=
    if draft.referencesStandAlone then
      if Members.contains members "$ref" then none else text.filter (·.head? != some '#')
    else text
  given.map withoutMarks

/-- The names of a schema, and whether a name is one that a schema around it can take. -/
def names (draft : Draft) (members : Members Json) : List (List Char × Bool) :=
  let plain (keyword : String) (isDynamic : Bool) : List (List Char × Bool) :=
    (textOf? members keyword).toList.map fun name => (name, isDynamic)
  match draft with
  | draft4 | draft6 | draft7 =>
    match textOf? members draft.idKeyword with
    | some ('#' :: name) => [(name, false)]
    | _ => []
  | draft2019 => plain "$anchor" false
  | draft2020 => plain "$anchor" false ++ plain "$dynamicAnchor" true

/-! ### Keywords that hold schemas -/

/-- How a keyword holds schemas. -/
inductive Holder
  | one
  | oneOrList
  | list
  | table
  /-- A table that holds lists of names as well. -/
  | mixedTable
deriving DecidableEq, Repr

/-- How a keyword holds schemas in a draft, if it does. -/
def holder? (draft : Draft) (keyword : String) : Option Holder :=
  let between (first last : Draft) (holder : Holder) : Option Holder :=
    if draft.since first && draft.upTo last then some holder else none
  match keyword with
  | "not" | "additionalProperties" => some .one
  | "additionalItems" => between .draft4 .draft2019 .one
  | "contains" | "propertyNames" => between .draft6 .draft2020 .one
  | "if" | "then" | "else" => between .draft7 .draft2020 .one
  | "contentSchema" | "unevaluatedItems" | "unevaluatedProperties" =>
    between .draft2019 .draft2020 .one
  | "items" => some (if draft = .draft2020 then .one else .oneOrList)
  | "allOf" | "anyOf" | "oneOf" => some .list
  | "prefixItems" => between .draft2020 .draft2020 .list
  | "definitions" | "properties" | "patternProperties" => some .table
  | "$defs" | "dependentSchemas" => between .draft2019 .draft2020 .table
  | "dependencies" => between .draft4 .draft7 .mixedTable
  | _ => none

def Holder.schemas : Holder → Json → List Json
  | .one, value => [value]
  | .oneOrList, .array values | .list, .array values => values
  | .oneOrList, value => [value]
  | .table, .object members | .mixedTable, .object members => members.map Prod.snd
  | _, _ => []

/-- The schemas in a schema, in order. -/
def subschemas (draft : Draft) (members : Members Json) : List Json :=
  members.flatMap fun (keyword, value) =>
    match draft.holder? keyword with
    | some holder => holder.schemas value
    | none => []

/-- Whether steps from a schema lead to a schema inside it, where `isObject` says that an object
stands at the end. A keyword for one schema takes one step, a list or a table two. -/
def leadsToSchema (draft : Draft) (isObject : Bool) : List String → Bool
  | [] => true
  | [step] =>
    match draft.holder? step with
    | some .one => true
    | some .oneOrList | some .mixedTable => isObject
    | _ => false
  | step :: next :: rest =>
    match draft.holder? step with
    | some .one => leadsToSchema draft isObject (next :: rest)
    | some .list | some .table => leadsToSchema draft isObject rest
    | some .oneOrList | some .mixedTable => isObject
    | none => false

end Draft

end ArgGuard.JsonSchema
