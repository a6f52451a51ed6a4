import ArgGuard.JsonSchema.Schema

/-!
# Validation

A document is checked against a schema in three layers. `judge` goes through the terms of one schema
and hands everything that is about a part of the document to `below` and every reference to
`follow`. `linkedView` follows references, as many in a row as there are targets: a longer chain
has come back to where it was without looking at anything, and such a chain finds nothing wrong.
`judgeDeep` goes down into the document, level by level.

Beside what is wrong a schema has a second answer, the parts of the document that it evaluated. A
part is named by the step that leads to it. `evaluated` collects them; an alternative counts only if
it admits the document.
-/

namespace ArgGuard.JsonSchema

/-- What a judge finds wrong with a document that is checked against a schema. -/
abbrev Judge := Schema → Json → List Failure

/-- The schemas that references lead to. -/
abbrev LinkTable := List (Link × Schema)

/-- The two answers about a document: what is wrong, and which parts were evaluated. -/
structure View (α : Type) where
  failures : α → Json → List Failure
  evaluated : α → Json → List String

namespace View

/-- The view that finds nothing. -/
def blank {α : Type} : View α := ⟨fun _ _ => [], fun _ _ => []⟩

end View

namespace Schema

/-- The members that have a schema of their own, in the order of the schemas. -/
def judgeDeclared (below : Judge) (declared : List (String × Schema)) (members : Members Json) :
    List Failure :=
  declared.flatMap fun (name, schema) =>
    match Members.get? members name with
    | some value => (below schema value).map (.under name)
    | none => []

/-- The schemas whose pattern a name has. -/
def matching (matched : List (Pattern × Schema)) (name : String) : List Schema :=
  (matched.filter fun (pattern, _) => pattern.search name).map (·.2)

/-- The members whose names have a pattern, pattern by pattern. -/
def judgeMatched (below : Judge) (matched : List (Pattern × Schema)) (members : Members Json) :
    List Failure :=
  matched.flatMap fun (pattern, schema) =>
    (members.filter fun (name, _) => pattern.search name).flatMap fun (name, value) =>
      (below schema value).map (.under name)

/-- The schemas for a member; `none` where it is unexpected. -/
def schemasFor (declared : List (String × Schema)) (matched : List (Pattern × Schema))
    (others : Option Schema) (name : String) : Option (List Schema) :=
  match Members.get? declared name, matching matched name with
  | some schema, also => some (schema :: also)
  | none, [] => others.map ([·])
  | none, found => some found

/-- Every member in the object's order, and at the end the unexpected ones together. -/
def judgeClosed (below : Judge) (declared : List (String × Schema))
    (matched : List (Pattern × Schema)) (others : Option Schema) (members : Members Json) :
    List Failure :=
  let found := members.flatMap fun (name, value) =>
    ((schemasFor declared matched others name).getD []).flatMap fun schema =>
      (below schema value).map (.under name)
  let unexpected :=
    (Members.names members).filter fun name => (schemasFor declared matched others name).isNone
  if unexpected.isEmpty then found
  else found ++ [.here (.object members) (.unexpectedProperties unexpected)]

/-- The items from an index on, all by one schema. -/
def judgeItems (below : Judge) (schema : Schema) : Nat → List Json → List Failure
  | _, [] => []
  | index, item :: rest =>
    (below schema item).map (.under (toString index)) ++ judgeItems below schema (index + 1) rest

/-- The first items, each by its own schema. -/
def judgeTuple (below : Judge) : Nat → List Schema → List Json → List Failure
  | index, schema :: schemas, item :: rest =>
    (below schema item).map (.under (toString index)) ++ judgeTuple below (index + 1) schemas rest
  | _, _, _ => []

/-- Whether a document has nothing wrong with it. -/
def admits (judge : Judge) (schema : Schema) (value : Json) : Bool := (judge schema value).isEmpty

/-- The number of items that a schema admits is between the limits. -/
def judgeContains (below : Judge) (schema : Schema) (least : Nat) (most : Option Nat)
    (items : List Json) : List Failure :=
  let count := (items.filter (admits below schema)).length
  if least ≤ count && most.all (count ≤ ·) then []
  else [.here (.array items) .nothingContained]

/-- What is wrong with an object's names; it stands at the object. -/
def judgeNames (below : Judge) (schema : Schema) (members : Members Json) : List Failure :=
  members.flatMap fun (name, _) =>
    (below schema (.string name)).map fun failure => { failure with path := [] }

/-- The items with the steps that lead to them. -/
def stepped (items : List Json) : List (String × Json) :=
  items.zipIdx.map fun (item, index) => (toString index, item)

/-- The steps to the parts that a schema admits. -/
def admitted (below : Judge) (schema : Schema) (parts : List (String × Json)) : List String :=
  (parts.filter fun (_, value) => admits below schema value).map Prod.fst

/-- The members whose names some schemas are for, if one of the schemas admits the value. -/
def admittedBy (below : Judge) (schemas : String → List Schema) (members : Members Json) :
    List String :=
  (members.filter fun (name, value) =>
    (schemas name).any fun schema => admits below schema value).map Prod.fst

/-- What is wrong with the parts that were not evaluated. -/
def leftOver (term : Schema) (seen : List String) (value : Json) : List Failure :=
  match term, value with
  | unevaluatedProperties _, .object members =>
    let names := (Members.names members).filter fun name => !seen.contains name
    if names.isEmpty then [] else [.here value (.unevaluatedProperties names)]
  | unevaluatedItems _, .array values =>
    let found := (stepped values).filter fun (step, _) => !seen.contains step
    if found.isEmpty then [] else [.here value (.unevaluatedItems (found.map Prod.snd))]
  | _, _ => []

/-- The answers of those alternatives that admit the document. -/
def whereAdmitted (verdicts : List (List Failure)) (answers : List (List String)) : List String :=
  ((verdicts.zip answers).filter (·.1.isEmpty)).flatMap Prod.snd

mutual

/-- Goes through the terms of a schema. -/
def judge (below : Judge) (follow : View Link) : Schema → Json → List Failure
  | anything, _ | broken, _ => []
  | nothing, value => [.here value .refused]
  | all schemas, value =>
    let seen :=
      if schemas.any isLeftOver then (evaluatedEach below follow schemas value).flatten else []
    judgeTerms below follow seen schemas value
  | assertion claim, value => claim.failures value
  | properties declared, .object members => judgeDeclared below declared members
  | patterns matched, .object members => judgeMatched below matched members
  | closed declared matched others, .object members =>
    judgeClosed below declared matched others members
  | propertyNames schema, .object members => judgeNames below schema members
  | items start schema, .array values => judgeItems below schema start (values.drop start)
  | tuple schemas, .array values => judgeTuple below 0 schemas values
  | contains schema least most, .array values => judgeContains below schema least most values
  | allOf schemas, value => (judgeEach below follow schemas value).flatten
  | anyOf schemas, value =>
    if (judgeEach below follow schemas value).any List.isEmpty then []
    else [.here value (.noneOf "anyOf")]
  | oneOf schemas, value =>
    match ((judgeEach below follow schemas value).filter List.isEmpty).length with
    | 0 => [.here value (.noneOf "oneOf")]
    | 1 => []
    | _ => [.here value (.severalOf "oneOf")]
  | exclusion schema text, value =>
    if (judge below follow schema value).isEmpty then [.here value (.excluded text)] else []
  | choice test yes no, value =>
    if (judge below follow test value).isEmpty then judge below follow yes value
    else judge below follow no value
  | dependent name schema, .object members =>
    if Members.contains members name then judge below follow schema (.object members) else []
  | unseen schema, value => judge below follow schema value
  | reference link, value => follow.failures link value
  | _, _ => []

/-- What each of several schemas finds wrong. -/
def judgeEach (below : Judge) (follow : View Link) : List Schema → Json → List (List Failure)
  | [], _ => []
  | schema :: rest, value => judge below follow schema value :: judgeEach below follow rest value

/-- What the terms of one schema find wrong, when they evaluated some parts. -/
def judgeTerms (below : Judge) (follow : View Link) (seen : List String) :
    List Schema → Json → List Failure
  | [], _ => []
  | term :: rest, value =>
    (if isLeftOver term then leftOver term seen value else judge below follow term value)
      ++ judgeTerms below follow seen rest value

/-- The steps to the parts that a schema evaluates. -/
def evaluated (below : Judge) (follow : View Link) : Schema → Json → List String
  | all schemas, value => (evaluatedEach below follow schemas value).flatten
  | allOf schemas, value =>
    if (judgeEach below follow schemas value).all List.isEmpty then
      (evaluatedEach below follow schemas value).flatten
    else []
  | anyOf schemas, value =>
    whereAdmitted (judgeEach below follow schemas value) (evaluatedEach below follow schemas value)
  | oneOf schemas, value =>
    let verdicts := judgeEach below follow schemas value
    if (verdicts.filter List.isEmpty).length = 1 then
      whereAdmitted verdicts (evaluatedEach below follow schemas value)
    else []
  | choice test yes no, value =>
    if (judge below follow test value).isEmpty then
      evaluated below follow test value ++ evaluated below follow yes value
    else evaluated below follow no value
  | dependent name schema, .object members =>
    if Members.contains members name then evaluated below follow schema (.object members) else []
  | reference link, value => follow.evaluated link value
  | properties declared, .object members =>
    admittedBy below (fun name => (Members.get? declared name).toList) members
  | patterns matched, .object members => admittedBy below (matching matched) members
  | closed declared matched others, .object members =>
    admittedBy below (fun name =>
      (Members.get? declared name).toList ++ matching matched name ++ others.toList) members
  | openProperties, .object members => Members.names members
  | unevaluatedProperties schema, .object members => admitted below schema members
  | items _ _, .array values | openItems, .array values => (stepped values).map Prod.fst
  | tuple schemas, .array values => ((stepped values).take schemas.length).map Prod.fst
  | contains schema _ _, .array values | unevaluatedItems schema, .array values =>
    admitted below schema (stepped values)
  | _, _ => []

/-- The steps to the parts that each of several schemas evaluates. -/
def evaluatedEach (below : Judge) (follow : View Link) : List Schema → Json → List (List String)
  | [], _ => []
  | schema :: rest, value =>
    evaluated below follow schema value :: evaluatedEach below follow rest value

end

/-- A view of schemas, given one of the targets of references. -/
def viewBy (below : Judge) (follow : View Link) : View Schema :=
  ⟨judge below follow, evaluated below follow⟩

/-- The answer about the schema that a reference leads to, nothing where it leads nowhere. -/
def atTarget (table : LinkTable) (answer : Schema → Json → List α) (link : Link) (value : Json) :
    List α :=
  match table.lookup link with
  | some schema => answer schema value
  | none => []

/-- Follows at most so many references in a row. -/
def linkedView (below : Judge) (table : LinkTable) : Nat → View Schema
  | 0 => viewBy below .blank
  | hops + 1 => viewBy below
    { failures := atTarget table fun schema value =>
        (linkedView below table hops).failures schema value
      evaluated := atTarget table fun schema value =>
        (linkedView below table hops).evaluated schema value }

/-- Goes down at most so many levels. -/
def judgeDeep (table : LinkTable) : Nat → Judge
  | 0 => fun _ _ => []
  | depth + 1 => (linkedView (judgeDeep table depth) table table.length).failures

/-- What is wrong with a document. -/
def failures (table : LinkTable) (schema : Schema) (value : Json) : List Failure :=
  judgeDeep table value.height schema value

end Schema

end ArgGuard.JsonSchema
