import ArgGuard.JsonSchema.Format
import ArgGuard.JsonSchema.Value

/-!
# Well-formed schemas

Every draft says of every keyword it knows what may stand under it: a plain value of some form, a
schema, or lists and tables of schemas. `Draft.rule` is that table, and a document is well formed if
each of its keywords follows its rule, at every depth. A keyword that the draft does not know may
hold anything.

From 2019 on the forms `regex` and `uri` are not asserted, so a bad pattern is well formed there.
-/

namespace ArgGuard.JsonSchema

/-- The form of a plain value. -/
inductive PlainForm
  | text
  | identifier
  | identifierReference
  | regex
  /-- An identifier of a schema: nothing stands behind a number sign. -/
  | schemaId
  /-- The name of an anchor; the last draft admits an underscore in front. -/
  | anchorName (underscored : Bool)
  | flag
  | number
  | positive
  /-- A whole number that is not negative; `wide` admits doubles. -/
  | count (wide : Bool)
  | names (nonEmpty : Bool)
  | nameTable
  | flagTable
  | types
  | list
deriving DecidableEq, Repr

/-- What may stand under a keyword. -/
inductive KeywordRule
  | anything
  | plain (form : PlainForm)
  | schema
  | schemaOrFlag
  | schemaOrList
  | schemaList
  | schemaTable
  /-- Schemas under patterns, which are checked as such. -/
  | patternTable
  /-- Under every name a schema or a list of names. -/
  | dependencyTable
deriving DecidableEq, Repr

namespace PlainForm

def texts? (value : Json) : Option (List String) := value.array?.bind (·.mapM Json.string?)

/-- Whether no text stands twice. -/
def areDistinct : List String → Bool
  | [] => true
  | first :: rest => !rest.contains first && areDistinct rest

/-- A list of different texts. -/
def areNames (nonEmpty : Bool) (value : Json) : Bool :=
  (texts? value).any fun found => areDistinct found && !(nonEmpty && found.isEmpty)

/-- One type, or a list of different types that is not empty. -/
def areTypes (value : Json) : Bool :=
  match value with
  | .string word => (TypeName.ofWord? word).isSome
  | _ =>
    (texts? value).any fun words =>
      !words.isEmpty && areDistinct words && words.all fun word => (TypeName.ofWord? word).isSome

def isAnchorChar (c : Char) (underscored : Bool) : Bool :=
  c.isAlphanum || c = '-' || c = '_' || c = '.' || (c = ':' && !underscored)

/-- Whether a text is the name of an anchor. -/
def isAnchor (underscored : Bool) (text : List Char) : Bool :=
  match text with
  | [] => false
  | c :: rest => (c.isAlpha || (underscored && c = '_')) && rest.all (isAnchorChar · underscored)

def holds (form : PlainForm) (value : Json) : Bool :=
  match form with
  | text => value.string?.isSome
  | identifier => value.string?.any (Format.uri.holds ·)
  | identifierReference => value.string?.any (Format.uriReference.holds ·)
  | regex => value.string?.any (Format.regex.holds ·)
  | schemaId =>
    value.string?.any fun text => ((text.toList.dropWhile (· != '#')).drop 1).isEmpty
  | anchorName underscored => value.string?.any fun text => isAnchor underscored text.toList
  | flag => value.bool?.isSome
  | number => value.number?.isSome
  | positive => value.number?.any fun n => n.compareValue (.integer 0) == .gt
  | count wide =>
    value.number?.any fun n => n.count?.isSome && TypeName.integer.holds wide (.number n)
  | names nonEmpty => areNames nonEmpty value
  | nameTable => value.object?.any (·.all fun (_, entry) => areNames false entry)
  | flagTable => value.object?.any (·.all fun (_, entry) => entry.bool?.isSome)
  | types => areTypes value
  | list => value.array?.isSome

end PlainForm

namespace Draft

/-- The rule of a keyword, `anything` where the draft does not know it. -/
def rule (draft : Draft) (keyword : String) : KeywordRule :=
  let since (first : Draft) (rule : KeywordRule) : KeywordRule :=
    if draft.since first then rule else .anything
  let between (first last : Draft) (rule : KeywordRule) : KeywordRule :=
    if draft.since first && draft.upTo last then rule else .anything
  let asserted (form : PlainForm) : KeywordRule :=
    .plain (if draft.upTo .draft7 then form else .text)
  let count : KeywordRule := .plain (.count (draft.since .draft6))
  match keyword with
  | "id" => between .draft4 .draft4 (.plain .text)
  | "$schema" => if draft = .draft4 then .plain .text else asserted .identifier
  | "$id" =>
    if draft.since .draft2019 then .plain .schemaId
    else since .draft6 (.plain .identifierReference)
  | "$ref" => since .draft6 (asserted .identifierReference)
  | "$comment" => since .draft7 (.plain .text)
  | "$anchor" => since .draft2019 (.plain (.anchorName (draft.since .draft2020)))
  | "$dynamicAnchor" => since .draft2020 (.plain (.anchorName true))
  | "$recursiveAnchor" =>
    if draft = .draft2019 then .plain .flag else since .draft2020 (.plain (.anchorName true))
  | "$recursiveRef" => since .draft2019 (.plain .text)
  | "$dynamicRef" => since .draft2020 (.plain .text)
  | "$vocabulary" => since .draft2019 (.plain .flagTable)
  | "$defs" => since .draft2019 .schemaTable
  | "title" | "description" | "format" => .plain .text
  | "examples" => since .draft6 (.plain .list)
  | "readOnly" => since .draft7 (.plain .flag)
  | "writeOnly" => since .draft7 (.plain .flag)
  | "deprecated" => since .draft2019 (.plain .flag)
  | "contentMediaType" | "contentEncoding" => since .draft7 (.plain .text)
  | "contentSchema" => since .draft2019 .schema
  | "multipleOf" => .plain .positive
  | "minimum" | "maximum" => .plain .number
  | "exclusiveMinimum" | "exclusiveMaximum" =>
    .plain (if draft = .draft4 then .flag else .number)
  | "minLength" | "maxLength" | "minItems" | "maxItems" | "minProperties" | "maxProperties" => count
  | "minContains" | "maxContains" => since .draft2019 count
  | "pattern" => asserted .regex
  | "uniqueItems" => .plain .flag
  | "required" => .plain (.names (draft = .draft4))
  | "dependentRequired" => since .draft2019 (.plain .nameTable)
  | "enum" => .plain .list
  | "type" => .plain .types
  | "items" => if draft = .draft2020 then .schema else .schemaOrList
  | "prefixItems" => since .draft2020 .schemaList
  | "additionalItems" =>
    if draft = .draft4 then .schemaOrFlag else between .draft6 .draft2019 .schema
  | "additionalProperties" => if draft = .draft4 then .schemaOrFlag else .schema
  | "contains" | "propertyNames" => since .draft6 .schema
  | "if" | "then" | "else" => since .draft7 .schema
  | "unevaluatedItems" | "unevaluatedProperties" => since .draft2019 .schema
  | "not" => .schema
  | "allOf" | "anyOf" | "oneOf" => .schemaList
  | "properties" | "definitions" => .schemaTable
  | "patternProperties" => if draft = .draft7 then .patternTable else .schemaTable
  | "dependentSchemas" => since .draft2019 .schemaTable
  | "dependencies" => .dependencyTable
  | _ => .anything

/-- In the first draft the mark of an exclusive limit stands beside a limit. -/
def marksLimits (draft : Draft) (members : Members Json) : Bool :=
  let marked (flag limit : String) : Bool :=
    !Members.contains members flag || Members.contains members limit
  draft ≠ .draft4
    || (marked "exclusiveMinimum" "minimum" && marked "exclusiveMaximum" "maximum")

mutual

/-- Whether a document is a well-formed schema. -/
def admits (draft : Draft) : Json → Bool
  | .bool _ => draft.since .draft6
  | .object members => draft.marksLimits members && admitsKeywords draft members
  | _ => false

/-- Whether every keyword follows its rule. -/
def admitsKeywords (draft : Draft) : List (String × Json) → Bool
  | [] => true
  | (keyword, value) :: rest =>
    (match draft.rule keyword with
      | .anything => true
      | .plain form => form.holds value
      | .schema => admits draft value
      | .schemaOrFlag => value.bool?.isSome || admits draft value
      | .schemaOrList => admits draft value || admitsList draft value
      | .schemaList => admitsList draft value
      | .schemaTable => admitsTable draft value
      | .patternTable =>
        (value.object?.any (·.all fun (name, _) => Format.regex.holds name))
          && admitsTable draft value
      | .dependencyTable => admitsDependencies draft value)
      && admitsKeywords draft rest

/-- Whether a value is a list of schemas that is not empty. -/
def admitsList (draft : Draft) : Json → Bool
  | .array items => !items.isEmpty && admitsItems draft items
  | _ => false

/-- Whether all items are schemas. -/
def admitsItems (draft : Draft) : List Json → Bool
  | [] => true
  | item :: rest => admits draft item && admitsItems draft rest

/-- Whether a value is a table of schemas. -/
def admitsTable (draft : Draft) : Json → Bool
  | .object members => admitsMembers draft members
  | _ => false

/-- Whether all members are schemas. -/
def admitsMembers (draft : Draft) : List (String × Json) → Bool
  | [] => true
  | (_, value) :: rest => admits draft value && admitsMembers draft rest

/-- Whether a value is a table of schemas and lists of names. -/
def admitsDependencies (draft : Draft) : Json → Bool
  | .object members => admitsDependency draft members
  | _ => false

/-- Whether all members are schemas or lists of names. -/
def admitsDependency (draft : Draft) : List (String × Json) → Bool
  | [] => true
  | (_, value) :: rest =>
    (admits draft value || PlainForm.areNames (draft = .draft4) value)
      && admitsDependency draft rest

end

end Draft

end ArgGuard.JsonSchema
