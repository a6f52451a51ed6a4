import ArgGuard.JsonSchema.Schema

/-!
# Reading schemas

A schema is read once from its document. Keywords that work together, like those on properties,
become one term where the later of them stands. A keyword that the draft does not know says nothing.

Reading goes through the document once. The value of a keyword is read as whatever it could be for
that keyword: a schema, a list of schemas, or a table of schemas. A schema inside a schema can have
an identifier and a draft of its own, so every schema is read in its own context.
-/

namespace ArgGuard.JsonSchema

/-- The value of a keyword, read as whatever it could be. -/
structure Part where
  raw : Json
  schema : Schema := .broken
  list : List Schema := []
  table : List (String × Json × Schema) := []

namespace Part

/-- The term of a value, or `broken` where the value has the wrong form. -/
def expect (value : Option α) (term : α → Schema) : Schema :=
  match value with
  | some value => term value
  | none => .broken

def number? (part : Part) : Option Number := part.raw.number?

def count? (part : Part) : Option Nat := part.number?.bind Number.count?

def names? (part : Part) : Option (List String) := part.raw.array?.bind (·.mapM Json.string?)

/-- The schemas in a table, by name. -/
def named (part : Part) : List (String × Schema) :=
  part.table.map fun (name, _, schema) => (name, schema)

/-- The schemas in a table, by the pattern that a name writes. -/
def matched? (part : Part) : Option (List (Pattern × Schema)) :=
  part.table.mapM fun (name, _, schema) =>
    (ScriptPattern.parse? name).map fun (_, pattern) => (pattern, schema)

end Part

/-- How schemas are read: whether formats are asserted, if not as the draft says. -/
structure Reading where
  assertsFormats : Option Bool := none

namespace Reading

variable (reading : Reading) (context : Context) (siblings : List (String × Part))

/-- A keyword of the same schema. -/
def sibling? (name : String) : Option Part := Members.get? siblings name

/-- The value of a keyword of the same schema. -/
def siblingValue? (name : String) : Option Json := (sibling? siblings name).map Part.raw

/-- Whether a keyword of the same schema is switched on. -/
def isOn (name : String) : Bool :=
  match siblingValue? siblings name with
  | some (.bool true) => true
  | _ => false

/-- What a type or a list of types says. In the first draft no double is an integer. -/
def typeTerm (part : Part) : Schema :=
  let wide := context.draft.since .draft6
  match part.raw with
  | .string word =>
    Part.expect (TypeName.ofWord? word) fun type => .assertion (.ofType type wide)
  | .array [.string word] =>
    Part.expect (TypeName.ofWord? word) fun type => .assertion (.ofType type wide)
  | _ =>
    Part.expect (part.names?.bind fun words => words.mapM TypeName.ofWord?) fun types =>
      .assertion (.ofTypes (TypeName.all.filter types.contains))

/-- A limit. The first draft marks an exclusive one by a keyword beside it. -/
def boundTerm (inclusive exclusive : Bound) (flag : String) (part : Part) : Schema :=
  let bound :=
    if context.draft = .draft4 && isOn siblings flag then exclusive else inclusive
  Part.expect part.number? fun limit => .assertion (.bounded bound limit)

/-! ### Properties -/

/-- Whether the keyword on additional properties takes over the declared ones. -/
def takesOver : Bool :=
  match siblingValue? siblings "additionalProperties" with
  | some (.bool false) | some (.object _) => true
  | _ => false

def declaredBeside : List (String × Schema) :=
  ((sibling? siblings "properties").map Part.named).getD []

/-- The properties with patterns beside a keyword. -/
def matchedBeside : Option (List (Pattern × Schema)) :=
  match sibling? siblings "patternProperties" with
  | some part => part.matched?
  | none => some []

/-- The properties that are not declared. -/
def additionalPropertiesTerm (part : Part) : Schema :=
  let isAlone := (sibling? siblings "properties").isNone
    && (sibling? siblings "patternProperties").isNone
  match part.raw with
  | .bool true => .openProperties
  | .bool false =>
    if isAlone then .assertion .noProperties
    else Part.expect (matchedBeside siblings) fun matched =>
      .closed (declaredBeside siblings) matched none
  | _ =>
    Part.expect (matchedBeside siblings) fun matched =>
      .closed (declaredBeside siblings) matched (some part.schema)

/-- What the presence of members asks for: a schema, or other members. -/
def dependencyTerms (part : Part) : Schema :=
  .all (part.table.map fun (name, raw, schema) =>
    match raw with
    | .array values =>
      Part.expect (values.mapM Json.string?) fun names => .assertion (.requiredWith name names)
    | _ => .dependent name schema)

/-! ### Items -/

/-- The items. A list of schemas is for the first items; where the first items have a keyword of
their own, one schema is for the others. -/
def itemsTerm (part : Part) : Schema :=
  match part.raw with
  | .array _ => .tuple part.list
  | _ => .items (((sibling? siblings "prefixItems").map (·.list.length)).getD 0) part.schema

/-- The items behind those that have a schema of their own. Where there can be no items at all there
is nothing that could have others. -/
def additionalItemsTerm (part : Part) : Schema :=
  match siblingValue? siblings "items", part.raw with
  | some (.array first), .bool false => .all [.assertion (.noItemsFrom first.length), .openItems]
  | some (.array first), .object _ => .items first.length part.schema
  | some (.array _), _ => .openItems
  | some (.bool false), _ => .nothing
  | _, _ => .anything

/-- A number of items of a kind. The last draft counts these items as evaluated. -/
def containsTerm (part : Part) : Schema :=
  let least := ((sibling? siblings "minContains").bind Part.count?).getD 1
  let most := (sibling? siblings "maxContains").bind Part.count?
  if context.draft.since .draft2020 then .contains part.schema least most
  else if context.draft.since .draft2019 then .unseen (.contains part.schema least most)
  else .contains part.schema 1 none

/-! ### Conditions -/

/-- A condition with what follows if it holds and if not. A condition that nothing follows only
evaluates; it is left out if it could not be used. -/
def choiceTerm (part : Part) : Schema :=
  match sibling? siblings "then", sibling? siblings "else" with
  | none, none =>
    if part.schema.isSound && part.schema.references.isEmpty then
      .choice part.schema .anything .anything
    else .anything
  | yes, no =>
    let branch (part : Option Part) : Schema := (part.map (·.schema)).getD .anything
    .choice part.schema (branch yes) (branch no)

/-! ### Texts -/

/-- The format of texts. -/
def formatTerm (part : Part) : Schema :=
  Part.expect part.raw.string? fun name =>
    match Format.ofName? context.draft name with
    | some format =>
      if reading.assertsFormats.getD context.draft.assertsFormats then
        .assertion (.format format)
      else .anything
    | none => .anything

/-- The pattern of texts. -/
def patternTerm (part : Part) : Schema :=
  Part.expect (part.raw.string?.bind ScriptPattern.parse?) fun (text, pattern) =>
    .assertion (.pattern text pattern)

/-- The encoding of texts, which a keyword on what they contain takes over. -/
def encodingTerm (part : Part) : Schema :=
  if (sibling? siblings "contentMediaType").isSome then .anything
  else Part.expect part.raw.string? fun name =>
    if name = "base64" then .assertion .encoded else .anything

/-- What texts contain. -/
def contentTerm (part : Part) : Schema :=
  Part.expect part.raw.string? fun kind =>
    if kind ≠ "application/json" then .anything
    else
      match siblingValue? siblings "contentEncoding" with
      | none => .assertion .json
      | some encoding =>
        Part.expect encoding.string? fun name =>
          if name = "base64" then .assertion .encodedJson else .anything

/-! ### Keywords -/

def referenceTerm (isRecursive : Bool) (part : Part) : Schema :=
  Part.expect part.raw.string? fun text =>
    .reference { context, text := text.toList, isRecursive }

/-- What a keyword says, if the draft knows it. -/
def term? (keyword : String) (part : Part) : Option Schema :=
  let draft := context.draft
  let since (first : Draft) (term : Schema) : Option Schema :=
    if draft.since first then some term else none
  let between (first last : Draft) (term : Schema) : Option Schema :=
    if draft.since first && draft.upTo last then some term else none
  let limit (things : Countable) (test : Countable → Nat → Assertion) : Option Schema :=
    some (Part.expect part.count? fun count => .assertion (test things count))
  match keyword with
  | "$ref" => some (referenceTerm context false part)
  | "$recursiveRef" => between .draft2019 .draft2019 (referenceTerm context true part)
  | "$dynamicRef" => since .draft2020 (referenceTerm context false part)
  | "type" => some (typeTerm context part)
  | "enum" => some (Part.expect part.raw.array? fun values => .assertion (.among values))
  | "const" => since .draft6 (.assertion (.constant part.raw))
  | "minLength" => limit .characters .atLeast
  | "maxLength" => limit .characters .atMost
  | "minItems" => limit .items .atLeast
  | "maxItems" => limit .items .atMost
  | "minProperties" => limit .properties .atLeast
  | "maxProperties" => limit .properties .atMost
  | "minimum" =>
    some (boundTerm context siblings .minimum .exclusiveMinimum "exclusiveMinimum" part)
  | "maximum" =>
    some (boundTerm context siblings .maximum .exclusiveMaximum "exclusiveMaximum" part)
  | "exclusiveMinimum" =>
    since .draft6 (Part.expect part.number? fun n => .assertion (.bounded .exclusiveMinimum n))
  | "exclusiveMaximum" =>
    since .draft6 (Part.expect part.number? fun n => .assertion (.bounded .exclusiveMaximum n))
  | "multipleOf" => some (Part.expect part.number? fun n => .assertion (.multipleOf n.toFloat))
  | "pattern" => some (patternTerm part)
  | "format" => some (reading.formatTerm context part)
  | "contentEncoding" => between .draft6 .draft7 (encodingTerm siblings part)
  | "contentMediaType" => between .draft6 .draft7 (contentTerm siblings part)
  | "uniqueItems" => if isOn siblings keyword then some (.assertion .distinctItems) else none
  | "required" => some (Part.expect part.names? fun names => .assertion (.required names))
  | "properties" => if takesOver siblings then none else some (.properties part.named)
  | "patternProperties" =>
    if takesOver siblings then none else some (Part.expect part.matched? .patterns)
  | "additionalProperties" => some (additionalPropertiesTerm siblings part)
  | "propertyNames" =>
    since .draft6 (match part.raw with
      | .bool false => .assertion .noPropertyNames
      | _ => .propertyNames part.schema)
  | "items" => some (itemsTerm siblings part)
  | "prefixItems" => since .draft2020 (.tuple part.list)
  | "additionalItems" => some (additionalItemsTerm siblings part)
  | "contains" => since .draft6 (containsTerm context siblings part)
  | "allOf" => some (.allOf part.list)
  | "anyOf" => some (.anyOf part.list)
  | "oneOf" => some (.oneOf part.list)
  | "not" => some (.exclusion part.schema part.raw)
  | "if" => since .draft7 (choiceTerm siblings part)
  | "dependencies" => some (.unseen (dependencyTerms part))
  | "dependentRequired" => since .draft2019 (dependencyTerms part)
  | "dependentSchemas" => since .draft2019 (dependencyTerms part)
  | "unevaluatedProperties" => since .draft2019 (.unevaluatedProperties part.schema)
  | "unevaluatedItems" => since .draft2019 (.unevaluatedItems part.schema)
  | _ => none

/-- A schema from its keywords. Up to the seventh draft a reference stands alone. -/
def assemble (keywords : List (String × Part)) : Schema :=
  let heard :=
    if context.draft.referencesStandAlone && Members.contains keywords "$ref" then
      keywords.filter (·.1 = "$ref")
    else keywords
  .all (heard.filterMap fun (keyword, part) => reading.term? context heard keyword part)

/-- Whether the value of a keyword is a table of schemas. -/
def holdsTable (keyword : String) : Bool :=
  ["properties", "patternProperties", "dependencies", "dependentRequired",
    "dependentSchemas"].contains keyword

variable {siblings}

mutual

def schema (context : Context) : Json → Schema
  | .object members =>
    match context.enter? members with
    | some inner => reading.assemble inner (parts inner members)
    | none => .broken
  | .bool b => if b then .anything else .nothing
  | _ => .broken

/-- Reads the keywords of a schema. -/
def parts (context : Context) : List (String × Json) → List (String × Part)
  | [] => []
  | (keyword, value) :: rest =>
    (keyword,
      if holdsTable keyword then { raw := value, table := table context value }
      else { raw := value, schema := schema context value, list := list context value })
      :: parts context rest

def list (context : Context) : Json → List Schema
  | .array values => listed context values
  | _ => []

def listed (context : Context) : List Json → List Schema
  | [] => []
  | value :: rest => schema context value :: listed context rest

def table (context : Context) : Json → List (String × Json × Schema)
  | .object members => tabled context members
  | _ => []

def tabled (context : Context) : List (String × Json) → List (String × Json × Schema)
  | [] => []
  | (name, value) :: rest => (name, value, schema context value) :: tabled context rest

end

/-- Reads the schema that a reference leads to, whose context is known. -/
def target (context : Context) : Json → Schema
  | .object members => reading.assemble context (parts reading context members)
  | .bool b => if b then .anything else .nothing
  | _ => .broken

end Reading

end ArgGuard.JsonSchema
