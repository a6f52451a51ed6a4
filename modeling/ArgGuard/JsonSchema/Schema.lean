import ArgGuard.JsonSchema.Assertion
import ArgGuard.JsonSchema.Library

/-!
# Schemas

A schema is the conjunction of what its keywords say, in the order of the keywords. A keyword whose
value cannot be read is `broken`, and a schema that contains it cannot be used. A reference keeps
the place where it stands, from which it can be looked up.

Some terms find nothing wrong and stand only for parts of the document that count as evaluated,
which the terms for unevaluated parts look at.
-/

namespace ArgGuard.JsonSchema

/-- A reference and where it stands. -/
structure Link where
  context : Context
  text : List Char
  /-- Whether it leads to the schema around it, whatever its text. -/
  isRecursive : Bool := false
deriving DecidableEq

/-- What a document has to satisfy. -/
inductive Schema
  | anything
  | nothing
  | broken
  /-- What the keywords of one schema say. -/
  | all (schemas : List Schema)
  | assertion (assertion : Assertion)
  /-- The members of the given names. -/
  | properties (declared : List (String × Schema))
  /-- The members whose names have a pattern, pattern by pattern. -/
  | patterns (patterns : List (Pattern × Schema))
  /-- Every member: declared, with a pattern, or one of the others, which `none` refuses. -/
  | closed (declared : List (String × Schema)) (patterns : List (Pattern × Schema))
      (others : Option Schema)
  /-- All members count as evaluated. -/
  | openProperties
  | propertyNames (schema : Schema)
  /-- The items from an index on. -/
  | items (start : Nat) (schema : Schema)
  /-- The first items, each by its own schema. -/
  | tuple (schemas : List Schema)
  /-- All items count as evaluated. -/
  | openItems
  | contains (schema : Schema) (least : Nat) (most : Option Nat)
  | allOf (schemas : List Schema)
  | anyOf (schemas : List Schema)
  | oneOf (schemas : List Schema)
  | exclusion (schema : Schema) (text : Json)
  | choice (test yes no : Schema)
  /-- A schema for objects that have a member of the name. -/
  | dependent (name : String) (schema : Schema)
  /-- A schema that evaluates nothing. -/
  | unseen (schema : Schema)
  /-- The members that nothing else in the same schema evaluates. -/
  | unevaluatedProperties (schema : Schema)
  /-- The items that nothing else in the same schema evaluates. -/
  | unevaluatedItems (schema : Schema)
  | reference (link : Link)
deriving Inhabited

namespace Schema

mutual

/-- The references in a schema, in order. -/
def references : Schema → List Link
  | reference link => [link]
  | all schemas | tuple schemas | allOf schemas | anyOf schemas | oneOf schemas =>
    referencesOfList schemas
  | properties declared => referencesOfNamed declared
  | patterns matched => referencesOfMatched matched
  | closed declared matched none => referencesOfNamed declared ++ referencesOfMatched matched
  | closed declared matched (some others) =>
    referencesOfNamed declared ++ referencesOfMatched matched ++ references others
  | propertyNames schema | items _ schema | contains schema _ _ | exclusion schema _
  | dependent _ schema | unseen schema | unevaluatedProperties schema
  | unevaluatedItems schema => references schema
  | choice test yes no => references test ++ references yes ++ references no
  | anything | nothing | broken | assertion _ | openProperties | openItems => []

def referencesOfList : List Schema → List Link
  | [] => []
  | schema :: rest => references schema ++ referencesOfList rest

def referencesOfNamed : List (String × Schema) → List Link
  | [] => []
  | (_, schema) :: rest => references schema ++ referencesOfNamed rest

def referencesOfMatched : List (Pattern × Schema) → List Link
  | [] => []
  | (_, schema) :: rest => references schema ++ referencesOfMatched rest

end

mutual

/-- Whether every keyword of a schema could be read. -/
def isSound : Schema → Bool
  | broken => false
  | all schemas | tuple schemas | allOf schemas | anyOf schemas | oneOf schemas =>
    areSound schemas
  | properties declared => areSoundNamed declared
  | patterns matched => areSoundMatched matched
  | closed declared matched none => areSoundNamed declared && areSoundMatched matched
  | closed declared matched (some others) =>
    areSoundNamed declared && areSoundMatched matched && isSound others
  | propertyNames schema | items _ schema | contains schema _ _ | exclusion schema _
  | dependent _ schema | unseen schema | unevaluatedProperties schema
  | unevaluatedItems schema => isSound schema
  | choice test yes no => isSound test && isSound yes && isSound no
  | anything | nothing | assertion _ | openProperties | openItems | reference _ => true

/-- Whether a list of schemas could be read. -/
def areSound : List Schema → Bool
  | [] => true
  | schema :: rest => isSound schema && areSound rest

/-- Whether named schemas could be read. -/
def areSoundNamed : List (String × Schema) → Bool
  | [] => true
  | (_, schema) :: rest => isSound schema && areSoundNamed rest

/-- Whether schemas with patterns could be read. -/
def areSoundMatched : List (Pattern × Schema) → Bool
  | [] => true
  | (_, schema) :: rest => isSound schema && areSoundMatched rest

end

/-- Whether a term is about parts that nothing else evaluates. -/
def isLeftOver : Schema → Bool
  | unevaluatedProperties _ | unevaluatedItems _ => true
  | _ => false

end Schema

end ArgGuard.JsonSchema
