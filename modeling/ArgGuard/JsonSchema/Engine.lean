import ArgGuard.JsonSchema.Reference
import ArgGuard.JsonSchema.WellFormed

/-!
# Engines

A backend of JSON Schema does not evaluate schemas itself. It asks an engine: whether a fragment is a
schema of its draft, to load the document of all definitions, and to prepare the reference to one of
them. What can go wrong is told in the engine's words. `Engine.standard` is the engine of this
library; a statement that holds with any engine takes another one.
-/

namespace ArgGuard.JsonSchema

/-- What evaluates schemas for a backend. -/
class Engine where
  /-- A document that was loaded at `documentAddress`. -/
  Loaded : Type
  /-- The check of a schema by the meta-schema of a draft. -/
  admits : Draft → Json → Bool
  load : Draft → Json → Except String Loaded
  /-- What is wrong with values by the definition that a name like `#/definitions/Order` leads to. -/
  prepare : Draft → Reading → Loaded → String → Except String (Json → List ValueFailure)

/-- Loads the library of a document, and links all that can be reached from a definition. -/
instance Engine.standard : Engine where
  Loaded := Library
  admits := Draft.admits
  load draft document :=
    match Library.ofDefinitions? draft document with
    | some library => .ok library
    | none => .error "a reference leaves the document"
  prepare draft reading library id :=
    let start := Link.ofDefinition draft id
    match Schema.link reading library start with
    | some table =>
      .ok fun value => (Schema.failures table (.reference start) value).map Failure.report
    | none => .error "a reference or a pattern cannot be resolved"

end ArgGuard.JsonSchema
