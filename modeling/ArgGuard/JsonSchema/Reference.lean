import ArgGuard.JsonSchema.MetaSchema.Library
import ArgGuard.JsonSchema.Reading
import ArgGuard.JsonSchema.Validation

/-!
# References between schemas

All definitions stand in one document. `Library.ofDefinitions?` collects what references can lead
to, and `Schema.link` everything that can be reached from one of the definitions, so that validation
needs nothing but the table.
-/

namespace ArgGuard.JsonSchema

open Internet

/-- The identifier of the document in which all definitions stand. -/
def documentAddress : Identifier :=
  { scheme := some "json-schema".toList
    authority := some []
    path := "/gql-validate/units".toList }

/-- The identifier from which a reference to a definition starts. -/
def rootAddress : Identifier := { documentAddress with path := ['/'] }

/-- What references in a document of definitions can lead to, if all that must be known is known. -/
def Library.ofDefinitions? (draft : Draft) (document : Json) : Option Library := do
  let own ← scan? {} documentAddress draft document
  let library := if own.usesDrafts then Library.append .ofMetaSchemas own else own
  if library.isComplete then some library else none

namespace Link

/-- The reference to a definition, which starts from outside of the document. -/
def ofDefinition (draft : Draft) (id : String) : Link :=
  { context := { base := rootAddress, draft }
    text := documentAddress.text ++ id.toList }

/-- What a reference leads to. -/
def target? (library : Library) (link : Link) : Option (Json × Context) :=
  if link.isRecursive then link.context.recursiveTarget? library
  else link.context.lookup? library link.text

end Link

namespace Schema

/-- Adds the targets of references, and of the references in them, until nothing is missing. -/
def close (reading : Reading) (library : Library) : Nat → List Link → LinkTable → Option LinkTable
  | _, [], table => some table
  | 0, _ :: _, _ => none
  | fuel + 1, next :: rest, table =>
    if (table.lookup next).isSome then close reading library fuel rest table
    else
      match next.target? library with
      | none => none
      | some (contents, context) =>
        let schema := reading.target context contents
        if schema.isSound then
          close reading library fuel (rest ++ schema.references) (table ++ [(next, schema)])
        else none

/-- A number of steps that is enough: references are followed once from every way to every place,
and a way is a row of different identifiers. -/
def enoughSteps (library : Library) : Nat :=
  let places := library.resources.foldl (fun count resource => count + resource.contents.size) 1
  let ways := Nat.pow (library.resources.length + 2) (library.resources.length + 2)
  places * places * ways

/-- Everything that can be reached from a reference, if every reference on the way leads somewhere
and every schema on the way can be read. -/
def link (reading : Reading) (library : Library) (start : Link) : Option LinkTable :=
  close reading library (enoughSteps library) [start] []

end Schema

end ArgGuard.JsonSchema
