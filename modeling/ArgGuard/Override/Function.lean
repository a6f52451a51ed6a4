import ArgGuard.Graph.Position
import ArgGuard.Json.Basic

/-!
# Validation functions

A validation function judges one argument of a call. It sees the argument's value, the other
arguments, what the request carries and where in the response the field stands, and either lets the
value pass or rejects it with a message.
-/

namespace ArgGuard

/-- The coordinate of an argument. -/
structure ArgumentCoordinate where
  typeName : String
  fieldName : String
  argumentName : String
deriving DecidableEq, Repr

/-- The argument that a validation function judges. -/
structure ArgumentSite where
  coordinate : ArgumentCoordinate
  position : Position

/-- What the request carries, by key. -/
abbrev RequestContext := Members Json

/-- Where a field is resolved. -/
structure ResolveInfo where
  parentType : String
  fieldName : String
  path : List String

def ResolveInfo.atRoot (parentType fieldName : String) : ResolveInfo :=
  ⟨parentType, fieldName, [fieldName]⟩

/-- What a validation function sees. -/
structure FunctionCall where
  site : ArgumentSite
  value : Json
  arguments : Members Json
  context : RequestContext
  info : ResolveInfo

/-- Why a validation function rejects; the path points inside the argument. -/
structure Rejection where
  message : String
  path : Option String := none

/-- A judge of one argument. -/
structure ValidationFunction where
  judge : FunctionCall → Except Rejection Unit

end ArgGuard
