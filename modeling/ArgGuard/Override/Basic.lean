import ArgGuard.Graph.Coordinate
import ArgGuard.Override.Function

/-!
# Overrides

An override replaces or refines the schema that is derived for a position: a fragment for an input
object as a whole, a fragment for one of its fields, and a fragment or a function for an argument.
`Overrides` holds them by coordinate. `laidOver` lays one set over another; an entry above hides the
entry of the same coordinate below as a whole.
-/

namespace ArgGuard

/-- A piece of a schema document. -/
abbrev Fragment := Members Json

/-- What may stand at an argument. -/
inductive Override
  | fragment (fragment : Fragment)
  | function (function : ValidationFunction)

/-- Overrides by coordinate. -/
structure Overrides where
  types : List (String × Fragment) := []
  inputFields : List (Coordinate × Fragment) := []
  arguments : List (ArgumentCoordinate × Override) := []

namespace Overrides

/-- No overrides. -/
def empty : Overrides := {}

/-- The fragment of an input object. -/
def type? (overrides : Overrides) (typeName : String) : Option Fragment :=
  Members.get? overrides.types typeName

/-- The fragment of a field of an input object. -/
def inputField? (overrides : Overrides) (coordinate : Coordinate) : Option Fragment :=
  Members.get? overrides.inputFields coordinate

def argument? (overrides : Overrides) (coordinate : ArgumentCoordinate) : Option Override :=
  Members.get? overrides.arguments coordinate

/-- Puts a fragment at an input object. -/
def setType (overrides : Overrides) (typeName : String) (fragment : Fragment) : Overrides :=
  { overrides with types := Members.set overrides.types typeName fragment }

/-- Puts a fragment at a field of an input object. -/
def setInputField (overrides : Overrides) (coordinate : Coordinate) (fragment : Fragment) :
    Overrides :=
  { overrides with inputFields := Members.set overrides.inputFields coordinate fragment }

def setArgument (overrides : Overrides) (coordinate : ArgumentCoordinate) (entry : Override) :
    Overrides :=
  { overrides with arguments := Members.set overrides.arguments coordinate entry }

/-- Lays `upper` over `lower`, coordinate by coordinate. -/
def laidOver (upper lower : Overrides) : Overrides where
  types := upper.types.foldl (fun found (key, entry) => Members.set found key entry) lower.types
  inputFields :=
    upper.inputFields.foldl (fun found (key, entry) => Members.set found key entry)
      lower.inputFields
  arguments :=
    upper.arguments.foldl (fun found (key, entry) => Members.set found key entry) lower.arguments

end Overrides

end ArgGuard
