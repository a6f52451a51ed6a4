/-!
# Field coordinates

`Type.field` names a field of a schema. `parse` reads back what `text` writes, for names that are
not empty and have no point in them.
-/

namespace ArgGuard

/-- A field, by its type's name and its own. -/
structure Coordinate where
  typeName : String
  fieldName : String
deriving DecidableEq, Repr

namespace Coordinate

/-- The coordinate in its written form. -/
def text (coordinate : Coordinate) : String :=
  coordinate.typeName ++ "." ++ coordinate.fieldName

/-- Reads `Type.field`: exactly one point, with something on either side. -/
def parse (text : String) : Option Coordinate :=
  let typeName := text.toList.takeWhile (· != '.')
  match text.toList.dropWhile (· != '.') with
  | [] => none
  | _ :: fieldName =>
    if typeName.isEmpty || fieldName.isEmpty || fieldName.contains '.' then none
    else some ⟨String.ofList typeName, String.ofList fieldName⟩

end Coordinate

end ArgGuard
