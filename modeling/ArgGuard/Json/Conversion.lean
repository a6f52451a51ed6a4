import ArgGuard.Json.Printer
import ArgGuard.Text.Blank

/-!
# Conversions between scalars

A scalar of one kind can stand for one of another kind: a number for the text that writes it, a text
for the number it writes, zero and one for the truth values. Each conversion answers the converted
document, or nothing where the scalar stands for none of the kind. No scalar is converted to its own
kind here.
-/

namespace ArgGuard.Json

/-- A text with the blanks around it left out. -/
def trimmed (text : String) : List Char := Blank.trim text.toList

def finiteDouble? (text : String) : Option Float :=
  match Scan.double? (trimmed text) with
  | some x => if x.isFinite then some x else none
  | none => none

/-- The text that writes a number or a truth value. -/
def toText? : Json → Option Json
  | number n => some (string (numberText n))
  | bool b => some (string (if b then "true" else "false"))
  | _ => none

/-- One for true, zero for false. -/
def ofBool (b : Bool) : Json := ofInt (if b then 1 else 0)

/-- The integer of 64 bits that a text writes, or that a truth value stands for. -/
def toInteger? : Json → Option Json
  | string s => (Scan.int64? (trimmed s)).map ofInt
  | bool b => some (ofBool b)
  | _ => none

/-- The number that a text writes, in the form that `form` gives to a double, or that a truth value
stands for. -/
def toNumber? (form : Float → Number) : Json → Option Json
  | string s => (finiteDouble? s).map fun x => number (form x)
  | bool b => some (ofBool b)
  | _ => none

/-- The truth value that a text names, or that zero and one stand for. -/
def toBoolean? : Json → Option Json
  | string s =>
    if s = "true" then some (bool true) else if s = "false" then some (bool false) else none
  | number n =>
    if n.int64? = some 0 then some (bool false)
    else if n.int64? = some 1 then some (bool true)
    else none
  | _ => none

end ArgGuard.Json
