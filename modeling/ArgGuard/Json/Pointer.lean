import ArgGuard.Json.Basic

/-!
# Pointers into documents

A pointer names a place inside a document by the members and indices that lead to it. In its text
every step stands behind a slash; a tilde and a slash inside a step are written `~0` and `~1`. The
empty text names the whole document. `child?` follows one escaped step into a document.
-/

namespace ArgGuard

/-- The steps that lead to a place, outermost first. An index is written in decimal digits. -/
abbrev Pointer := List String

namespace Pointer

/-- A character inside a step. -/
def escapeChar (c : Char) : List Char :=
  if c = '~' then ['~', '0'] else if c = '/' then ['~', '1'] else [c]

/-- A step as it is written. -/
def escape (step : String) : String :=
  String.ofList (step.toList.flatMap escapeChar)

def text (pointer : Pointer) : String :=
  String.join (pointer.map fun step => "/" ++ escape step)

/-- A step as it was before it was escaped. -/
def unescapeChars : List Char → List Char
  | '~' :: '1' :: rest => '/' :: unescapeChars rest
  | '~' :: '0' :: rest => '~' :: unescapeChars rest
  | c :: rest => c :: unescapeChars rest
  | [] => []

/-- What stands at one step inside a document. -/
def child? (step : List Char) : Json → Option Json
  | .object members => Members.get? members (String.ofList (unescapeChars step))
  | .array items =>
    let digits := if step.head? = some '+' then step.drop 1 else step
    if !digits.isEmpty && digits.all Char.isDigit then items[Scan.natOfDigits digits]? else none
  | _ => none

end Pointer

/-- A place in a value, and what is wrong there. -/
structure ValueFailure where
  path : Pointer
  message : String
deriving DecidableEq, Repr

end ArgGuard
