import ArgGuard.Decimal.Layout
import ArgGuard.Json.Basic

/-!
# Documents as text

The compact text has no blanks; the indented one puts every item on a line of its own, two blanks
deeper than its container. Strings escape the quote, the backslash and the control characters, and
leave every other character as it stands.
-/

namespace ArgGuard.Json

/-- Doubles from `0.00001` up to sixteen digits are positional, an integral one ends in `.0`. -/
def realLayout : RealLayout := ⟨some (-5), some 15, true, .toEven⟩

def numberText : Number → String
  | .integer n => toString n
  | .real x => realLayout.text x

/-- A hexadecimal digit in lower case. -/
def hexDigit (n : Nat) : Char := Nat.digitChar (n % 16)

def hex4 (n : Nat) : List Char :=
  [hexDigit (n / 4096), hexDigit (n / 256), hexDigit (n / 16), hexDigit n]

/-- A character inside quotes. -/
def escapeChar (c : Char) : List Char :=
  if c = '"' then ['\\', '"']
  else if c = '\\' then ['\\', '\\']
  else if c = '\x08' then ['\\', 'b']
  else if c = '\t' then ['\\', 't']
  else if c = '\n' then ['\\', 'n']
  else if c = '\x0c' then ['\\', 'f']
  else if c = '\r' then ['\\', 'r']
  else if c.toNat < 0x20 then '\\' :: 'u' :: hex4 c.toNat
  else [c]

def quote (s : String) : String :=
  "\"" ++ String.ofList (s.toList.flatMap escapeChar) ++ "\""

mutual

def compact : Json → String
  | null => "null"
  | bool b => if b then "true" else "false"
  | number n => numberText n
  | string s => quote s
  | array items => "[" ++ ",".intercalate (compactItems items) ++ "]"
  | object members => "\x7b" ++ ",".intercalate (compactMembers members) ++ "\x7d"

def compactItems : List Json → List String
  | [] => []
  | item :: rest => compact item :: compactItems rest

def compactMembers : List (String × Json) → List String
  | [] => []
  | (name, value) :: rest => (quote name ++ ":" ++ compact value) :: compactMembers rest

end

/-- A line break and the indentation of a depth. -/
def newLine (depth : Nat) : String :=
  "\n" ++ String.ofList (List.replicate (2 * depth) ' ')

/-- Lines between brackets; nothing stands between the brackets of an empty container. -/
def bracket (opening closing : String) (depth : Nat) (lines : List String) : String :=
  if lines.isEmpty then opening ++ closing
  else opening ++ newLine (depth + 1) ++ ("," ++ newLine (depth + 1)).intercalate lines
    ++ newLine depth ++ closing

mutual

/-- The indented text of a document that stands at a depth. -/
def indentedAt : Nat → Json → String
  | depth, array items => bracket "[" "]" depth (indentedItems (depth + 1) items)
  | depth, object members => bracket "\x7b" "\x7d" depth (indentedMembers (depth + 1) members)
  | _, document => compact document

def indentedItems : Nat → List Json → List String
  | _, [] => []
  | depth, item :: rest => indentedAt depth item :: indentedItems depth rest

def indentedMembers : Nat → List (String × Json) → List String
  | _, [] => []
  | depth, (name, value) :: rest =>
    (quote name ++ ": " ++ indentedAt depth value) :: indentedMembers depth rest

end

def indented (document : Json) : String := indentedAt 0 document

end ArgGuard.Json
