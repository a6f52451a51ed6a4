import ArgGuard.Toml.Lexical
import ArgGuard.Toml.Table

/-!
# Configuration files

A file is a sequence of lines. A header opens a table, and the lines behind it put values into that
table up to the next header. `Toml.parse` reads a whole file.
-/

namespace ArgGuard.Toml

/-- Items with commas between them and in brackets; a comma may stand behind the last one, and
lines may end anywhere between. -/
def listBetween (opening closing : Char) (item : Reader α) : Reader (List α) := do
  Reader.char opening
  gap
  let items ← Reader.optional do
    let items ← Reader.sepBy1 (item <* gap) (Reader.char ',' *> gap)
    let _ ← Reader.optional (Reader.char ',' *> gap)
    return items
  Reader.char closing
  return items.getD []

/-- A key with a value. -/
def pair (value : Reader Value) : Reader (List String × Value) := do
  let keys ← dottedKey
  blanks
  Reader.char '='
  blanks
  return (keys, ← value)

/-- The table that pairs make. -/
def inlineTable (pairs : List (List String × Value)) : Option Value :=
  (pairs.foldlM (fun entries (keys, value) => Node.assign keys value entries) []).map
    fun entries => .table (Node.closeEntries entries)

/-- A value in which lists and tables are nested at most so deep. -/
def value : Nat → Reader Value
  | 0 => scalar
  | depth + 1 =>
    Reader.firstOf
      [.array <$> listBetween '[' ']' (value depth),
        (do
          let pairs ← listBetween '\x7b' '\x7d' (pair (value depth))
          match inlineTable pairs with
          | some table => return table
          | none => Reader.fail),
        scalar]

/-- How deep lists and tables may be nested. -/
def depthLimit : Nat := 80

/-- What a line says. -/
inductive Statement
  | table (path : List String)
  | element (path : List String)
  | pair (keys : List String) (value : Value)

def statement : Reader Statement :=
  Reader.firstOf
    [.element <$> (Reader.literal "[[" *> blanks *> dottedKey <* blanks <* Reader.literal "]]"),
      .table <$> (Reader.char '[' *> blanks *> dottedKey <* blanks <* Reader.char ']'),
      (fun (keys, value) => .pair keys value) <$> pair (value depthLimit)]

/-- A line: a statement, a comment, both or nothing. -/
def line : Reader (Option Statement) := do
  blanks
  let statement ← Reader.optional statement
  blanks
  comment
  return statement

/-- The statements of a file; a byte order mark may stand in front. -/
def statements : Reader (List Statement) := do
  let _ ← Reader.optional (Reader.char '\uFEFF')
  let lines ← Reader.sepBy1 line newline
  return lines.filterMap id

/-- The tables so far, and the path of the one that lines add to. -/
structure Assembly where
  current : List String := []
  root : Node.Entries := []

/-- Carries out a statement. -/
def Assembly.step (assembly : Assembly) : Statement → Option Assembly
  | .table path => do return ⟨path, ← Node.openTable path assembly.root⟩
  | .element path => do return ⟨path, ← Node.openElement path assembly.root⟩
  | .pair keys value => do
    return { assembly with root := ← Node.assignIn assembly.current keys value assembly.root }

/-- Reads a file. -/
def parse (text : String) : Option Table := do
  let statements ← Reader.parseAll statements text
  let assembly ← statements.foldlM Assembly.step {}
  return Node.closeEntries assembly.root

end ArgGuard.Toml
