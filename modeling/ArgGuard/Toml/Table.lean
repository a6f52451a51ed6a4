import ArgGuard.Toml.Value

/-!
# Tables that are still open

A configuration file builds its tables piece by piece: a header opens a table or one more element
of a list of tables, and a dotted key opens the tables on its way. Which of these may come back to a
table that is already there depends on what opened it. A header opens every table once, but may go
through any table; a dotted key goes through no table that a header opened and through no list of
tables. A value is closed: nothing is ever added to an inline table or an inline list.
-/

namespace ArgGuard.Toml

/-- What opened a table. -/
inductive Origin
  | header
  /-- A header of a table further inside. -/
  | implied
  | dotted
deriving DecidableEq

/-- An entry of an open table. -/
inductive Node
  | value (value : Value)
  | table (origin : Origin) (entries : List (String × Node))
  | tables (elements : List (List (String × Node)))

namespace Node

abbrev Entries := List (String × Node)

mutual

/-- The value of an entry. -/
def close : Node → Value
  | value closed => closed
  | table _ entries => .table (closeEntries entries)
  | tables elements => .array (closeElements elements)

/-- The values of entries. -/
def closeEntries : List (String × Node) → Table
  | [] => []
  | (key, node) :: rest => (key, close node) :: closeEntries rest

/-- The values of the elements of a list of tables. -/
def closeElements : List (List (String × Node)) → List Value
  | [] => []
  | entries :: rest => .table (closeEntries entries) :: closeElements rest

end

/-- Changes the table at the end of a path. The tables on the way are opened where they are missing;
in a list of tables the way goes through the last element. -/
def descend (dotted : Bool) (change : Entries → Option Entries) :
    List String → Entries → Option Entries
  | [], entries => change entries
  | key :: path, entries => do
    let node ← match Members.get? entries key with
      | none =>
        pure (table (if dotted then .dotted else .implied) (← descend dotted change path []))
      | some (table origin inner) =>
        if dotted && origin = .header then none
        else pure (table origin (← descend dotted change path inner))
      | some (tables elements) =>
        match dotted, elements.getLast? with
        | false, some last =>
          pure (tables (elements.dropLast ++ [← descend dotted change path last]))
        | _, _ => none
      | some (value _) => none
    return Members.set entries key node

/-- Splits a path into the way and the last key. -/
def splitLast (path : List String) : Option (List String × String) :=
  path.getLast?.map fun last => (path.dropLast, last)

def openTable (path : List String) (root : Entries) : Option Entries := do
  let (way, last) ← splitLast path
  let openLast (entries : Entries) : Option Entries :=
    match Members.get? entries last with
    | none => some (Members.set entries last (table .header []))
    | some (table .implied inner) => some (Members.set entries last (table .header inner))
    | some _ => none
  descend false openLast way root

/-- Opens one more element of the list of tables of a header. -/
def openElement (path : List String) (root : Entries) : Option Entries := do
  let (way, last) ← splitLast path
  let openLast (entries : Entries) : Option Entries :=
    match Members.get? entries last with
    | none => some (Members.set entries last (tables [[]]))
    | some (tables elements) => some (Members.set entries last (tables (elements ++ [[]])))
    | some _ => none
  descend false openLast way root

/-- Puts a value under a dotted key. -/
def assign (keys : List String) (value : Value) (entries : Entries) : Option Entries := do
  let (way, last) ← splitLast keys
  let put (entries : Entries) : Option Entries :=
    if Members.contains entries last then none
    else some (Members.set entries last (.value value))
  descend true put way entries

/-- Puts a value under a dotted key of the table that a header opened. -/
def assignIn (path keys : List String) (value : Value) (root : Entries) : Option Entries :=
  descend false (assign keys value) path root

end Node

end ArgGuard.Toml
