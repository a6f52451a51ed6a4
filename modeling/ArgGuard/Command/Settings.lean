import ArgGuard.Backend.Options
import ArgGuard.Toml.Value

/-!
# Settings

The settings file names the dialect, the file of overrides and the options of the backend, and says
whether constraints in the schema count. All of it may be missing, and nothing else may be there.
-/

namespace ArgGuard.Command

/-- What a settings file says. -/
structure Settings where
  dialect : Dialect := .jsonSchema
  usesDirectives : Bool := true
  /-- The file of overrides, from the directory of the settings file. -/
  overrides : Option String := none
  options : Json := .null

namespace Settings

/-- Whether a value has nothing in it. -/
def isEmptyContainer : Toml.Value → Bool
  | .array [] | .table [] => true
  | _ => false

/-- The dialect that a value names: by its text, or by the only key of a table, under which an
empty container stands. -/
def dialect? : Toml.Value → Option Dialect
  | .string name => Members.get? Dialect.named name
  | .table [(name, content)] =>
    if isEmptyContainer content then Members.get? Dialect.named name else none
  | _ => none

/-- Takes one entry of the file. -/
def addEntry (settings : Settings) (entry : String × Toml.Value) : Option Settings :=
  match entry with
  | ("mode", value) => do return { settings with dialect := ← dialect? value }
  | ("directive-validation", .boolean b) => some { settings with usesDirectives := b }
  | ("overrides", .string path) => some { settings with overrides := some path }
  | ("backend-options", .table table) =>
    some { settings with options := (Toml.Value.table table).toJson }
  | _ => none

def ofTable (table : Toml.Table) : Option Settings := table.foldlM addEntry {}

end Settings

end ArgGuard.Command
