import ArgGuard.Command.File
import ArgGuard.Command.Invocation
import ArgGuard.Command.Settings
import ArgGuard.Interception.Gateway
import ArgGuard.Sdl.Document
import ArgGuard.Toml.Document

/-!
# Running commands

`check` compiles the registry of a schema and lists the validated fields, `units` prints the
fragments of all units, and `validate` judges the arguments of one field. A run ends with a report:
what is printed, what is complained about, and the exit code.
-/

namespace ArgGuard.Command

/-- Why a command fails. -/
inductive CommandError
  | unreadable (path : String) (error : FileError)
  | unwritable (path : String) (error : FileError)
  | noSchema (path : String)
  | noSettings (path : String)
  | noDocument (path : String)
  | overrides (error : OverrideError)
  | load (error : LoadError)
  | noCoordinate (text : String)
  | argumentsNoObject
  | argumentsNoDocument
  | invalidArguments (coordinate : Coordinate) (count : Nat)

namespace CommandError

/-- The text of an error. -/
def message : CommandError → String
  | unreadable path error => s!"Failed to read file '{path}': {error.message}"
  | unwritable path error => s!"Failed to write file '{path}': {error.message}"
  | noSchema path => s!"Failed to load schema '{path}': not a schema document"
  | noSettings path => s!"Failed to parse TOML file '{path}': not a settings file"
  | noDocument path => s!"Failed to parse JSON file '{path}': not a JSON document"
  | overrides error => error.message
  | load error => error.message
  | noCoordinate text => s!"Invalid field '{text}', expected `Type.field`"
  | argumentsNoObject => "Arguments must be a JSON object"
  | argumentsNoDocument => "Failed to parse arguments: not a JSON document"
  | invalidArguments coordinate count => s!"{count} invalid arguments for '{coordinate.text}'"

/-- What an error comes from, if its own text does not say all of it. -/
def cause? : CommandError → Option String
  | load error => error.cause?
  | _ => none

def indentLine (c : Char) : List Char := if c = '\n' then "\n    ".toList else [c]

/-- The text of an error with its cause. -/
def report (error : CommandError) : String :=
  let cause := match error.cause? with
    | some cause => "\nCaused by:\n    " ++ String.ofList (cause.toList.flatMap indentLine) ++ "\n"
    | none => ""
  "Error: " ++ error.message ++ "\n" ++ cause

end CommandError

/-- The end of a run. -/
structure Report where
  exitCode : Nat := 0
  output : String := ""
  complaints : String := ""
deriving DecidableEq, Repr

def programName : String := "gql-validate"

def programVersion : String := "0.1.0"

/-- The settings file that is used if none is named. -/
def defaultSettings : String := "gql-validate.toml"

/-- How the program is used. -/
def usage : String :=
  s!"Usage: {programName} <check|units|validate> <schema> [options]\n"

section

variable {m : Type → Type} [Monad m]

/-- A run that may fail. -/
abbrev Attempt (m : Type → Type) := ExceptT CommandError m

def readFile (files : FileAccess m) (path : String) : Attempt m String := do
  match ← files.read path with
  | .ok content => return content
  | .error error => throw (.unreadable path error)

/-- A value, or the error that there is none. -/
def orFail (error : CommandError) : Option α → Attempt m α
  | some value => pure value
  | none => throw error

/-- Reads a schema. -/
def loadGraph (files : FileAccess m) (path : String) : Attempt m TypeGraph := do
  orFail (.noSchema path) (TypeGraph.parse (← readFile files path))

/-- Reads overrides. -/
def loadOverrides (files : FileAccess m) (path : String) : Attempt m OverrideStore := do
  let document ← orFail (.noDocument path) (Json.parse (← readFile files path))
  match OverrideStore.ofJson document with
  | .ok store => return store
  | .error error => throw (.overrides error)

/-- Reads a settings file and what it refers to. -/
def loadSettings (files : FileAccess m) (path : String) : Attempt m ValidationConfig := do
  let text ← readFile files path
  let settings ← orFail (.noSettings path) ((Toml.parse text).bind Settings.ofTable)
  let overrides ← match settings.overrides with
    | none => pure {}
    | some name => loadOverrides files (Path.join ((Path.parent? path).getD ".") name)
  return {
    dialect := settings.dialect
    overrides
    usesDirectives := settings.usesDirectives
    options := settings.options }

/-- The configuration: of the settings file that is named, or of the default one if it is there. -/
def loadConfig (files : FileAccess m) : Option String → Attempt m ValidationConfig
  | some path => loadSettings files path
  | none => do
    if ← files.isPresent defaultSettings then loadSettings files defaultSettings else return {}

/-- The registry of a configuration and a schema. -/
def loadRegistry (config : ValidationConfig) (graph : TypeGraph) : Attempt m Registry :=
  match config.load graph with
  | .ok registry => pure registry
  | .error error => throw (.load error)

def fieldLine (field : FieldValidator) : String :=
  let count := field.functions.length
  let note := if count = 0 then "" else s!" ({count} validation functions)"
  s!"  {field.coordinate.text}{note}\n"

/-- The text of a compiled registry. -/
def summary (registry : Registry) : String :=
  s!"Compiled {registry.units.length} validation units, " ++
    s!"{registry.fields.length} validated fields\n" ++
    String.join (registry.fields.map fieldLine)

/-- The fragments of all units by their names. -/
def unitsDocument (registry : Registry) : Json :=
  .object (Members.ofList (registry.units.map fun unit => (unit.id, .object unit.fragment)))

/-- Reads the arguments of a call. -/
def parseArguments (text : String) : Except CommandError (Members Json) :=
  match Json.parse text with
  | some (.object arguments) => .ok arguments
  | some _ => .error .argumentsNoObject
  | none => .error .argumentsNoDocument

def failureLine (failure : ArgumentFailure) : String :=
  let place := if failure.path.isEmpty then "/" else failure.path
  s!"{place} {failure.message}\n"

/-- The report on a judged call. -/
def verdict (registry : Registry) (coordinate : Coordinate) (arguments : Members Json) : Report :=
  let complaints :=
    if registry.intercepts coordinate then ""
    else s!"Arguments of '{coordinate.text}' are not validated\n"
  let info := ResolveInfo.atRoot coordinate.typeName coordinate.fieldName
  match registry.admitted coordinate ⟨arguments, [], info⟩ with
  | .ok accepted => { output := (Json.object accepted).indented ++ "\n", complaints }
  | .error failure =>
    let error := CommandError.invalidArguments coordinate failure.failures.length
    { exitCode := 1
      output := String.join (failure.failures.map failureLine)
      complaints := complaints ++ error.report }

/-- Carries out a task. -/
def carryOut (files : FileAccess m) (task : Task) : Attempt m Report := do
  let graph ← loadGraph files task.schema
  let config ← loadConfig files task.config
  match task.action with
  | .check =>
    let registry ← loadRegistry config graph
    return { output := summary registry }
  | .units output =>
    let registry ← loadRegistry config graph
    let text := (unitsDocument registry).indented
    match output with
    | none => return { output := text ++ "\n" }
    | some path =>
      match ← files.write path text with
      | .ok () => return {}
      | .error error => throw (.unwritable path error)
  | .validate field arguments =>
    let coordinate ← orFail (.noCoordinate field) (Coordinate.parse field)
    let arguments ← MonadExcept.ofExcept (parseArguments arguments)
    let registry ← loadRegistry config graph
    return verdict registry coordinate arguments

def run (files : FileAccess m) (words : List String) : m Report := do
  match Invocation.parse words with
  | .error error => return { exitCode := 2, complaints := error.message ++ "\n\n" ++ usage }
  | .ok .version => return { output := s!"{programName} {programVersion}\n" }
  | .ok .help => return { output := usage }
  | .ok (.task task) =>
    match ← (carryOut files task).run with
    | .ok report => return report
    | .error error => return { exitCode := 1, complaints := error.report }

end

end ArgGuard.Command
