import ArgGuard.Json.Members

/-!
# The command line

A command line names a command, a schema and options. An option is written `--name value`,
`--name=value`, `-n value`, `-nvalue` or `-n=value`, at most once, before or behind the schema;
after `--` everything is taken literally.
-/

namespace ArgGuard.Command

/-- What a command can do. -/
inductive Action
  | check
  | units (output : Option String)
  | validate (field arguments : String)
deriving DecidableEq, Repr

/-- A command with what it works on. -/
structure Task where
  schema : String
  config : Option String
  action : Action
deriving DecidableEq, Repr

/-- What a command line asks for. -/
inductive Invocation
  | task (task : Task)
  | version
  | help
deriving DecidableEq, Repr

/-- Why a command line cannot be carried out. -/
inductive UsageError
  | missingCommand
  | unknownCommand (name : String)
  | unexpectedArgument (text : String)
  | missingValue (option : String)
  | repeatedOption (option : String)
  | emptyPath (option : String)
  | missingArgument (name : String)
deriving DecidableEq, Repr

/-- The text of an error. -/
def UsageError.message : UsageError → String
  | missingCommand => "error: a command is required"
  | unknownCommand name => s!"error: unrecognized command '{name}'"
  | unexpectedArgument text => s!"error: unexpected argument '{text}'"
  | missingValue option => s!"error: a value is required for '--{option}'"
  | repeatedOption option => s!"error: '--{option}' cannot be used multiple times"
  | emptyPath option => s!"error: the path of '{option}' is empty"
  | missingArgument name => s!"error: '{name}' was not provided"

/-- An option of a command; every option takes a value. -/
structure CommandOption where
  name : String
  letter : Char
  isPath : Bool := true

/-- The names of the commands. -/
inductive CommandName
  | check | units | validate
deriving DecidableEq, Repr

namespace CommandName

/-- The commands as they are written. -/
def named : List (String × CommandName) :=
  [("check", check), ("units", units), ("validate", validate)]

def options : CommandName → List CommandOption
  | check => [⟨"config", 'c', true⟩]
  | units => [⟨"config", 'c', true⟩, ⟨"output", 'o', true⟩]
  | validate => [⟨"config", 'c', true⟩, ⟨"field", 'f', false⟩, ⟨"arguments", 'a', false⟩]

end CommandName

/-- One word of a command line. -/
inductive Word
  | plain (text : String)
  | long (name : String) (value : Option String)
  | short (letter : Char) (attached : List Char)
  | separator
deriving DecidableEq, Repr

/-- The form of a word. A lone dash is an ordinary word. -/
def Word.ofText (text : String) : Word :=
  match text.toList with
  | ['-', '-'] => .separator
  | '-' :: '-' :: body =>
    let value := match body.dropWhile (· != '=') with
      | [] => none
      | _ :: value => some (String.ofList value)
    .long (String.ofList (body.takeWhile (· != '='))) value
  | '-' :: letter :: attached => .short letter attached
  | _ => .plain text

/-- What is attached to the letter of an option, with or without a sign of equality. -/
def attachedValue? : List Char → Option String
  | [] => none
  | '=' :: value => some (String.ofList value)
  | value => some (String.ofList value)

/-- The schema and the options that were read. -/
structure Collected where
  schema : Option String := none
  values : Members String := []

namespace Collected

/-- Takes the schema. -/
def addSchema (collected : Collected) (text : String) : Except UsageError Collected :=
  if collected.schema.isSome then .error (.unexpectedArgument text)
  else if text.isEmpty then .error (.emptyPath "schema")
  else .ok { collected with schema := some text }

/-- Takes the value of an option. -/
def addValue (collected : Collected) (option : CommandOption) (value : String) :
    Except UsageError Collected :=
  if Members.contains collected.values option.name then .error (.repeatedOption option.name)
  else if option.isPath && value.isEmpty then .error (.emptyPath option.name)
  else .ok { collected with values := Members.set collected.values option.name value }

end Collected

/-- Reads the words behind the name of a command, after an option that awaits its value, if there is
one; `none` asks for help. -/
def collect (options : List CommandOption) :
    Option CommandOption → Collected → List String → Except UsageError (Option Collected)
  | some option, _, [] => .error (.missingValue option.name)
  | none, collected, [] => .ok (some collected)
  | some option, collected, text :: rest =>
    match Word.ofText text with
    | .plain value => do collect options none (← collected.addValue option value) rest
    | _ => .error (.missingValue option.name)
  | none, collected, text :: rest =>
    match Word.ofText text with
    | .plain schema => do collect options none (← collected.addSchema schema) rest
    | .separator => do return some (← rest.foldlM Collected.addSchema collected)
    | .long name value =>
      if name = "help" ∧ value = none then .ok none
      else
        match options.find? (·.name = name), value with
        | none, _ => .error (.unexpectedArgument text)
        | some option, some value => do
          collect options none (← collected.addValue option value) rest
        | some option, none => collect options (some option) collected rest
    | .short letter attached =>
      if letter = 'h' then .ok none
      else
        match options.find? (·.letter = letter), attachedValue? attached with
        | none, _ => .error (.unexpectedArgument text)
        | some option, some value => do
          collect options none (← collected.addValue option value) rest
        | some option, none => collect options (some option) collected rest

namespace Collected

/-- A value that has to be there. -/
def require (name : String) : Option String → Except UsageError String
  | some value => .ok value
  | none => .error (.missingArgument name)

def toTask (command : CommandName) (collected : Collected) : Except UsageError Task := do
  let value? (name : String) : Option String := Members.get? collected.values name
  let schema ← require "schema" collected.schema
  let action ← match command with
    | .check => pure .check
    | .units => pure (.units (value? "output"))
    | .validate => do
      let field ← require "field" (value? "field")
      pure (.validate field ((value? "arguments").getD "\x7b\x7d"))
  return ⟨schema, value? "config", action⟩

end Collected

/-- Reads a command line. -/
def Invocation.parse : List String → Except UsageError Invocation
  | [] => .error .missingCommand
  | text :: rest =>
    match Word.ofText text with
    | .plain name =>
      match Members.get? CommandName.named name with
      | none => .error (.unknownCommand name)
      | some command => do
        match ← collect command.options none {} rest with
        | none => return .help
        | some collected => return .task (← collected.toTask command)
    | .long "version" none => .ok .version
    | .long "help" none => .ok .help
    | .short 'V' _ => .ok .version
    | .short 'h' _ => .ok .help
    | _ => .error (.unexpectedArgument text)

end ArgGuard.Command
