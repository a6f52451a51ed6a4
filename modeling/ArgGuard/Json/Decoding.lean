import ArgGuard.Json.Printer
import ArgGuard.Unicode.Property

/-!
# Strict readings of documents

Options are read from documents of a fixed form, and a document of another form is described: what
was found, and what was expected in its place. A record is read from an object, key by key, or from
a list that has its fields in order; a choice is read from its name, or from an object whose only
member has that name and holds `null`.
-/

namespace ArgGuard

/-- Why a document cannot be read. -/
inductive DecodeError
  | wrongType (found : Json) (expected : String)
  | unknownField (name : String) (known : List String)
  | unknownVariant (name : String) (known : List String)
  | notSingleKey
  | tooManyItems (count : Nat)

namespace DecodeError

/-- The hexadecimal digits of a number, without leading zeros. -/
def hexDigits (n : Nat) : List Char := Nat.toDigits 16 n

/-- Characters without a shape of their own: those that join the one before them, separators but
for the blank, controls, and what is not assigned. -/
def isUnseen (c : Char) : Bool :=
  Unicode.Property.graphemeExtend.holds c.toNat ||
    match Unicode.Category.of? c.toNat with
    | none => true
    | some category =>
      [.control, .format, .privateUse, .lineSeparator, .paragraphSeparator].contains category
        || (category == .spaceSeparator && c != ' ')

/-- A character in a description of a text. Characters that cannot be seen are written by their
number. -/
def describedChar (c : Char) : List Char :=
  if c = '"' then ['\\', '"']
  else if c = '\\' then ['\\', '\\']
  else if c = '\t' then ['\\', 't']
  else if c = '\n' then ['\\', 'n']
  else if c = '\r' then ['\\', 'r']
  else if c.toNat = 0 then ['\\', '0']
  else if isUnseen c then
    ['\\', 'u', '\x7b'] ++ hexDigits c.toNat ++ ['\x7d']
  else [c]

def describedText (text : String) : String :=
  "\"" ++ String.ofList (text.toList.flatMap describedChar) ++ "\""

/-- What a document is, in a description. -/
def described : Json → String
  | .null => "null"
  | .bool b => if b then "boolean `true`" else "boolean `false`"
  | .number (.integer n) => s!"integer `{n}`"
  | .number (.real x) => s!"floating point `{Json.realLayout.text x}`"
  | .string s => "string " ++ describedText s
  | .array _ => "sequence"
  | .object _ => "map"

/-- The names that could have stood there. -/
def alternatives (names : List String) : String :=
  match names.map fun name => "`" ++ name ++ "`" with
  | [] => "there are none"
  | [only] => "expected " ++ only
  | [first, second] => "expected " ++ first ++ " or " ++ second
  | several => "expected one of " ++ ", ".intercalate several

/-- The text of an error. -/
def message : DecodeError → String
  | wrongType found expected => s!"invalid type: {described found}, expected {expected}"
  | unknownField name known => s!"unknown field `{name}`, {alternatives known}"
  | unknownVariant name known => s!"unknown variant `{name}`, {alternatives known}"
  | notSingleKey => "invalid value: map, expected map with a single key"
  | tooManyItems count => s!"invalid length {count}, expected fewer elements in array"

end DecodeError

namespace Json

/-- A truth value. -/
def decodeBool : Json → Except DecodeError Bool
  | bool b => .ok b
  | other => .error (.wrongType other "a boolean")

/-- A value that may be absent. -/
def decodeOptional (decode : Json → Except DecodeError α) : Json → Except DecodeError (Option α)
  | null => .ok none
  | other => some <$> decode other

/-- The choice of a name. -/
def chooseVariant (named : List (String × α)) (name : String) : Except DecodeError α :=
  match Members.get? named name with
  | some value => .ok value
  | none => .error (.unknownVariant name (Members.names named))

/-- A choice between names. -/
def decodeVariant (named : List (String × α)) : Json → Except DecodeError α
  | string name => chooseVariant named name
  | object [(name, content)] => do
    let value ← chooseVariant named name
    match content with
    | null => return value
    | other => throw (.wrongType other "unit")
  | object _ => .error .notSingleKey
  | other => .error (.wrongType other "string or map")

/-- How one field of a record is read into it. -/
abbrev FieldDecoder (ρ : Type) := Json → ρ → Except DecodeError ρ

/-- Reads a record; fields that are missing keep what `defaults` has. -/
def decodeRecord (name : String) (fields : List (String × FieldDecoder ρ)) (defaults : ρ) :
    Json → Except DecodeError ρ
  | object members =>
    members.foldlM
      (fun record (key, value) =>
        match Members.get? fields key with
        | some decode => decode value record
        | none => .error (.unknownField key (Members.names fields)))
      defaults
  | array items => do
    let record ← (fields.zip items).foldlM
      (fun record ((_, decode), value) => decode value record) defaults
    if fields.length < items.length then throw (.tooManyItems items.length)
    return record
  | other => .error (.wrongType other s!"struct {name}")

end Json

end ArgGuard
