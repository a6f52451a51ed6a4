import ArgGuard.Json.Decoding
import ArgGuard.JsonSchema.Reading
import ArgGuard.Schema.Dialect

/-!
# Options of a backend

Each dialect has its own options, and all of them may be missing: scalars are converted, the draft
is the seventh, and formats are asserted as the draft says.
-/

namespace ArgGuard

/-- Options for the native dialect. -/
structure NativeOptions where
  coercing : Bool := true

/-- Options for JSON Schema. -/
structure JsonSchemaOptions where
  coercing : Bool := true
  draft : JsonSchema.Draft := .draft7
  assertsFormats : Option Bool := none

/-- Options, by dialect. -/
inductive BackendOptions
  | jsonSchema (options : JsonSchemaOptions)
  | native (options : NativeOptions)

namespace NativeOptions

def fields : List (String × Json.FieldDecoder NativeOptions) :=
  [("coerce-types", fun value options =>
      return { options with coercing := ← value.decodeBool })]

/-- Reads the options. -/
def ofJson (document : Json) : Except DecodeError NativeOptions :=
  Json.decodeRecord "NativeOptions" fields {} document

end NativeOptions

namespace JsonSchemaOptions

def drafts : List (String × JsonSchema.Draft) :=
  JsonSchema.Draft.all.map fun draft => (draft.name, draft)

def fields : List (String × Json.FieldDecoder JsonSchemaOptions) :=
  [("coerce-types", fun value options =>
      return { options with coercing := ← value.decodeBool }),
    ("draft", fun value options =>
      return { options with draft := ← Json.decodeVariant drafts value }),
    ("validate-formats", fun value options =>
      return { options with assertsFormats := ← Json.decodeOptional Json.decodeBool value })]

/-- Reads the options. -/
def ofJson (document : Json) : Except DecodeError JsonSchemaOptions :=
  Json.decodeRecord "JsonSchemaOptions" fields {} document

/-- How schemas are read. -/
def reading (options : JsonSchemaOptions) : JsonSchema.Reading := ⟨options.assertsFormats⟩

end JsonSchemaOptions

namespace BackendOptions

def dialect : BackendOptions → Dialect
  | jsonSchema _ => .jsonSchema
  | native _ => .native

/-- Whether scalars are converted. -/
def coercing : BackendOptions → Bool
  | jsonSchema options => options.coercing
  | native options => options.coercing

/-- The options of a dialect that are all missing. -/
def defaults : Dialect → BackendOptions
  | .jsonSchema => jsonSchema {}
  | .native => native {}

/-- Reads the options of a dialect; `null` stands for options that are all missing. -/
def ofJson (dialect : Dialect) : Json → Except DecodeError BackendOptions
  | .null => .ok (defaults dialect)
  | document =>
    match dialect with
    | .jsonSchema => jsonSchema <$> JsonSchemaOptions.ofJson document
    | .native => native <$> NativeOptions.ofJson document

end BackendOptions

/-- The dialects by name. -/
def Dialect.named : List (String × Dialect) := [("json-schema", .jsonSchema), ("native", .native)]

/-- Reads the choice of a dialect. -/
def Dialect.ofJson (document : Json) : Except DecodeError Dialect :=
  Json.decodeVariant Dialect.named document

end ArgGuard
