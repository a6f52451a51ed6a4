import ArgGuard.JsonSchema.Format
import ArgGuard.JsonSchema.Value
import ArgGuard.Json.Parser
import ArgGuard.Json.Pointer
import ArgGuard.Json.Printer
import ArgGuard.Text.Base64
import ArgGuard.Text.Utf8

/-!
# Assertions

An assertion looks at one document and not into it: its type, its value, its length or its names.
It has nothing to say about documents of another kind than the one it is for. What it finds wrong is
a violation, whose text names the document.
-/

namespace ArgGuard.JsonSchema

/-- A limit that a number breaks. -/
inductive Bound
  | minimum | maximum | exclusiveMinimum | exclusiveMaximum
deriving DecidableEq, Repr

namespace Bound

def words : Bound → String
  | minimum => "is less than the minimum of"
  | maximum => "is greater than the maximum of"
  | exclusiveMinimum => "is less than or equal to the minimum of"
  | exclusiveMaximum => "is greater than or equal to the maximum of"

/-- Whether a number that compares so with the limit is on its right side. -/
def admits : Bound → Ordering → Bool
  | minimum, order => order != .lt
  | maximum, order => order != .gt
  | exclusiveMinimum, order => order == .gt
  | exclusiveMaximum, order => order == .lt

end Bound

/-- What there is a number of. -/
inductive Countable
  | characters | items | properties
deriving DecidableEq, Repr

namespace Countable

/-- The word for one of them, or for several. -/
def word (things : Countable) (count : Nat) : String :=
  match things, count with
  | characters, 1 => "character"
  | characters, _ => "characters"
  | items, 1 => "item"
  | items, _ => "items"
  | properties, 1 => "property"
  | properties, _ => "properties"

/-- How many of them a document has, if it is of the kind that has them. -/
def count? : Countable → Json → Option Nat
  | characters, .string s => some s.length
  | items, .array values => some values.length
  | properties, .object members => some members.length
  | _, _ => none

def fewWords : Countable → String
  | characters => "is shorter than"
  | items | properties => "has less than"

def manyWords : Countable → String
  | characters => "is longer than"
  | items | properties => "has more than"

end Countable

/-- What is wrong with a document. -/
inductive Violation
  | wrongType (type : TypeName)
  | noneOfTypes (types : List TypeName)
  | notAmong (values : List Json)
  | notConstant (value : Json)
  | tooFew (things : Countable) (least : Nat)
  | tooMany (things : Countable) (most : Nat)
  | outOfBounds (bound : Bound) (limit : Number)
  | notMultiple (divisor : Float)
  | noMatch (pattern : String)
  | gaveUp
  | notOfFormat (format : Format)
  | repeatedItems
  | missingProperty (name : String)
  | unexpectedProperties (names : List String)
  | unexpectedItems (items : List Json)
  | unevaluatedProperties (names : List String)
  | unevaluatedItems (items : List Json)
  | notEncoded
  | notJson
  | notText (fault : Utf8.Fault)
  | refused
  | nothingContained
  | noneOf (keyword : String)
  | severalOf (keyword : String)
  | excluded (schema : Json)
deriving Inhabited

namespace Violation

/-- Was or were, by number. -/
def wasOrWere (count : Nat) : String := if count = 1 then "was" else "were"

/-- Values with commas, and an `or` before the last one. -/
def alternatives : List String → String
  | [] => ""
  | [only] => only
  | [first, last] => first ++ " or " ++ last
  | first :: rest => first ++ ", " ++ alternatives rest

/-- Up to three values are listed; of more, two and the number of the others. -/
def candidates (values : List Json) : String :=
  if values.length ≤ 3 then alternatives (values.map Json.compact)
  else
    ", ".intercalate ((values.take 2).map Json.compact)
      ++ s!" or {values.length - 2} other candidates"

def quoted (word : String) : String := "\"" ++ word ++ "\""

/-- What is unexpected, in single quotes. -/
def unexpected (things : List String) : String :=
  "(" ++ ", ".intercalate (things.map fun thing => "'" ++ thing ++ "'")
    ++ s!" {wasOrWere things.length} unexpected)"

/-- The text of a violation by a document. -/
def message (value : Json) : Violation → String
  | wrongType type => value.compact ++ " is not of type " ++ quoted type.word
  | noneOfTypes types =>
    value.compact ++ " is not of types " ++ ", ".intercalate (types.map (quoted ·.word))
  | notAmong values => value.compact ++ " is not one of " ++ candidates values
  | notConstant wanted => wanted.compact ++ " was expected"
  | tooFew things least =>
    s!"{value.compact} {things.fewWords} {least} {things.word least}"
  | tooMany things most =>
    s!"{value.compact} {things.manyWords} {most} {things.word most}"
  | outOfBounds bound limit =>
    s!"{value.compact} {bound.words} {Json.numberText limit}"
  | notMultiple divisor =>
    s!"{value.compact} is not a multiple of {RealLayout.plain.text divisor}"
  | noMatch pattern => value.compact ++ " does not match " ++ quoted pattern
  | gaveUp => "Error executing regex: Max limit for backtracking count exceeded"
  | notOfFormat format => value.compact ++ " is not a " ++ quoted format.name
  | repeatedItems => value.compact ++ " has non-unique elements"
  | missingProperty name => Json.quote name ++ " is a required property"
  | unexpectedProperties names =>
    "Additional properties are not allowed " ++ unexpected names
  | unexpectedItems items =>
    "Additional items are not allowed (" ++ ", ".intercalate (items.map Json.compact)
      ++ s!" {wasOrWere items.length} unexpected)"
  | unevaluatedProperties names =>
    "Unevaluated properties are not allowed " ++ unexpected names
  | unevaluatedItems items =>
    "Unevaluated items are not allowed " ++ unexpected (items.map Json.compact)
  | notEncoded => value.compact ++ " is not compliant with \"base64\" content encoding"
  | notJson => value.compact ++ " is not compliant with \"application/json\" media type"
  | notText fault => fault.message
  | refused => "False schema does not allow " ++ value.compact
  | nothingContained => s!"None of {value.compact} are valid under the given schema"
  | noneOf keyword =>
    s!"{value.compact} is not valid under any of the schemas listed in the '{keyword}' keyword"
  | severalOf keyword =>
    s!"{value.compact} is valid under more than one of the schemas listed in the " ++
      s!"'{keyword}' keyword"
  | excluded schema => s!"{schema.compact} is not allowed for {value.compact}"

end Violation

/-- A violation, the document it is about, and where that stands. -/
structure Failure where
  path : Pointer
  value : Json
  violation : Violation

namespace Failure

/-- A failure of the document itself. -/
def here (value : Json) (violation : Violation) : Failure := ⟨[], value, violation⟩

/-- The failure seen from the container. Bytes that are no text have no place in the document. -/
def under (step : String) (failure : Failure) : Failure :=
  match failure.violation with
  | .notText _ => failure
  | _ => { failure with path := step :: failure.path }

def report (failure : Failure) : ValueFailure :=
  ⟨failure.path, failure.violation.message failure.value⟩

end Failure

/-- What a schema asserts of a document without looking into it. -/
inductive Assertion
  | ofType (type : TypeName) (wide : Bool)
  | ofTypes (types : List TypeName)
  | among (values : List Json)
  | constant (value : Json)
  | atLeast (things : Countable) (least : Nat)
  | atMost (things : Countable) (most : Nat)
  | bounded (bound : Bound) (limit : Number)
  | multipleOf (divisor : Float)
  | pattern (text : String) (matcher : Pattern)
  | format (named : Format)
  | distinctItems
  | required (names : List String)
  | requiredWith (name : String) (names : List String)
  | noProperties
  | noPropertyNames
  | noItemsFrom (count : Nat)
  /-- A text that writes bytes. -/
  | encoded
  /-- A text that is a document. -/
  | json
  /-- A text that writes the bytes of a document. -/
  | encodedJson

/-- A power of ten by repeated squaring in doubles: `result · base ^ exponent`. -/
def powerOfTen : Nat → Float → Float → Nat → Float
  | 0, result, _, _ => result
  | fuel + 1, result, base, exponent =>
    let result := if exponent % 2 = 1 then result * base else result
    if exponent / 2 = 0 then result else powerOfTen fuel result (base * base) (exponent / 2)

/-- The distance from one to the next double. Two numbers that are closer to each other count as
equal where doubles are compared. -/
def doubleStep : Float := Float.ofScientific 2220446049250313 true 31

/-- Whether a double that is not negative has nothing behind its point, or less than counts. -/
def countsAsWhole (x : Float) (exact : Binary64) : Bool := exact.isIntegral || x < doubleStep

/-- A double that is not negative as a fraction: multiplied by the first power of ten that leaves
nothing behind its point, over that power. The product is rounded, so the fraction need not be the
decimal that the double was read from. -/
def decimalFraction (x : Float) : Nat → Nat → Nat × Nat
  | 0, _ => (0, 1)
  | fuel + 1, power =>
    let scale := powerOfTen 10 1.0 10.0 power
    let scaled := x * scale
    match Binary64.ofFloat scaled, Binary64.ofFloat scale with
    | some exact, some divisor =>
      if countsAsWhole scaled exact then (exact.wholePart, divisor.wholePart)
      else decimalFraction x fuel (power + 1)
    | _, _ => (0, 1)

/-- Whether the quotient of two fractions is whole. Nothing is said about a quotient by zero. -/
def isWholeQuotient (value divisor : Nat × Nat) : Bool :=
  divisor.1 = 0 || value.1 * divisor.2 % (value.2 * divisor.1) == 0

/-- Whether the mantissas of two integral doubles divide, sign aside. -/
def isIntegralMultiple (x divisor : Binary64) : Bool :=
  x.isIntegral && x.wholePart % divisor.wholePart == 0

/-- Whether a number is a multiple. A divisor with a fraction admits zero, but nothing that is
smaller than itself. -/
def isMultiple (n : Number) (divisor : Float) : Bool :=
  let x := n.toFloat
  match Binary64.ofFloat x, Binary64.ofFloat divisor with
  | some value, some exact =>
    if exact.isIntegral then isIntegralMultiple value exact
    else x == 0.0 ||
      (!(x < divisor) && isWholeQuotient (decimalFraction x 400 0) (decimalFraction divisor 400 0))
  | _, _ => true

/-- Whether a document is the wanted one. Numbers are compared as doubles, and a small difference
does not count. -/
def isConstant (wanted value : Json) : Bool :=
  match wanted, value with
  | .number a, .number b =>
    let difference := a.toFloat - b.toFloat
    difference < doubleStep && (-doubleStep) < difference
  | _, _ => wanted.equal value

namespace Assertion

/-- A violation where a condition fails. -/
def checked (holds : Bool) (violation : Violation) : List Violation :=
  if holds then [] else [violation]

/-- The names that an object lacks. -/
def missing (names : List String) (members : Members Json) : List Violation :=
  (names.filter fun name => !Members.contains members name).map .missingProperty

/-- What is wrong with a text in which a pattern was sought. -/
def checkPattern (pattern : String) : Option Bool → List Violation
  | some found => checked found (.noMatch pattern)
  | none => [.gaveUp]

/-- What is wrong with a text that should be a document. -/
def checkJson (text : String) : List Violation := checked (Json.parse text).isSome .notJson

/-- What is wrong with a text that should write the bytes of a document. -/
def checkEncodedJson (text : String) : List Violation :=
  match Base64.decode? text.toList with
  | none => [.notEncoded]
  | some bytes =>
    match Utf8.fault? bytes with
    | some fault => [.notText fault]
    | none => checkJson ((String.fromUTF8? ⟨bytes.toArray⟩).getD "")

/-- What an assertion finds wrong. -/
def violations : Assertion → Json → List Violation
  | ofType type wide, value => checked (type.holds wide value) (.wrongType type)
  | ofTypes types, value => checked (types.any (·.holds false value)) (.noneOfTypes types)
  | among values, value => checked (values.any (·.equal value)) (.notAmong values)
  | constant wanted, value => checked (isConstant wanted value) (.notConstant wanted)
  | atLeast things least, value =>
    checked ((things.count? value).all (least ≤ ·)) (.tooFew things least)
  | atMost things most, value =>
    checked ((things.count? value).all (· ≤ most)) (.tooMany things most)
  | bounded bound limit, .number n =>
    checked (bound.admits (n.compareValue limit)) (.outOfBounds bound limit)
  | multipleOf divisor, .number n => checked (isMultiple n divisor) (.notMultiple divisor)
  | pattern text matcher, .string s => checkPattern text (matcher.seek s)
  | format named, .string s => checked (named.holds s) (.notOfFormat named)
  | distinctItems, .array items => checked (Json.areDistinct items) .repeatedItems
  | required names, .object members => missing names members
  | requiredWith name names, .object members =>
    if Members.contains members name then missing names members else []
  | noPropertyNames, .object members => checked members.isEmpty .refused
  | noItemsFrom count, .array items =>
    checked (items.length ≤ count) (.unexpectedItems (items.drop count))
  | encoded, .string s => checked (Base64.decode? s.toList).isSome .notEncoded
  | json, .string s => checkJson s
  | encodedJson, .string s => checkEncodedJson s
  | _, _ => []

/-- The failures of a document. An object that must have no properties is reported with the value of
its first one. -/
def failures (assertion : Assertion) (value : Json) : List Failure :=
  match assertion, value with
  | noProperties, .object ((_, first) :: _) => [.here first .refused]
  | _, _ => (assertion.violations value).map (.here value)

end Assertion

end ArgGuard.JsonSchema
