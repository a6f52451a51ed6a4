import ArgGuard.Internet.Identifier
import ArgGuard.Internet.Mailbox
import ArgGuard.JsonSchema.Draft
import ArgGuard.JsonSchema.Moment
import ArgGuard.JsonSchema.ScriptPattern

/-!
# Formats of JSON Schema

What the keyword `format` asserts of a text. A format that the draft does not know asserts nothing.
Formats that are plain grammars are patterns.
-/

namespace ArgGuard.JsonSchema

/-- The formats that are known. -/
inductive Format
  | date | time | dateTime | duration
  | email | idnEmail | hostname | idnHostname
  | ipv4 | ipv6
  | uri | uriReference | iri | iriReference | uriTemplate
  | jsonPointer | relativeJsonPointer
  | regex | uuid
deriving DecidableEq, Repr

namespace Format

/-- The name of a format and the first draft that knows it. -/
def entry : Format → String × Draft
  | date => ("date", .draft4)
  | time => ("time", .draft4)
  | dateTime => ("date-time", .draft4)
  | duration => ("duration", .draft2019)
  | email => ("email", .draft4)
  | idnEmail => ("idn-email", .draft4)
  | hostname => ("hostname", .draft4)
  | idnHostname => ("idn-hostname", .draft7)
  | ipv4 => ("ipv4", .draft4)
  | ipv6 => ("ipv6", .draft4)
  | uri => ("uri", .draft4)
  | uriReference => ("uri-reference", .draft6)
  | iri => ("iri", .draft7)
  | iriReference => ("iri-reference", .draft7)
  | uriTemplate => ("uri-template", .draft6)
  | jsonPointer => ("json-pointer", .draft6)
  | relativeJsonPointer => ("relative-json-pointer", .draft7)
  | regex => ("regex", .draft4)
  | uuid => ("uuid", .draft2019)

def all : List Format :=
  [date, time, dateTime, duration, email, idnEmail, hostname, idnHostname, ipv4, ipv6, uri,
    uriReference, iri, iriReference, uriTemplate, jsonPointer, relativeJsonPointer, regex, uuid]

def name (format : Format) : String := format.entry.1

/-- The format of a name, if the draft knows it. -/
def ofName? (draft : Draft) (name : String) : Option Format :=
  all.find? fun format => format.name = name && draft.since format.entry.2

/-! ### Grammars -/

def hasPattern (pattern text : String) : Bool :=
  (Pattern.parse? pattern).any (·.search text)

def templatePattern : String :=
  let name := "(?:[a-z0-9_]|%[0-9a-f][0-9a-f])+(?::[1-9][0-9]?[0-9]?[0-9]?|\\*)?"
  "^(?:[^\\x00-\\x20\"'<>%\\\\^`\\\x7b|\\\x7d]|%[0-9a-f][0-9a-f]|\\\x7b[+#./;?&=,!@|]?" ++ name
    ++ "(?:," ++ name ++ ")*\\\x7d)*$"

def pointerPattern : String := "^(?:/(?:[^/~]|~[01])*)*$"

/-- The pattern of a pointer that starts from a place. -/
def relativePointerPattern : String := "^(?:0|[1-9][0-9]*)(?:#|(?:/(?:[^/~]|~[01])*)*)$"

/-- The pattern of a span of time. -/
def durationPattern : String :=
  "^P(?:[0-9]+W|(?:[0-9]+Y)?(?:[0-9]+M)?(?:[0-9]+D)?(?:T(?:[0-9]+H)?(?:[0-9]+M)?(?:[0-9]+S)?)?)$"

/-- A span of time has a part, and one behind the `T` if there is a `T`. -/
def isDuration (text : String) : Bool :=
  hasPattern durationPattern text && (text.toList.getLast?.any fun c => c != 'P' && c != 'T')

/-- Five groups of hexadecimal digits. -/
def isUuid (text : List Char) : Bool :=
  let groups := Fields.ofText '-' text
  groups.map List.length = [8, 4, 4, 4, 12]
    && groups.all (·.all Internet.Address.isHexDigit)

open Internet in
def holds (format : Format) (text : String) : Bool :=
  match format with
  | date => Moment.isDate text.toList
  | time => Moment.isTime text.toList
  | dateTime => Moment.isDateTime text.toList
  | duration => isDuration text
  | email => Mailbox.holds DomainName.isPlain text.toList
  | idnEmail => Mailbox.holds DomainName.isInternational text.toList
  | hostname => DomainName.isPlain text.toList
  | idnHostname => DomainName.isInternational text.toList
  | ipv4 => Address.isFourOctets text.toList
  | ipv6 => Address.isEightGroups text.toList
  | uri => Identifier.isAbsolute false text.toList
  | uriReference => Identifier.isReference false text.toList
  | iri => Identifier.isAbsolute true text.toList
  | iriReference => Identifier.isReference true text.toList
  | uriTemplate => hasPattern templatePattern text
  | jsonPointer => hasPattern pointerPattern text
  | relativeJsonPointer => hasPattern relativePointerPattern text
  | regex => (ScriptPattern.expand? text).isSome
  | uuid => isUuid text.toList

end Format

end ArgGuard.JsonSchema
