import ArgGuard.Pattern.Meaning

/-!
# Formats of text

The named formats that a shape can ask for. Each is given by a pattern, whose digits and blanks are
those of every script.
-/

namespace ArgGuard

/-- A named format. -/
inductive TextFormat
  | email | uuid | date | dateTime | uri
deriving DecidableEq, Repr

namespace TextFormat

def name : TextFormat → String
  | email => "email"
  | uuid => "uuid"
  | date => "date"
  | dateTime => "date-time"
  | uri => "uri"

def ofName? (name : String) : Option TextFormat :=
  if name = "email" then some email
  else if name = "uuid" then some uuid
  else if name = "date" then some date
  else if name = "date-time" then some dateTime
  else if name = "uri" then some uri
  else none

def datePattern : String :=
  "\\d\x7b4\x7d-(0[1-9]|1[0-2])-(0[1-9]|[12]\\d|3[01])"

/-- The pattern of a time of the day, without seconds. -/
def clockPattern : String := "([01]\\d|2[0-3]):[0-5]\\d"

/-- The pattern of one group of a UUID. -/
def hexPattern (count : String) : String := "[0-9a-fA-F]\x7b" ++ count ++ "\x7d"

def pattern : TextFormat → String
  | email => "^[^@\\s]+@[^@\\s]+\\.[^@\\s]+$"
  | uuid => "^" ++ "-".intercalate (["8", "4", "4", "4", "12"].map hexPattern) ++ "$"
  | date => "^" ++ datePattern ++ "$"
  | dateTime =>
    "^" ++ datePattern ++ "[Tt ]" ++ clockPattern ++ ":[0-5]\\d(\\.\\d+)?([Zz]|[+-]"
      ++ clockPattern ++ ")$"
  | uri => "^[a-zA-Z][a-zA-Z0-9+.-]*:\\S+$"

def holds (format : TextFormat) (text : String) : Bool :=
  (Pattern.parse? format.pattern).any (·.search text)

end TextFormat

end ArgGuard
