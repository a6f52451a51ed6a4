import ArgGuard.Sdl.Lexical

/-!
# Constants of the schema language

Constants are read as JSON documents. The alternatives are tried in a fixed order and the first
that reads something is final, so `true`, `false` and `null` are found at the front of any longer
name, which then is no constant.
-/

namespace ArgGuard.Sdl

/-- The words that are not names of enumeration values, not even at the front of one. -/
def reservedWord : Reader Json := word (Reader.firstOf
  [Reader.literal "true" *> pure (Json.bool true),
   Reader.literal "false" *> pure (Json.bool false),
   Reader.literal "null" *> pure Json.null])

def enumerationValue : Reader String := do
  skip
  Reader.notFollowedBy reservedWord
  bareName

/-- A constant whose lists and objects nest less than `fuel` deep. -/
def constantBelow : Nat → Reader Json
  | 0 => Reader.fail
  | fuel + 1 =>
    let listed : Reader Json := do
      mark "["
      let items ← Reader.many (constantBelow fuel)
      mark "]"
      return Json.array items
    let entry : Reader (String × Json) := do
      let key ← name
      mark ":"
      let value ← constantBelow fuel
      return (key, value)
    let keyed : Reader Json := do
      mark "\x7b"
      let entries ← Reader.many entry
      mark "\x7d"
      return Json.object (Members.ofList entries)
    Reader.firstOf
      [Json.number <$> number, Json.string <$> string, reservedWord,
       Json.string <$> enumerationValue, listed, keyed]

def constant : Reader Json := fun text => constantBelow (text.length + 1) text

def directive : Reader Directive := do
  mark "@"
  let directiveName ← name
  let argument : Reader (String × Json) := do
    let key ← name
    mark ":"
    let value ← constant
    return (key, value)
  let arguments ← Reader.optional (mark "(" *> Reader.many1 argument <* mark ")")
  return ⟨directiveName, arguments.getD []⟩

/-- Directives, at least one. -/
def directives1 : Reader (List Directive) := Reader.many1 directive

/-- Directives, if there are any. -/
def directives : Reader (List Directive) := do
  return (← Reader.optional directives1).getD []

end ArgGuard.Sdl
