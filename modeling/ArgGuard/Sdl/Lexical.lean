import ArgGuard.Graph.Definition
import ArgGuard.Json.Parser
import ArgGuard.Text.Reader

/-!
# Words of the schema language

Blanks, names, numbers and strings. Between two words any number of blanks, commas and comments may
stand, and none has to: a keyword needs no blank behind it. A name is the longest run of its
characters; a number may not run into a name.
-/

namespace ArgGuard.Sdl

def isLineEnd (c : Char) : Bool := c == '\n' || c == '\r'

/-- Characters that separate words and mean nothing; a comma is one of them. -/
def isBlank (c : Char) : Bool :=
  c == ' ' || c == ',' || c == '\t' || c == '\uFEFF' || isLineEnd c

/-- One separator: a run of blanks, or a comment up to the end of its line. -/
def separator : Reader Unit := do
  let _ ← Reader.takeWhile1 isBlank <|>
    (Reader.char '#' *> Reader.takeWhile (fun c => !isLineEnd c))

/-- Everything between two words. -/
def skip : Reader Unit := do
  let _ ← Reader.many separator

/-- A word, after all that may stand before it. -/
def word (reader : Reader α) : Reader α := skip *> reader

def mark (text : String) : Reader Unit := word (Reader.literal text)

/-- Characters that a name begins with. -/
def isNameStart (c : Char) : Bool := c.isAlpha || c == '_'

def isNameChar (c : Char) : Bool := isNameStart c || c.isDigit

/-- A name, at once. -/
def bareName : Reader String := do
  let first ← Reader.satisfy isNameStart
  let others ← Reader.takeWhile isNameChar
  return String.ofList (first :: others)

def name : Reader String := word bareName

/-- A number. One that no double can hold is an error, as is a name that begins right behind. -/
def number : Reader Number := word do
  let minus ← Reader.optional (Reader.char '-')
  let whole ← Json.Parser.wholeDigits
  let fraction ← Reader.optional Json.Parser.fractionDigits
  let exponent ← Reader.optional Scan.exponentPart
  Reader.notFollowedBy (Reader.satisfy isNameStart)
  match Json.Parser.ofWritten minus.isSome whole fraction exponent with
  | some n => return n
  | none => Reader.fail

/-- The character after a backslash in a string; half of a pair of code units is none. -/
def escape : Reader Char := do
  let c ← Reader.satisfy fun _ => true
  if c = '"' ∨ c = '\\' ∨ c = '/' then return c
  else if c = 'b' then return '\x08'
  else if c = 'f' then return '\x0c'
  else if c = 'n' then return '\n'
  else if c = 'r' then return '\r'
  else if c = 't' then return '\t'
  else if c = 'u' then
    let unit ← Json.Parser.hex4
    if 0xD800 ≤ unit ∧ unit < 0xE000 then Reader.fail else return Char.ofNat unit
  else Reader.fail

def stringChar : Reader Char := do
  let c ← Reader.satisfy fun c => c != '"' && !isLineEnd c
  if c = '\\' then escape else return c

def lineString : Reader String := do
  Reader.char '"'
  let text ← Reader.many stringChar
  Reader.char '"'
  return String.ofList text

/-- One piece of a block: a character that does not begin the closing quotes, or escaped quotes,
which are kept as they are written. -/
def blockPiece : Reader (List Char) :=
  (Reader.literal "\\\"\"\"" *> pure ['\\', '"', '"', '"']) <|>
  (do
    Reader.notFollowedBy (Reader.literal "\"\"\"")
    let c ← Reader.satisfy fun _ => true
    return [c])

def lines : List Char → List (List Char)
  | [] => [[]]
  | '\r' :: '\n' :: rest => [] :: lines rest
  | c :: rest =>
    if isLineEnd c then [] :: lines rest
    else
      match lines rest with
      | line :: others => (c :: line) :: others
      | [] => [[c]]

def isIndent (c : Char) : Bool := c == ' ' || c == '\t'

/-- Whether a line is more than indentation. -/
def hasContent (line : List Char) : Bool := line.any fun c => !isIndent c

/-- The indentation that all lines but the first have in common; empty lines do not count. -/
def commonIndent (text : List (List Char)) : Nat :=
  let indents := (text.drop 1).filter hasContent |>.map fun line => (line.takeWhile isIndent).length
  indents.min?.getD 0

/-- Takes off an indentation; a line that is too short for it is left as it is. -/
def shiftLine (indent : Nat) (line : List Char) : List Char :=
  if indent ≤ line.length then line.drop indent else line

/-- Takes off the common indentation, then the empty lines at both ends. -/
def dedent (text : List (List Char)) : List (List Char) :=
  let indent := commonIndent text
  let shifted := match text with
    | [] => []
    | first :: others => first :: others.map (shiftLine indent)
  let trimmed := shifted.dropWhile fun line => !hasContent line
  (trimmed.reverse.dropWhile fun line => !hasContent line).reverse

/-- A string in triple quotes. -/
def blockString : Reader String := do
  Reader.literal "\"\"\""
  let pieces ← Reader.many blockPiece
  Reader.literal "\"\"\""
  return "\n".intercalate ((dedent (lines pieces.flatten)).map String.ofList)

def string : Reader String := word (blockString <|> lineString)

/-- A type; no blank may stand inside. -/
def bareType : Nat → Reader TypeRef
  | 0 => Reader.fail
  | fuel + 1 => fun text =>
    let base : Reader (Bool → TypeRef) :=
      (TypeRef.named <$> bareName) <|>
      (TypeRef.list <$> (Reader.char '[' *> bareType fuel <* Reader.char ']'))
    (do
      let build ← base
      let bang ← Reader.optional (Reader.char '!')
      return build bang.isSome : Reader TypeRef) text

def typeRef : Reader TypeRef := word fun text => bareType (text.length + 1) text

end ArgGuard.Sdl
