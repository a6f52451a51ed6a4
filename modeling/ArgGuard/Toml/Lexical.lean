import ArgGuard.Decimal.Scan
import ArgGuard.Json.Parser
import ArgGuard.Toml.Value

/-!
# Words of configuration files

Keys, strings, numbers, dates and times. Digits may be grouped by underscores, each between two
digits. Control characters stand nowhere but for the tab, and a line ends in a line feed, with or
without a carriage return before it.
-/

namespace ArgGuard.Toml

def blanks : Reader Unit := do
  let _ ← Reader.takeWhile fun c => c == ' ' || c == '\t'

/-- The end of a line. -/
def newline : Reader Unit := Reader.char '\n' <|> Reader.literal "\r\n"

def isLineChar (c : Char) : Bool := c == '\t' || (0x20 ≤ c.toNat && c != '\x7f')

/-- A comment, if there is one. -/
def comment : Reader Unit := do
  let _ ← Reader.optional (Reader.char '#' *> Reader.takeWhile isLineChar)

/-- All that may stand between the items of a list: blanks, line ends and comments. -/
def gap : Reader Unit := do
  blanks
  let _ ← Reader.many (comment *> newline *> blanks)

/-! ### Strings -/

/-- A number of hexadecimal digits, as a character. -/
def codePoint (digits : Nat) : Reader Char := do
  let values ← (List.replicate digits Json.Parser.hexDigit).mapM fun digit => digit
  let n := values.foldl (fun n digit => n * 16 + digit) 0
  if n.isValidChar then return Char.ofNat n else Reader.fail

/-- The character after a backslash. -/
def escape : Reader Char := do
  let c ← Reader.satisfy fun _ => true
  if c = '"' ∨ c = '\\' then return c
  else if c = 'b' then return '\x08'
  else if c = 't' then return '\t'
  else if c = 'n' then return '\n'
  else if c = 'f' then return '\x0c'
  else if c = 'r' then return '\r'
  else if c = 'e' then return '\x1b'
  else if c = 'x' then codePoint 2
  else if c = 'u' then codePoint 4
  else if c = 'U' then codePoint 8
  else Reader.fail

/-- One character of a string in quotes. -/
def basicChar : Reader Char := do
  let c ← Reader.satisfy fun c => isLineChar c && c != '"'
  if c = '\\' then escape else return c

/-- A string in quotes on one line. -/
def basicString : Reader String := do
  Reader.char '"'
  let text ← Reader.many basicChar
  Reader.char '"'
  return String.ofList text

/-- A string in apostrophes on one line; a backslash is a character like others. -/
def literalString : Reader String := do
  Reader.char '\''
  let text ← Reader.takeWhile fun c => isLineChar c && c != '\''
  Reader.char '\''
  return String.ofList text

/-- A line end inside a block. -/
def blockNewline : Reader (List Char) := newline *> pure ['\n']

/-- A run of at most two quotes inside a block, which does not end it. -/
def shortRun (quote : Char) : Reader (List Char) := fun text =>
  let run := text.takeWhile (· == quote)
  if run.isEmpty || 3 ≤ run.length then none else some (run, text.drop run.length)

/-- The end of a block: three quotes, with up to two more before them. -/
def blockEnd (quote : Char) : Reader (List Char) := fun text =>
  let count := min (text.takeWhile (· == quote)).length 5
  if count < 3 then none else some (List.replicate (count - 3) quote, text.drop count)

/-- A backslash at the end of a line, which takes the blanks and line ends behind it away. -/
def continuation : Reader (List Char) := do
  Reader.char '\\'
  blanks
  newline
  let _ ← Reader.many (newline <|> do
    let _ ← Reader.takeWhile1 fun c => c == ' ' || c == '\t')
  return []

/-- A piece of a block in quotes. -/
def basicPiece : Reader (List Char) :=
  Reader.firstOf [blockNewline, shortRun '"', continuation, List.singleton <$> basicChar]

/-- A piece of a block in apostrophes. -/
def literalPiece : Reader (List Char) :=
  Reader.firstOf [blockNewline, shortRun '\'',
    List.singleton <$> Reader.satisfy fun c => isLineChar c && c != '\'']

/-- A block between triple quotes; a line end right behind the opening ones does not count. -/
def block (quote : Char) (piece : Reader (List Char)) : Reader String := do
  (List.replicate 3 quote).forM Reader.char
  let _ ← Reader.optional newline
  let pieces ← Reader.many piece
  let last ← blockEnd quote
  return String.ofList (pieces.flatten ++ last)

def string : Reader String :=
  Reader.firstOf [block '"' basicPiece, block '\'' literalPiece, basicString, literalString]

/-! ### Keys -/

/-- Characters of a key without quotes. -/
def isBareKeyChar (c : Char) : Bool := c.isAlphanum || c == '_' || c == '-'

def simpleKey : Reader String :=
  Reader.firstOf
    [String.ofList <$> Reader.takeWhile1 isBareKeyChar, basicString, literalString]

/-- How many keys may stand in one dotted key. -/
def keyLimit : Nat := 80

/-- Keys with points between them. -/
def dottedKey : Reader (List String) := do
  let keys ← Reader.sepBy1 simpleKey (blanks *> Reader.char '.' *> blanks)
  if keys.length ≤ keyLimit then return keys else Reader.fail

/-! ### Numbers -/

/-- Digits, with underscores between them. -/
def digitGroups (isDigit : Char → Bool) : Reader (List Char) :=
  List.flatten <$> Reader.sepBy1 (Reader.takeWhile1 isDigit) (Reader.char '_')

/-- The digits of a whole number; only zero itself begins with a zero. -/
def wholeDigits : Reader (List Char) := do
  let digits ← digitGroups Char.isDigit
  if digits.head? = some '0' ∧ digits.length ≠ 1 then Reader.fail else return digits

/-- A whole number of 64 bits. -/
def checkedInteger (n : Int) : Reader Value :=
  if Scan.fitsInt64 n then return .integer n else Reader.fail

def decimal : Reader Value := do
  let negative ← Scan.sign
  let n := Scan.natOfDigits (← wholeDigits)
  checkedInteger (if negative then -(n : Int) else n)

/-- A whole number in another base, behind the base's mark. -/
def based (mark : String) (base : Nat) : Reader Value := do
  Reader.literal mark
  let isDigit (c : Char) : Bool := (Json.Parser.hexValue? c).any (· < base)
  let digits ← digitGroups isDigit
  let values := digits.filterMap Json.Parser.hexValue?
  checkedInteger (values.foldl (fun n digit => n * base + digit) 0 : Nat)

def exponent : Reader Int := do
  let _ ← Reader.satisfy fun c => c == 'e' || c == 'E'
  let negative ← Scan.sign
  let n := Scan.natOfDigits (← digitGroups Char.isDigit)
  return if negative then -(n : Int) else n

/-- A double with a fraction or an exponent or both. -/
def decimalFloat : Reader Value := do
  let negative ← Scan.sign
  let whole ← wholeDigits
  let fraction ← Reader.optional (Reader.char '.' *> digitGroups Char.isDigit)
  let power ← Reader.optional exponent
  if fraction.isNone && power.isNone then Reader.fail
  let written : Scan.Written := ⟨negative, whole, fraction.getD [], power.getD 0⟩
  let x := written.toNearest
  if x.isInf then Reader.fail else return .float x

/-- Infinity and the double that is no number. -/
def specialFloat : Reader Value := do
  let negative ← Scan.sign
  let x : Float ← (Reader.literal "inf" *> pure (1.0 / 0.0)) <|>
    (Reader.literal "nan" *> pure (0.0 / 0.0))
  return .float (if negative then -x else x)

/-! ### Dates and times -/

/-- A number of exactly so many digits, between two limits. -/
def fixedDigits (count low high : Nat) : Reader (List Char) := do
  let digits ← (List.replicate count (Reader.satisfy Char.isDigit)).mapM fun digit => digit
  let n := Scan.natOfDigits digits
  if low ≤ n ∧ n ≤ high then return digits else Reader.fail

def isLeapYear (year : Nat) : Bool :=
  (year % 4 = 0 && year % 100 ≠ 0) || year % 400 = 0

def daysInMonth (year month : Nat) : Nat :=
  if month = 2 then (if isLeapYear year then 29 else 28)
  else if month = 4 || month = 6 || month = 9 || month = 11 then 30
  else 31

def date : Reader (List Char) := do
  let year ← fixedDigits 4 0 9999
  Reader.char '-'
  let month ← fixedDigits 2 1 12
  Reader.char '-'
  let day ← fixedDigits 2 1 (daysInMonth (Scan.natOfDigits year) (Scan.natOfDigits month))
  return year ++ ['-'] ++ month ++ ['-'] ++ day

def seconds : Reader (List Char) := do
  Reader.char ':'
  let whole ← fixedDigits 2 0 60
  let fraction ← Reader.optional (Reader.char '.' *> Reader.takeWhile1 Char.isDigit)
  return [':'] ++ whole ++ (fraction.map fun digits => '.' :: digits).getD []

/-- A time; the seconds may be left out. -/
def time : Reader (List Char) := do
  let hour ← fixedDigits 2 0 23
  Reader.char ':'
  let minute ← fixedDigits 2 0 59
  let rest ← Reader.optional seconds
  return hour ++ [':'] ++ minute ++ rest.getD []

def offset : Reader (List Char) := do
  let c ← Reader.satisfy fun c => c == 'Z' || c == 'z' || c == '+' || c == '-'
  if c = 'Z' ∨ c = 'z' then return ['Z']
  else
    let hour ← fixedDigits 2 0 23
    Reader.char ':'
    let minute ← fixedDigits 2 0 59
    return [c] ++ hour ++ [':'] ++ minute

/-- A date, a time, or a date with a time. -/
def datetime : Reader Value :=
  let timeBehind : Reader (List Char) := do
    let _ ← Reader.satisfy fun c => c == 'T' || c == 't' || c == ' '
    let time ← time
    let offset ← Reader.optional offset
    return ['T'] ++ time ++ offset.getD []
  let dated : Reader (List Char) := do
    let date ← date
    let rest ← Reader.optional timeBehind
    return date ++ rest.getD []
  (fun text => .datetime (String.ofList text)) <$> (dated <|> time)

/-- A value that is one word. -/
def scalar : Reader Value :=
  Reader.firstOf
    [.string <$> string,
      Reader.literal "true" *> pure (.boolean true),
      Reader.literal "false" *> pure (.boolean false),
      datetime, specialFloat, decimalFloat,
      based "0x" 16, based "0o" 8, based "0b" 2, decimal]

end ArgGuard.Toml
