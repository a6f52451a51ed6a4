import ArgGuard.Decimal.Scan
import ArgGuard.Json.Basic
import ArgGuard.Text.Reader

/-!
# Reading documents

The grammar of JSON, nothing more: blanks are space, tab and line ends; a whole number that fits
64 bits is kept as one, every other number becomes a double; a repeated member keeps its first
place and its last value; containers nest less than 128 deep.
-/

namespace ArgGuard.Json


namespace Parser

def blanks : Reader Unit := do
  let _ ← Reader.takeWhile fun c => c == ' ' || c == '\t' || c == '\n' || c == '\r'

def hexValue? (c : Char) : Option Nat :=
  if c.isDigit then some (c.toNat - '0'.toNat)
  else if 'a' ≤ c ∧ c ≤ 'f' then some (c.toNat - 'a'.toNat + 10)
  else if 'A' ≤ c ∧ c ≤ 'F' then some (c.toNat - 'A'.toNat + 10)
  else none

def hexDigit : Reader Nat
  | [] => none
  | c :: rest => (hexValue? c).map fun value => (value, rest)

def hex4 : Reader Nat := do
  let a ← hexDigit
  let b ← hexDigit
  let c ← hexDigit
  let d ← hexDigit
  return ((a * 16 + b) * 16 + c) * 16 + d

/-- The character after `\u`: a code unit, or two of them for a character beyond the first plane.
Half a pair is no character. -/
def unicodeEscape : Reader Char := do
  let unit ← hex4
  if 0xD800 ≤ unit ∧ unit < 0xDC00 then
    Reader.literal "\\u"
    let second ← hex4
    if 0xDC00 ≤ second ∧ second < 0xE000 then
      return Char.ofNat (0x10000 + (unit - 0xD800) * 0x400 + (second - 0xDC00))
    else Reader.fail
  else if 0xDC00 ≤ unit ∧ unit < 0xE000 then Reader.fail
  else return Char.ofNat unit

/-- The character after a backslash. -/
def escape : Reader Char := do
  let c ← Reader.satisfy fun _ => true
  if c = '"' ∨ c = '\\' ∨ c = '/' then return c
  else if c = 'b' then return '\x08'
  else if c = 'f' then return '\x0c'
  else if c = 'n' then return '\n'
  else if c = 'r' then return '\r'
  else if c = 't' then return '\t'
  else if c = 'u' then unicodeEscape
  else Reader.fail

/-- One character of a string: no quote, no bare control character. -/
def stringChar : Reader Char := do
  let c ← Reader.satisfy fun c => c != '"' && 0x20 ≤ c.toNat
  if c = '\\' then escape else return c

def string : Reader String := do
  Reader.char '"'
  let text ← Reader.many stringChar
  Reader.char '"'
  return String.ofList text

/-- The digits before the point: a zero stands alone. -/
def wholeDigits : Reader (List Char) := do
  let first ← Reader.satisfy Char.isDigit
  if first = '0' then return ['0']
  else
    let others ← Reader.takeWhile Char.isDigit
    return first :: others

/-- The digits after a point. -/
def fractionDigits : Reader (List Char) := do
  Reader.char '.'
  Reader.takeWhile1 Char.isDigit

/-- The number that was written: a whole number of 64 bits if it has only digits and is not `-0`,
else a double. -/
def ofWritten (negative : Bool) (whole : List Char) (fraction : Option (List Char))
    (exponent : Option Int) : Option Number :=
  let n := Scan.natOfDigits whole
  if fraction.isNone && exponent.isNone && !negative && n < Nat.pow 2 64 then some (.integer n)
  else if fraction.isNone && exponent.isNone && negative && n ≠ 0 && n ≤ Nat.pow 2 63 then
    some (.integer (-n))
  else
    let written : Scan.Written := ⟨negative, whole, fraction.getD [], exponent.getD 0⟩
    written.toScaled?.map .real

/-- Where a point or an exponent begins, it has to be complete. -/
def whereBegun (begins : Char → Bool) (reader : Reader α) : Reader (Option α) := do
  match ← Reader.peek with
  | some c => if begins c then some <$> reader else return none
  | none => return none

def number : Reader Number := do
  let minus ← Reader.optional (Reader.char '-')
  let whole ← wholeDigits
  let fraction ← whereBegun (· == '.') fractionDigits
  let exponent ← whereBegun (fun c => c == 'e' || c == 'E') Scan.exponentPart
  match ofWritten minus.isSome whole fraction exponent with
  | some n => return n
  | none => Reader.fail

/-- Items between brackets, separated by commas. -/
def listBetween (opening closing : Char) (item : Reader α) : Reader (List α) := do
  Reader.char opening
  blanks
  let items ← Reader.optional (Reader.sepBy1 (item <* blanks) (Reader.char ',' *> blanks))
  Reader.char closing
  return items.getD []

/-- A document whose containers nest less than `depth` deep. -/
def document : Nat → Reader Json
  | 0 => Reader.fail
  | depth + 1 => do
    match ← Reader.peek with
    | none => Reader.fail
    | some c =>
      if c = '"' then Json.string <$> string
      else if c = '[' then
        if depth = 0 then Reader.fail
        else Json.array <$> listBetween '[' ']' (document depth)
      else if c = '\x7b' then
        if depth = 0 then Reader.fail
        else
          let member : Reader (String × Json) := do
            let name ← string
            blanks
            Reader.char ':'
            blanks
            let value ← document depth
            return (name, value)
          (fun pairs => Json.object (Members.ofList pairs)) <$> listBetween '\x7b' '\x7d' member
      else if c = 'n' then Reader.literal "null" *> pure Json.null
      else if c = 't' then Reader.literal "true" *> pure (Json.bool true)
      else if c = 'f' then Reader.literal "false" *> pure (Json.bool false)
      else Json.number <$> number

/-- How deep containers may nest. -/
def depthLimit : Nat := 128

end Parser

/-- Reads one document with blanks around it. -/
def parse (text : String) : Option Json :=
  Reader.parseAll (Parser.blanks *> Parser.document Parser.depthLimit <* Parser.blanks) text

end ArgGuard.Json
