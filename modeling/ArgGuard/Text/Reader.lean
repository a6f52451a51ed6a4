/-!
# Readers

A reader takes characters from the front of a text and answers with a value and the rest, or with
nothing. Sequencing and choice come from the monad: a failed alternative gives back the text it
started from, and the first alternative that succeeds is final. Repetition runs at most as often
as there are characters, so every reader is total.
-/

namespace ArgGuard

/-- Reads a value from the front of a text. -/
abbrev Reader := StateT (List Char) Option

namespace Reader

variable {α β : Type}

/-- Reads nothing from any text. -/
def fail : Reader α := fun _ => none

/-- The next character, left in place. -/
def peek : Reader (Option Char) := fun text => some (text.head?, text)

/-- What is left of the text. -/
def rest : Reader (List Char) := get

/-- The next character, if it passes the test. -/
def satisfy (test : Char → Bool) : Reader Char
  | [] => none
  | c :: rest => if test c then some (c, rest) else none

def char (c : Char) : Reader Unit := do
  let _ ← satisfy (· == c)

/-- A given text. -/
def literal (text : String) : Reader Unit :=
  text.toList.forM char

/-- The longest run of characters that pass the test. -/
def takeWhile (test : Char → Bool) : Reader (List Char) := fun text =>
  some (text.takeWhile test, text.dropWhile test)

/-- A run of at least one character. -/
def takeWhile1 (test : Char → Bool) : Reader (List Char) := do
  let first ← satisfy test
  let others ← takeWhile test
  return first :: others

/-- The reader's value, or `none` where it reads nothing. -/
def optional (reader : Reader α) : Reader (Option α) :=
  (some <$> reader) <|> pure none

def firstOf : List (Reader α) → Reader α
  | [] => fail
  | reader :: others => reader <|> firstOf others

/-- Succeeds without reading where the reader fails. -/
def notFollowedBy (reader : Reader α) : Reader Unit := fun text =>
  match reader text with
  | none => some ((), text)
  | some _ => none

/-- At most `fuel` repetitions. -/
def repeated (reader : Reader α) : Nat → Reader (List α)
  | 0, text => some ([], text)
  | fuel + 1, text =>
    match reader text with
    | none => some ([], text)
    | some (value, rest) =>
      match repeated reader fuel rest with
      | some (values, rest) => some (value :: values, rest)
      | none => none

def many (reader : Reader α) : Reader (List α) := fun text =>
  repeated reader (text.length + 1) text

/-- One or more repetitions. -/
def many1 (reader : Reader α) : Reader (List α) := do
  let first ← reader
  let others ← many reader
  return first :: others

def sepBy1 (reader : Reader α) (separator : Reader β) : Reader (List α) := do
  let first ← reader
  let others ← many (separator *> reader)
  return first :: others

/-- Nothing is left. -/
def atEnd : Reader Unit := fun text => if text.isEmpty then some ((), text) else none

/-- Reads a whole text. -/
def parseAll (reader : Reader α) (text : String) : Option α :=
  match (reader <* atEnd) text.toList with
  | some (value, _) => some value
  | none => none

end Reader

end ArgGuard
