/-!
# Labels in ASCII

A label with characters of other scripts is written with letters, digits and hyphens alone. The
characters of ASCII come first. Behind the last hyphen numbers say, in ascending order of
characters, which character to insert where: each number counts the steps from one place to the
next, where a step goes one place to the right and at the end on to the next character.

A number is written with digits of base 36, the lowest first. Its last digit is below a threshold;
the thresholds adapt to the size of the numbers before.
-/

namespace ArgGuard.Internet.Punycode

/-- The first character that is not of ASCII. -/
def firstCode : Nat := 0x80

def firstBias : Nat := 72

def digitChar (digit : Nat) : Char :=
  if digit < 26 then Char.ofNat (0x61 + digit) else Char.ofNat (0x30 + digit - 26)

def digitValue? (c : Char) : Option Nat :=
  if 'a' ≤ c && c ≤ 'z' then some (c.toNat - 0x61)
  else if 'A' ≤ c && c ≤ 'Z' then some (c.toNat - 0x41)
  else if c.isDigit then some (c.toNat - 0x30 + 26)
  else none

/-- The threshold of the digit at a place; places are 36 apart. -/
def threshold (place bias : Nat) : Nat :=
  if place ≤ bias then 1 else if bias + 26 ≤ place then 26 else place - bias

/-- A threshold leaves room for a digit below it and for one above it. -/
theorem threshold_bounds (place bias : Nat) :
    1 ≤ threshold place bias ∧ threshold place bias ≤ 26 := by
  unfold threshold
  split
  · omega
  · split <;> omega

/-- Divides until the number is small, and counts. -/
def scaleDown (delta places : Nat) : Nat × Nat :=
  if 455 < delta then scaleDown (delta / 35) (places + 36) else (delta, places)
termination_by delta
decreasing_by omega

/-- The bias behind a number. -/
def adapt (delta count : Nat) (isFirst : Bool) : Nat :=
  let damped := if isFirst then delta / 700 else delta / 2
  let (small, places) := scaleDown (damped + damped / count) 0
  places + 36 * small / (small + 38)

def writeNumber (bias place number : Nat) : List Char :=
  let t := threshold place bias
  if number < t then [digitChar number]
  else
    digitChar (t + (number - t) % (36 - t))
      :: writeNumber bias (place + 36) ((number - t) / (36 - t))
termination_by number
decreasing_by
  have := threshold_bounds place bias
  exact Nat.lt_of_le_of_lt (Nat.div_le_self _ _) (by omega)

/-- Where an encoder stands: what it wrote, the steps since the last insertion, the bias, and how
many characters there are up to now. -/
structure Encoder where
  written : List Char
  steps : Nat
  bias : Nat
  count : Nat

/-- Passes a place of the label in the round of one character. -/
def Encoder.pass (basic code : Nat) (state : Encoder) (c : Char) : Encoder :=
  if c.toNat < code then { state with steps := state.steps + 1 }
  else if c.toNat = code then
    { written := state.written ++ writeNumber state.bias 36 state.steps
      steps := 0
      bias := adapt state.steps (state.count + 1) (state.count == basic)
      count := state.count + 1 }
  else state

/-- The rounds of the characters that are not of ASCII, in ascending order. -/
def encodeRounds (text : List Char) (basic : Nat) : List Nat → Nat → Encoder → Encoder
  | [], _, state => state
  | code :: codes, first, state =>
    let start := { state with steps := state.steps + (code - first) * (state.count + 1) }
    let state := text.foldl (·.pass basic code ·) start
    encodeRounds text basic codes (code + 1) { state with steps := state.steps + 1 }

/-- Puts a number into an ascending list unless it is there. -/
def insertNew (n : Nat) : List Nat → List Nat
  | [] => [n]
  | m :: rest =>
    if n < m then n :: m :: rest
    else if n = m then m :: rest
    else m :: insertNew n rest

/-- Writes a label. -/
def encode (text : List Char) : List Char :=
  let basic := text.filter (·.toNat < firstCode)
  let codes := ((text.map Char.toNat).filter (firstCode ≤ ·)).foldr insertNew []
  let start : Encoder := ⟨[], 0, firstBias, basic.length⟩
  basic ++ (if basic.isEmpty then [] else ['-'])
    ++ (encodeRounds text basic.length codes firstCode start).written

/-- Reads a number: its value and what stands behind it. -/
def readNumber? (bias : Nat) : Nat → Nat → Nat → List Char → Option (Nat × List Char)
  | _, _, _, [] => none
  | place, weight, value, c :: rest =>
    match digitValue? c with
    | none => none
    | some digit =>
      let t := threshold place bias
      let value := value + digit * weight
      if digit < t then some (value, rest)
      else readNumber? bias (place + 36) (weight * (36 - t)) value rest

/-- What stands behind a number is shorter than what it was read from. -/
theorem length_lt_of_readNumber {bias place weight value : Nat} {text : List Char}
    {result : Nat × List Char} (h : readNumber? bias place weight value text = some result) :
    result.2.length < text.length := by
  induction text generalizing place weight value with
  | nil => simp [readNumber?] at h
  | cons c rest ih =>
    simp only [readNumber?] at h
    split at h
    · contradiction
    · split at h
      · cases h; simp
      · exact Nat.lt_succ_of_lt (ih h)

/-- Reads numbers and inserts the characters that they say. -/
def insertAll? (text : List Char) (code place bias : Nat) (isFirst : Bool) (numbers : List Char) :
    Option (List Char) :=
  match h : readNumber? bias 36 1 0 numbers with
  | none => if numbers.isEmpty then some text else none
  | some (steps, rest) =>
    let count := text.length + 1
    let reached := place + steps
    let code := code + reached / count
    if code.isValidChar then
      have : rest.length < numbers.length := length_lt_of_readNumber h
      insertAll? (text.insertIdx (reached % count) (Char.ofNat code)) code (reached % count + 1)
        (adapt steps count isFirst) false rest
    else none
termination_by numbers.length

/-- Reads a label. A hyphen at the start is no separator, and no digit either. -/
def decode? (label : List Char) : Option (List Char) :=
  let reversed := label.reverse
  let numbers := (reversed.takeWhile (· != '-')).reverse
  match (reversed.dropWhile (· != '-')).reverse with
  | [] => insertAll? [] firstCode 0 firstBias true numbers
  | ['-'] => none
  | separated =>
    let basic := separated.dropLast
    if basic.all (·.toNat < firstCode) then insertAll? basic firstCode 0 firstBias true numbers
    else none

end ArgGuard.Internet.Punycode
