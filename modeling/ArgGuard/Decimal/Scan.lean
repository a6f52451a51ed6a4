import ArgGuard.Text.Reader

/-!
# Numbers read from text

Three readings of a number: a whole number with an optional sign, in a range; a decimal rounded to
the nearest double; and the reading of data files, which keeps the digits that fit 64 bits and
multiplies or divides once by a power of ten. The last is exact for short numbers and can miss the
nearest double for long ones, so it is a rule of its own.
-/

namespace ArgGuard

namespace Scan

def digitValue (c : Char) : Nat := c.toNat - '0'.toNat

/-- The number that a run of digits stands for. -/
def natOfDigits (digits : List Char) : Nat :=
  digits.foldl (fun n c => n * 10 + digitValue c) 0

/-- A sign, if one is there; true for a minus. -/
def sign : Reader Bool := fun text =>
  match text with
  | '-' :: rest => some (true, rest)
  | '+' :: rest => some (false, rest)
  | _ => some (false, text)

/-- A whole number: a sign or none, and at least one digit. -/
def wholeNumber : Reader Int := do
  let negative ← sign
  let digits ← Reader.takeWhile1 Char.isDigit
  let n := natOfDigits digits
  return if negative then -(n : Int) else n

/-- The least and the greatest number of 64 bits with a sign. -/
def int64Range : Int × Int := (-9223372036854775808, 9223372036854775807)

/-- Whether a number fits 64 bits with a sign. -/
def fitsInt64 (n : Int) : Bool := int64Range.1 ≤ n && n ≤ int64Range.2

/-- A text that is one whole number of 64 bits. -/
def int64? (text : List Char) : Option Int :=
  match (wholeNumber <* Reader.atEnd) text with
  | some (n, _) => if fitsInt64 n then some n else none
  | none => none

/-- The parts of a decimal as written. -/
structure Written where
  negative : Bool
  whole : List Char
  fraction : List Char
  exponent : Int

/-- An exponent part: `e` or `E`, a sign or none, digits. -/
def exponentPart : Reader Int := do
  let _ ← Reader.satisfy fun c => c == 'e' || c == 'E'
  wholeNumber

/-- A decimal in its free form: digits on one side of the point are enough. -/
def freeDecimal : Reader Written := do
  let negative ← sign
  let whole ← Reader.takeWhile Char.isDigit
  let point ← Reader.optional (Reader.char '.')
  let fraction ← if point.isSome then Reader.takeWhile Char.isDigit else pure []
  if whole.isEmpty && fraction.isEmpty then Reader.fail
  let exponent ← Reader.optional exponentPart
  return ⟨negative, whole, fraction, exponent.getD 0⟩

/-- Rounds `digits · 10 ^ exponent` to the nearest double. Numbers beyond every double are told
by their size, so that no huge power is formed. -/
def nearest (digits : Nat) (exponent : Int) : Float :=
  let size := (Nat.toDigits 10 digits).length + exponent
  if digits = 0 || size < -400 then 0.0
  else if 400 < size then 1.0 / 0.0
  else if 0 ≤ exponent then Float.ofScientific digits false exponent.toNat
  else Float.ofScientific digits true (-exponent).toNat

def Written.toNearest (w : Written) : Float :=
  let x := nearest (natOfDigits (w.whole ++ w.fraction)) (w.exponent - w.fraction.length)
  if w.negative then -x else x

/-- The spellings of infinity and of NaN, in any case and with a sign. -/
def special? (text : List Char) : Option Float :=
  match sign text with
  | none => none
  | some (negative, rest) =>
    let word := String.ofList (rest.map Char.toLower)
    let infinity : Float := 1.0 / 0.0
    if word == "inf" || word == "infinity" then some (if negative then -infinity else infinity)
    else if word == "nan" then some (0.0 / 0.0)
    else none

/-- A text that is one decimal in its free form, rounded to the nearest double. -/
def double? (text : List Char) : Option Float :=
  match (freeDecimal <* Reader.atEnd) text with
  | some (written, _) => some written.toNearest
  | none => special? text

/-- Splits off the digits that fit 64 bits; the second number counts the others. -/
def significand (start : Nat) : List Char → Nat × List Char
  | [] => (start, [])
  | c :: rest =>
    let next := start * 10 + digitValue c
    if next < Nat.pow 2 64 then significand next rest else (start, c :: rest)

/-- The largest power of ten that is a double. -/
def largestPower : Nat := 308

/-- `10 ^ n` as a double. -/
def power (n : Nat) : Float := Float.ofScientific 1 false n

/-- Scales a double by a power of ten: steps of `10 ^ -308` for a very small one, then one
multiplication or division. Overflow is no number. -/
def scale : Nat → Float → Int → Option Float
  | 0, x, _ => some x
  | fuel + 1, x, exponent =>
    if exponent.natAbs ≤ largestPower then
      if 0 ≤ exponent then
        let scaled := x * power exponent.natAbs
        if scaled.isInf then none else some scaled
      else some (x / power exponent.natAbs)
    else if x == 0.0 then some x
    else if 0 ≤ exponent then none
    else scale fuel (x / power largestPower) (exponent + largestPower)

/-- The double of a decimal in a data file. Digits behind the ones that fit 64 bits only count,
before the point, or are dropped, after it. A zero is zero whatever its exponent. -/
def Written.toScaled? (w : Written) : Option Float :=
  let (head, uncounted) := significand 0 w.whole
  let (digits, dropped) := significand head w.fraction
  let exponent := w.exponent + uncounted.length + dropped.length - w.fraction.length
  let sized : Option Float :=
    if digits = 0 then some 0.0
    else if exponent < -1000 then some 0.0
    else scale 8 (Float.ofNat digits) exponent
  sized.map fun x => if w.negative then -x else x

end Scan

end ArgGuard
