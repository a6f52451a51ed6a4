import ArgGuard.Decimal.Binary64

/-!
# The fewest digits that read back

Among all decimals that read back as a given double, `shortest` picks one with the fewest digits,
and of those the one nearest to the double; of two that are equally near, `Tie` says which. The
decimals that read back are those between the
midpoints to the two neighbouring doubles, ends included iff the mantissa is even. A grid of
`n`-digit decimals meets this interval only if one of the double's two neighbours on the grid lies
in it, so for `n = 1, 2, …, 17` it is enough to test these two.
-/

namespace ArgGuard

/-- Which of two decimals is taken that are equally near: the one whose last digit is even, or the
greater one. -/
inductive Tie
  | toEven
  | up
deriving DecidableEq, Repr

/-- The decimal `digits · 10 ^ exponent`. -/
structure Decimal where
  digits : Nat
  exponent : Int
deriving DecidableEq, Repr

namespace Decimal

/-- Number of decimal digits; zero has one. -/
def digitCount (n : Nat) : Nat :=
  (Nat.toDigits 10 n).length

/-- Strips zeros at the end, at most `fuel` of them. -/
def stripZeros : Nat → Decimal → Decimal
  | 0, d => d
  | fuel + 1, d =>
    if d.digits ≠ 0 ∧ d.digits % 10 = 0 then stripZeros fuel ⟨d.digits / 10, d.exponent + 1⟩ else d

/-- The interval of values that read back as one double, over a common denominator. -/
structure Interval where
  value : Nat
  low : Nat
  high : Nat
  unit : Nat
  closed : Bool

namespace Interval

/-- The values that round to `mantissa · 2 ^ exponent`. Below a power of two the neighbour is only
half as far away, unless the exponent is already the least one. -/
def around (mantissa : Nat) (exponent : Int) : Interval :=
  let atPower := mantissa = Nat.pow 2 52 ∧ -1074 < exponent
  let below := if atPower then 4 * mantissa - 1 else 4 * mantissa - 2
  let scale := if 2 ≤ exponent then Nat.pow 2 (exponent - 2).toNat else 1
  { value := 4 * mantissa * scale
    low := below * scale
    high := (4 * mantissa + 2) * scale
    unit := if 2 ≤ exponent then 1 else Nat.pow 2 (2 - exponent).toNat
    closed := mantissa % 2 == 0 }

/-- The interval in units of `10 ^ exponent`. -/
def inGrid (interval : Interval) (exponent : Int) : Interval :=
  if 0 ≤ exponent then { interval with unit := interval.unit * Nat.pow 10 exponent.toNat }
  else
    let power := Nat.pow 10 (-exponent).toNat
    { interval with
      value := interval.value * power, low := interval.low * power, high := interval.high * power }

/-- Whether a grid point reads back. -/
def holds (interval : Interval) (point : Nat) : Bool :=
  let scaled := point * interval.unit
  if interval.closed then interval.low ≤ scaled && scaled ≤ interval.high
  else interval.low < scaled && scaled < interval.high

/-- The better of the value's two neighbours on the grid, if one reads back. -/
def nearestPoint? (interval : Interval) (tie : Tie) : Option Nat :=
  let below := interval.value / interval.unit
  let above := below + 1
  let rest := interval.value % interval.unit
  let tieBelow := tie == .toEven && below % 2 == 0
  let belowFirst := 2 * rest < interval.unit || (2 * rest == interval.unit && tieBelow)
  let (first, second) := if belowFirst then (below, above) else (above, below)
  if interval.holds first then some first
  else if interval.holds second then some second
  else none

/-- The exponent of the leading digit of the value. -/
def leadingExponent (interval : Interval) : Int :=
  (digitCount (interval.value * Nat.pow 10 400 / interval.unit) : Int) - 401

end Interval

/-- Tries `count` digits, then one more, and so on for `fuel` rounds. -/
def search (interval : Interval) (tie : Tie) (leading : Int) : Nat → Int → Decimal
  | 0, count => ⟨interval.value / interval.unit, leading + 1 - count⟩
  | fuel + 1, count =>
    let exponent := leading + 1 - count
    match (interval.inGrid exponent).nearestPoint? tie with
    | some point => stripZeros (digitCount point) ⟨point, exponent⟩
    | none => search interval tie leading fuel (count + 1)

/-- The shortest decimal that reads back as `mantissa · 2 ^ exponent`. -/
def shortest (tie : Tie) (mantissa : Nat) (exponent : Int) : Decimal :=
  if mantissa = 0 then ⟨0, 0⟩
  else
    let interval := Interval.around mantissa exponent
    search interval tie interval.leadingExponent 17 1

end Decimal

end ArgGuard
