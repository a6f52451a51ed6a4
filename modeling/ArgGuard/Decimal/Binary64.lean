/-!
# Doubles as exact numbers

A finite double is `± mantissa · 2 ^ exponent` with a natural mantissa. `Binary64.ofFloat` takes
the bits apart; integrality, comparison with an integer and rounding to an integer are then exact
arithmetic on two integers, with no floating operation left in them.
-/

namespace ArgGuard

/-- The finite double `± mantissa · 2 ^ exponent`. -/
structure Binary64 where
  negative : Bool
  mantissa : Nat
  exponent : Int
deriving DecidableEq, Repr

namespace Binary64

/-- Takes a double apart; infinities and NaN have no exact value. -/
def ofFloat (x : Float) : Option Binary64 :=
  let bits : Nat := x.toBits.toNat
  let fraction : Nat := bits % Nat.pow 2 52
  let biased : Nat := bits / Nat.pow 2 52 % Nat.pow 2 11
  let negative := decide (Nat.pow 2 63 ≤ bits)
  if biased = 2047 then none
  else if biased = 0 then some ⟨negative, fraction, -1074⟩
  else some ⟨negative, fraction + Nat.pow 2 52, (biased : Int) - 1075⟩

/-- The largest integer not above the absolute value. -/
def wholePart (x : Binary64) : Nat :=
  if 0 ≤ x.exponent then x.mantissa * Nat.pow 2 x.exponent.toNat
  else x.mantissa / Nat.pow 2 (-x.exponent).toNat

/-- Whether nothing stands behind the point. -/
def isIntegral (x : Binary64) : Bool :=
  0 ≤ x.exponent || x.mantissa % Nat.pow 2 (-x.exponent).toNat == 0

/-- Gives a natural number the sign of `x`. -/
def withSign (x : Binary64) (n : Nat) : Int :=
  if x.negative then -(n : Int) else n

def toInt? (x : Binary64) : Option Int :=
  if x.isIntegral then some (x.withSign x.wholePart) else none

/-- The integer nearest to the value; a half goes away from zero. -/
def nearestInt (x : Binary64) : Int :=
  if 0 ≤ x.exponent then x.withSign x.wholePart
  else
    let unit := Nat.pow 2 (-x.exponent).toNat
    x.withSign ((2 * x.mantissa + unit) / (2 * unit))

/-- Compares a double with an integer, exactly. -/
def compareInt (x : Binary64) (n : Int) : Ordering :=
  if 0 ≤ x.exponent then compare (x.withSign (x.mantissa * Nat.pow 2 x.exponent.toNat)) n
  else compare (x.withSign x.mantissa) (n * Nat.pow 2 (-x.exponent).toNat)

end Binary64

end ArgGuard
