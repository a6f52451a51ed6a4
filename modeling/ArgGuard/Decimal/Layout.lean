import ArgGuard.Decimal.Shortest

/-!
# Doubles as text

A double is written with its shortest digits. What is left to a format is one record: between
which sizes the point is written in place, whether an integral value shows its point, and which of
two equally near decimals is written.
-/

namespace ArgGuard

/-- How a format writes a decimal. The size of a number is the exponent of its leading digit. -/
structure RealLayout where
  /-- Sizes from which on the number is written positionally. -/
  smallest : Option Int
  /-- Sizes up to which the number is written positionally. -/
  largest : Option Int
  /-- Whether an integral number ends in `.0`. -/
  showsPoint : Bool
  /-- Which of two equally near decimals is written. -/
  tie : Tie

namespace RealLayout

/-- Digits with the point after the first `whole` of them; `whole` may be outside of the digits. -/
def positional (layout : RealLayout) (digits : List Char) (whole : Int) : String :=
  let count : Int := digits.length
  if whole ≤ 0 then
    "0." ++ String.ofList (List.replicate (-whole).toNat '0' ++ digits)
  else if count ≤ whole then
    String.ofList (digits ++ List.replicate (whole - count).toNat '0')
      ++ (if layout.showsPoint then ".0" else "")
  else
    String.ofList (digits.take whole.toNat) ++ "." ++ String.ofList (digits.drop whole.toNat)

/-- One digit before the point, and the exponent with its sign after `e`. -/
def scientific (digits : List Char) (size : Int) : String :=
  let mantissa := match digits with
    | [] => "0"
    | [digit] => digit.toString
    | digit :: rest => digit.toString ++ "." ++ String.ofList rest
  mantissa ++ (if size < 0 then "e-" else "e+") ++ toString size.natAbs

def decimal (layout : RealLayout) (number : Decimal) : String :=
  let digits := Nat.toDigits 10 number.digits
  let whole := (digits.length : Int) + number.exponent
  let size := whole - 1
  let fits := layout.smallest.all (· ≤ size) && layout.largest.all (size ≤ ·)
  if fits then layout.positional digits whole else scientific digits size

/-- The text of a double. Zero has the size of its only digit, and keeps its sign. -/
def text (layout : RealLayout) (x : Float) : String :=
  match Binary64.ofFloat x with
  | some exact =>
    let sign := if exact.negative then "-" else ""
    sign ++ layout.decimal (Decimal.shortest layout.tie exact.mantissa exact.exponent)
  | none => if x.isNaN then "NaN" else if x < 0 then "-inf" else "inf"

/-- No exponent at any size, no point where nothing stands behind it, and ties go up. -/
def plain : RealLayout := ⟨none, none, false, .up⟩

end RealLayout

end ArgGuard
