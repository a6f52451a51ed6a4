import ArgGuard.JsonSchema.Draft

/-!
# Documents as schemas see them

A schema compares numbers by value, whether they are written as integers or as doubles, and exactly:
no integer is rounded. Two objects are equal if they have the same members in the same order.
-/

namespace ArgGuard

namespace Number

/-- Compares an integer with a double; NaN and the infinities are not documents. -/
def compareIntFloat (n : Int) (x : Float) : Ordering :=
  match Binary64.ofFloat x with
  | some exact => (exact.compareInt n).swap
  | none => if x < 0 then .gt else .lt

def compareValue : Number → Number → Ordering
  | integer m, integer n => compare m n
  | integer m, real y => compareIntFloat m y
  | real x, integer n => (compareIntFloat n x).swap
  | real x, real y => if x < y then .lt else if x > y then .gt else .eq

def largestCount : Nat := 0xFFFFFFFFFFFFFFFF

/-- The whole number that a count is, in either notation; a larger one stands for the largest. -/
def count? : Number → Option Nat
  | integer n => if 0 ≤ n then some n.toNat else none
  | real x =>
    match (Binary64.ofFloat x).bind Binary64.toInt? with
    | some n => if 0 ≤ n then some (min n.toNat largestCount) else none
    | none => none

end Number

namespace Json

mutual

/-- Equality of documents in a schema, under a way to compare numbers. -/
def equalBy (same : Number → Number → Bool) : Json → Json → Bool
  | null, null => true
  | bool a, bool b => a == b
  | number a, number b => same a b
  | string a, string b => a == b
  | array xs, array ys => equalItems same xs ys
  | object xs, object ys => equalMembers same xs ys
  | _, _ => false

/-- Equality item by item. -/
def equalItems (same : Number → Number → Bool) : List Json → List Json → Bool
  | [], [] => true
  | x :: xs, y :: ys => equalBy same x y && equalItems same xs ys
  | _, _ => false

def equalMembers (same : Number → Number → Bool) :
    List (String × Json) → List (String × Json) → Bool
  | [], [] => true
  | (a, x) :: xs, (b, y) :: ys => a == b && equalBy same x y && equalMembers same xs ys
  | _, _ => false

end

def equal : Json → Json → Bool := equalBy fun a b => a.compareValue b == .eq

/-- Equality of documents that tells the two zeros apart. -/
def equalSigned : Json → Json → Bool :=
  equalBy fun a b => a.compareValue b == .eq && a.toFloat.toBits == b.toFloat.toBits

/-- Whether no two items are equal. -/
def areApart (same : Json → Json → Bool) : List Json → Bool
  | [] => true
  | item :: rest => !rest.any (same item) && areApart same rest

/-- Whether no two items are equal. In a list of more than fifteen the two zeros are different. -/
def areDistinct (items : List Json) : Bool :=
  areApart (if items.length ≤ 15 then equal else equalSigned) items

end Json

namespace JsonSchema.TypeName

/-- Whether a document has a type. An integral double is an integer where `wide` says so. -/
def holds (wide : Bool) : TypeName → Json → Bool
  | array, .array _ => true
  | boolean, .bool _ => true
  | integer, .number (.integer _) => true
  | integer, .number n => wide && n.isIntegral
  | null, .null => true
  | number, .number _ => true
  | object, .object _ => true
  | string, .string _ => true
  | _, _ => false

end JsonSchema.TypeName

end ArgGuard
