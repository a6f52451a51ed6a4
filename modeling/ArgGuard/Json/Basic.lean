import ArgGuard.Decimal.Binary64
import ArgGuard.Decimal.Scan
import ArgGuard.Json.Members

/-!
# JSON documents

A document keeps the order of an object's members and tells whole numbers from doubles: `1` and
`1.0` are different documents. `Json.same` is equality of documents; the order of members does not
matter to it, and two doubles are the same when they are equal as numbers.
-/

namespace ArgGuard

/-- A number as a document holds it. -/
inductive Number
  | integer (value : Int)
  | real (value : Float)
deriving DecidableEq

/-- A JSON document. -/
inductive Json
  | null
  | bool (value : Bool)
  | number (value : Number)
  | string (value : String)
  | array (items : List Json)
  | object (members : List (String × Json))
deriving Inhabited

namespace Number

/-- The nearest double. -/
def toFloat : Number → Float
  | integer n => Float.ofInt n
  | real x => x

/-- Whether the number is whole, as a whole number or as a double. -/
def isIntegral : Number → Bool
  | integer _ => true
  | real x => (Binary64.ofFloat x).any Binary64.isIntegral

/-- The whole number of 64 bits with a sign that is written here as one. -/
def int64? : Number → Option Int
  | integer n => if Scan.fitsInt64 n then some n else none
  | real _ => none

/-- The whole number that is written here as one and is not negative. -/
def nat? : Number → Option Nat
  | integer n => if 0 ≤ n then some n.toNat else none
  | real _ => none

/-- Equality of numbers in documents. -/
def same : Number → Number → Bool
  | integer m, integer n => m == n
  | real x, real y => x == y
  | _, _ => false

end Number

namespace Json

def ofInt (n : Int) : Json := .number (.integer n)

/-- The kinds of documents. -/
inductive Kind
  | null | boolean | number | string | array | object
deriving DecidableEq, Repr

def kind : Json → Kind
  | null => .null
  | bool _ => .boolean
  | number _ => .number
  | string _ => .string
  | array _ => .array
  | object _ => .object

def Kind.name : Kind → String
  | .null => "null"
  | .boolean => "boolean"
  | .number => "number"
  | .string => "string"
  | .array => "array"
  | .object => "object"

/-- The kind with its article, as a sentence names it. -/
def Kind.phrase : Kind → String
  | .null => "null"
  | .boolean => "a boolean"
  | .number => "a number"
  | .string => "a string"
  | .array => "an array"
  | .object => "an object"

def string? : Json → Option String
  | string s => some s
  | _ => none

def array? : Json → Option (List Json)
  | array items => some items
  | _ => none

def object? : Json → Option (Members Json)
  | object members => some members
  | _ => none

def number? : Json → Option Number
  | number n => some n
  | _ => none

def bool? : Json → Option Bool
  | bool b => some b
  | _ => none

/-- Whether the document is `null`. -/
def isNull : Json → Bool
  | null => true
  | _ => false

/-- The value of an object's member. -/
def get? (document : Json) (name : String) : Option Json :=
  document.object?.bind fun members => Members.get? members name

mutual

/-- Equality of documents, whatever the order of members. -/
def same : Json → Json → Bool
  | null, null => true
  | bool a, bool b => a == b
  | number a, number b => a.same b
  | string a, string b => a == b
  | array xs, array ys => sameItems xs ys
  | object xs, object ys => xs.length == ys.length && sameMembers xs ys
  | _, _ => false

/-- Equality item by item. -/
def sameItems : List Json → List Json → Bool
  | [], [] => true
  | x :: xs, y :: ys => same x y && sameItems xs ys
  | _, _ => false

/-- Whether every member of the first object is in the second. -/
def sameMembers : List (String × Json) → List (String × Json) → Bool
  | [], _ => true
  | (name, x) :: xs, ys =>
    (match Members.get? ys name with
      | some y => same x y
      | none => false) && sameMembers xs ys

end

mutual

/-- How deeply a document is nested; a scalar has height one. -/
def height : Json → Nat
  | array items => itemsHeight items + 1
  | object members => membersHeight members + 1
  | _ => 1

def itemsHeight : List Json → Nat
  | [] => 0
  | item :: rest => max (height item) (itemsHeight rest)

def membersHeight : List (String × Json) → Nat
  | [] => 0
  | (_, value) :: rest => max (height value) (membersHeight rest)

end

mutual

/-- Number of documents inside a document, itself included. -/
def size : Json → Nat
  | array items => itemsSize items + 1
  | object members => membersSize members + 1
  | _ => 1

/-- Number of documents among items. -/
def itemsSize : List Json → Nat
  | [] => 0
  | item :: rest => size item + itemsSize rest

/-- Number of documents among members. -/
def membersSize : List (String × Json) → Nat
  | [] => 0
  | (_, value) :: rest => size value + membersSize rest

end

end Json

end ArgGuard
