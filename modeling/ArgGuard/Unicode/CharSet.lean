import ArgGuard.Text.Blank
import ArgGuard.Unicode.CaseFold
import ArgGuard.Unicode.Category

/-!
# Sets of characters

What a class of a pattern admits: ranges of code points, combined by the operations of sets. A
caseless set admits a character when it admits one that differs from it only in case.
-/

namespace ArgGuard

open Unicode

/-- A set of characters. -/
inductive CharSet
  | ranges (ranges : Ranges)
  | union (a b : CharSet)
  | inter (a b : CharSet)
  | complement (a : CharSet)
  | caseless (a : CharSet)
deriving Inhabited

namespace CharSet

/-- Whether a code point is in the set. -/
def holds : CharSet → Nat → Bool
  | ranges list, code => list.holds code
  | union a b, code => a.holds code || b.holds code
  | inter a b, code => a.holds code && b.holds code
  | complement a, code => !a.holds code
  | caseless a, code => (CaseFold.variants code).any a.holds

/-- The same set as ranges in order, with gaps between them. -/
def listed : CharSet → Ranges
  | ranges list => list.sorted
  | union a b => Ranges.sorted (a.listed ++ b.listed)
  | inter a b => Ranges.complement (a.listed.complement ++ b.listed.complement)
  | complement a => a.listed.complement
  | caseless a =>
    let others := CaseFold.cased.filter fun code => (CaseFold.variants code).any a.holds
    Ranges.sorted (a.listed ++ others.map fun code => (code, code))

/-- The set without characters. -/
def none : CharSet := ranges []

/-- One code point. -/
def single (code : Nat) : CharSet := ranges [(code, code)]

/-- What is in one of several sets. -/
def unionOf (sets : List CharSet) : CharSet := sets.foldr union none

/-- What is in the first set and not in the second. -/
def difference (a b : CharSet) : CharSet := inter a (complement b)

/-- What is in exactly one of two sets. -/
def symmetricDifference (a b : CharSet) : CharSet := union (difference a b) (difference b a)

/-- The code points in a table of words. -/
def ofLines (lines : List String) : CharSet := ranges (Ranges.ofLines lines)

def ofCategories (categories : List Category) : CharSet := ranges (Category.rangesOf categories)

def ascii : CharSet := ranges [(0x00, 0x7F)]

def asciiDigit : CharSet := ranges [(0x30, 0x39)]

/-- Blanks of ASCII. -/
def asciiSpace : CharSet := ranges [(0x09, 0x0D), (0x20, 0x20)]

def asciiWord : CharSet := ranges [(0x30, 0x39), (0x41, 0x5A), (0x5F, 0x5F), (0x61, 0x7A)]

def asciiClass? (name : String) : Option CharSet :=
  let table : List (String × Ranges) :=
    [("alnum", [(0x30, 0x39), (0x41, 0x5A), (0x61, 0x7A)]),
     ("alpha", [(0x41, 0x5A), (0x61, 0x7A)]),
     ("ascii", [(0x00, 0x7F)]),
     ("blank", [(0x09, 0x09), (0x20, 0x20)]),
     ("cntrl", [(0x00, 0x1F), (0x7F, 0x7F)]),
     ("digit", [(0x30, 0x39)]),
     ("graph", [(0x21, 0x7E)]),
     ("lower", [(0x61, 0x7A)]),
     ("print", [(0x20, 0x7E)]),
     ("punct", [(0x21, 0x2F), (0x3A, 0x40), (0x5B, 0x60), (0x7B, 0x7E)]),
     ("space", [(0x09, 0x0D), (0x20, 0x20)]),
     ("upper", [(0x41, 0x5A)]),
     ("word", [(0x30, 0x39), (0x41, 0x5A), (0x5F, 0x5F), (0x61, 0x7A)]),
     ("xdigit", [(0x30, 0x39), (0x41, 0x46), (0x61, 0x66)])]
  (table.lookup name).map ranges

end CharSet

end ArgGuard
