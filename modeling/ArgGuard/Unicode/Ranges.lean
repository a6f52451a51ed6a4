/-!
# Ranges of code points

A property of characters is a set of code points. A table gives it as words in hexadecimal: `41` is
one code point, `41-5A` are all from the first to the last, and `100-12E/2` is every second one of
them.
-/

namespace ArgGuard.Unicode

/-- Ranges of code points, both ends included. -/
abbrev Ranges := List (Nat × Nat)

namespace Ranges

/-- Whether a code point is in one of the ranges. -/
def holds (ranges : Ranges) (code : Nat) : Bool :=
  ranges.any fun (first, last) => first ≤ code && code ≤ last

/-! ### Ranges in order -/

def lastCode : Nat := 0x10FFFF

/-- Puts a range before ranges in order, and takes in those that it meets. -/
def insert (first last : Nat) : Ranges → Ranges
  | [] => [(first, last)]
  | (low, high) :: rest =>
    if low ≤ last + 1 then insert first (max last high) rest
    else (first, last) :: (low, high) :: rest

/-- The same code points as ranges in order, with gaps between them. -/
def sorted (ranges : Ranges) : Ranges :=
  let filled := ranges.filter fun (first, last) => first ≤ last
  (filled.mergeSort fun a b => a.1 ≤ b.1).foldr (fun (first, last) => insert first last) []

/-- The code points from a place on that are not in ranges in order. -/
def gapsFrom (start : Nat) : Ranges → Ranges
  | [] => if start ≤ lastCode then [(start, lastCode)] else []
  | (first, last) :: rest =>
    (if start < first then [(start, first - 1)] else []) ++ gapsFrom (last + 1) rest

/-- The code points that are not in ranges. -/
def complement (ranges : Ranges) : Ranges := gapsFrom 0 ranges.sorted

/-! ### Tables -/

/-- The value of a hexadecimal digit in capitals. -/
def hexValue (c : Char) : Nat :=
  if c.isDigit then c.toNat - '0'.toNat else c.toNat - 'A'.toNat + 10

/-- The number that a run of hexadecimal digits stands for. -/
def hexNumber (digits : List Char) : Nat :=
  digits.foldl (fun n c => n * 16 + hexValue c) 0

/-- Every second code point from the first to the last. -/
def everySecond (first last : Nat) : Ranges :=
  (List.range ((last - first) / 2 + 1)).map fun i => (first + 2 * i, first + 2 * i)

/-- The text before a character, and the text behind it. -/
def cutAt (separator : Char) (text : List Char) : List Char × List Char :=
  (text.takeWhile (· != separator), (text.dropWhile (· != separator)).drop 1)

def ofWord (word : List Char) : Ranges :=
  let (bounds, step) := cutAt '/' word
  let (first, last) := cutAt '-' bounds
  let first := hexNumber first
  let last := if last.isEmpty then first else hexNumber last
  if step.isEmpty then [(first, last)] else everySecond first last

def wordsOf : List Char → List (List Char)
  | [] => [[]]
  | c :: rest =>
    match wordsOf rest with
    | [] => [[c]]
    | word :: others => if c = ' ' then [] :: word :: others else (c :: word) :: others

def ofLines (lines : List String) : Ranges :=
  lines.flatMap fun line => (wordsOf line.toList).flatMap ofWord

end Ranges

end ArgGuard.Unicode
