import ArgGuard.Unicode.CharSet

/-!
# Patterns

A pattern describes texts. One that looks at nothing outside of its match is plain: `ends` answers
the positions at which a plain match that began at a given position can end, those that are
preferred first. A position that was reached in a preferred way need not be reached again, since
everything behind it would be the same: so `ends` lists it once, and the work is bounded by the
length of the subject.
-/

namespace ArgGuard

/-- Places between characters. -/
inductive Anchor
  | textStart
  | textEnd
  | trailingLines
  | lineStart
  | lineEnd
  | breakStart
  | breakEnd
  | wordBoundary
  | notWordBoundary
  | wordStart
  | wordEnd
  | wordStartHalf
  | wordEndHalf
deriving DecidableEq, Repr

/-- A pattern. The sets of the anchors are the characters of words. -/
inductive Pattern
  | empty
  | one (set : CharSet)
  | anchor (anchor : Anchor) (word : CharSet)
  | seq (first second : Pattern)
  | alt (first second : Pattern)
  | repeated (body : Pattern) (least : Nat) (most : Option Nat) (greedy : Bool)
  | atomic (body : Pattern)
  | group (number : Nat) (body : Pattern)
  | ahead (wanted : Bool) (body : Pattern)
  | behind (wanted : Bool) (body : Pattern)
  | back (number : Nat) (caseless : Bool)
  | opened (number : Nat)
  | choice (condition affirmed denied : Pattern)
deriving Inhabited

namespace Pattern

/-- Whether a character of a word stands at a position. -/
def wordAt (subject : Array Char) (word : CharSet) (position : Nat) : Bool :=
  subject[position]?.any fun c => word.holds c.toNat

/-- Whether a character of a word stands before a position. -/
def wordBefore (subject : Array Char) (word : CharSet) (position : Nat) : Bool :=
  0 < position && wordAt subject word (position - 1)

def charBefore (subject : Array Char) (c : Char) (position : Nat) : Bool :=
  0 < position && subject[position - 1]? == some c

def charAt (subject : Array Char) (c : Char) (position : Nat) : Bool :=
  subject[position]? == some c

/-- Whether a place is at a position. A line may also be taken to end with a carriage return, with
or without a line feed behind it, which are one break then. -/
def Anchor.holdsAt (anchor : Anchor) (subject : Array Char) (word : CharSet) (position : Nat) :
    Bool :=
  let before := wordBefore subject word position
  let after := wordAt subject word position
  match anchor with
  | .textStart => position == 0
  | .textEnd => position == subject.size
  | .trailingLines => (subject.toList.drop position).all (· == '\n')
  | .lineStart => position == 0 || charBefore subject '\n' position
  | .lineEnd => position == subject.size || charAt subject '\n' position
  | .breakStart =>
    position == 0 || charBefore subject '\n' position ||
      charBefore subject '\r' position && !charAt subject '\n' position
  | .breakEnd =>
    position == subject.size || charAt subject '\r' position ||
      charAt subject '\n' position && !charBefore subject '\r' position
  | .wordBoundary => before != after
  | .notWordBoundary => before == after
  | .wordStart => !before && after
  | .wordEnd => before && !after
  | .wordStartHalf => !before
  | .wordEndHalf => !after

/-- Adds the positions that are not there yet. -/
def merge (known fresh : List Nat) : List Nat :=
  fresh.foldl (fun found place => if found.contains place then found else found ++ [place]) known

/-- The positions behind a list of positions. -/
def after (step : Nat → List Nat) (places : List Nat) : List Nat := merge [] (places.flatMap step)

/-- The positions after exactly `count` steps. -/
def exactly (step : Nat → List Nat) : Nat → List Nat → List Nat
  | 0, places => places
  | count + 1, places => if places.isEmpty then [] else exactly step count (after step places)

/-- What a repetition has been through: the positions from which it went on, with the steps left
there, and the positions that it answers, the last one first. -/
structure Trail where
  seen : List (Nat × Nat) := []
  found : List Nat := []

namespace Trail

/-- Answers a position. -/
def record (trail : Trail) (place : Nat) : Trail :=
  if trail.found.contains place then trail else { trail with found := place :: trail.found }

/-- Goes on from a position. -/
def mark (trail : Trail) (left place : Nat) : Trail :=
  { trail with seen := (left, place) :: trail.seen }

end Trail

/-- The positions after at most `left` steps. More steps come before fewer ones if the repetition is
greedy. -/
def upTo (step : Nat → List Nat) (greedy : Bool) : Nat → Trail → Nat → Trail
  | 0, trail, place => trail.record place
  | left + 1, trail, place =>
    if trail.seen.contains (left, place) then trail
    else if greedy then
      ((step place).foldl (upTo step greedy left) (trail.mark left place)).record place
    else (step place).foldl (upTo step greedy left) ((trail.mark left place).record place)

/-- The positions after any number of steps that go forward, `fuel` at most: as many as there are
characters left are enough. -/
def anyNumber (step : Nat → List Nat) (greedy : Bool) : Nat → Trail → Nat → Trail
  | 0, trail, place => trail.record place
  | fuel + 1, trail, place =>
    let onward := (step place).filter (place < ·)
    if trail.seen.contains (0, place) then trail
    else if greedy then
      (onward.foldl (anyNumber step greedy fuel) (trail.mark 0 place)).record place
    else onward.foldl (anyNumber step greedy fuel) ((trail.mark 0 place).record place)

def repetition (step : Nat → List Nat) (size least : Nat) (most : Option Nat) (greedy : Bool)
    (place : Nat) : List Nat :=
  let started := exactly step least [place]
  let trail := match most with
    | some most => started.foldl (upTo step greedy (most - least)) {}
    | none => started.foldl (anyNumber step greedy (size + 1)) {}
  trail.found.reverse

/-- The number of characters of a set in a row from a position on, `fuel` at most. -/
def runLength (subject : Array Char) (chars : CharSet) : Nat → Nat → Nat
  | 0, _ => 0
  | fuel + 1, position =>
    match subject[position]? with
    | some c => if chars.holds c.toNat then runLength subject chars fuel (position + 1) + 1 else 0
    | none => 0

/-- The positions behind a run of characters of a set. -/
def runEnds (subject : Array Char) (chars : CharSet) (least : Nat) (most : Option Nat)
    (greedy : Bool) (place : Nat) : List Nat :=
  let length := runLength subject chars (most.getD subject.size) place
  let extras := List.range (length + 1 - least)
  (if greedy then extras.reverse else extras).map (place + least + ·)

/-- Whether a character of a set stands at a position. -/
def setAt (subject : Array Char) (chars : CharSet) (position : Nat) : Bool :=
  subject[position]?.any fun c => chars.holds c.toNat

/-- The positions at which a plain match can end, those that are preferred first. What is not plain
has none. -/
def ends (subject : Array Char) : Pattern → Nat → List Nat
  | empty, place => [place]
  | one chars, place => if setAt subject chars place then [place + 1] else []
  | anchor wanted word, place => if Anchor.holdsAt wanted subject word place then [place] else []
  | seq first second, place => after (ends subject second) (ends subject first place)
  | alt first second, place => merge (ends subject first place) (ends subject second place)
  | repeated (one chars) least most greedy, place =>
    runEnds subject chars least most greedy place
  | repeated body least most greedy, place =>
    repetition (ends subject body) subject.size least most greedy place
  | _, _ => []

/-- The number of characters that every match has, if there is one. -/
def width? : Pattern → Option Nat
  | empty => some 0
  | one _ => some 1
  | anchor _ _ => some 0
  | seq first second => do return (← first.width?) + (← second.width?)
  | alt first second => do
    let width ← first.width?
    if (← second.width?) = width then some width else none
  | repeated body least most _ => do
    if most = some least then return (← body.width?) * least else none
  | atomic body => body.width?
  | group _ body => body.width?
  | ahead _ _ => some 0
  | behind _ _ => some 0
  | back _ _ => none
  | opened _ => some 0
  | choice condition affirmed denied => do
    let width ← denied.width?
    if (← condition.width?) + (← affirmed.width?) = width then some width else none

/-- Whether a pattern refers to nothing and looks at nothing outside of its match. -/
def isPlain : Pattern → Bool
  | empty => true
  | one _ => true
  | anchor _ _ => true
  | seq first second => first.isPlain && second.isPlain
  | alt first second => first.isPlain && second.isPlain
  | repeated body _ _ _ => body.isPlain
  | _ => false

/-- What is looked for behind a place, where every branch has a width of its own. -/
def lookBehind (wanted : Bool) : Pattern → Pattern
  | alt first rest =>
    if (alt first rest).width?.isSome then behind wanted (alt first rest)
    else if wanted then alt (behind true first) (lookBehind wanted rest)
    else seq (behind false first) (lookBehind wanted rest)
  | body => behind wanted body

/-- Leaves out the groups that nothing refers to, and looks behind a place branch by branch. -/
def settled (referred : List Nat) : Pattern → Pattern
  | seq first second => seq (first.settled referred) (second.settled referred)
  | alt first second => alt (first.settled referred) (second.settled referred)
  | repeated body least most greedy => repeated (body.settled referred) least most greedy
  | atomic body => atomic (body.settled referred)
  | group number body =>
    if referred.contains number then group number (body.settled referred)
    else body.settled referred
  | ahead wanted body => ahead wanted (body.settled referred)
  | behind wanted body => lookBehind wanted (body.settled referred)
  | choice condition affirmed denied =>
    choice (condition.settled referred) (affirmed.settled referred) (denied.settled referred)
  | other => other

end Pattern

end ArgGuard
