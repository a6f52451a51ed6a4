import ArgGuard.Pattern.Basic
import ArgGuard.Unicode.Encoding

/-!
# How large patterns are

A pattern that looks at nothing outside of its match is run by two machines over bytes, one that
reads forward and one that reads backward. A machine has a copy of what is repeated for every time
that it can be asked for, so a short pattern can need a large machine. `Pattern.fits` refuses
patterns whose machines would be larger than `Machine.largest`.
-/

namespace ArgGuard

/-- The number of bytes that the two machines take up. -/
structure Machine where
  forward : Nat
  backward : Nat
deriving DecidableEq, Repr

namespace Machine

def state : Nat := 32

/-- The bytes of a step from a state by a range of bytes. -/
def step : Nat := 8

/-- The bytes of a step from a state to another one that reads nothing. -/
def link : Nat := 4

def largest : Nat := 10485760

def both (size : Nat) : Machine := ⟨size, size⟩

/-- One machine behind the other. -/
def add (a b : Machine) : Machine := ⟨a.forward + b.forward, a.backward + b.backward⟩

/-- Several copies of a machine. -/
def times (machine : Machine) (count : Nat) : Machine :=
  ⟨machine.forward * count, machine.backward * count⟩

/-- What every pattern needs: a start anywhere in the text, an end, and forward the notes of where
the match began and ended. -/
def frame : Machine := ⟨6 * state + 2 * step, 4 * state + 2 * step⟩

/-- Whether a machine keeps the limit. -/
def fits (machine : Machine) : Bool :=
  let whole := machine.add frame
  whole.forward ≤ largest && whole.backward ≤ largest

/-! ### Sets -/

open Unicode Encoding

/-- A state by its steps: the ranges of bytes, and where each leads. -/
abbrev Steps := List (Span × Nat)

/-- The state in which some sequences are read, among states that are known by their steps, the
latest first. States with the same steps are one. The end has the number zero. -/
def stateOf : Nat → List (List Span) → StateM (List Steps) Nat
  | 0, _ => return 0
  | length + 1, sequences => do
    if sequences.any List.isEmpty then return 0
    let steps ← (byFirst sequences).mapM fun (span, later) => do
      return (span, ← stateOf length later)
    let known ← get
    match known.idxOf? steps with
    | some index => return known.length - index
    | none =>
      set (steps :: known)
      return known.length + 1

/-- The number of different starts of sequences. -/
def startCount : Nat → List (List Span) → Nat
  | 0, _ => 0
  | length + 1, sequences =>
    (byFirst sequences).foldl (fun count (_, later) => count + 1 + startCount length later) 0

/-- The machine of a set of several characters. Forward, states that read the same are one;
backward, only those that come from the same. -/
def ofRanges (ranges : Ranges) : Machine :=
  if ranges.all (·.2 < 0x80) then both (2 * state + step * ranges.length)
  else
    let sequences := ranges.flatMap sequencesOf
    let (_, states) := (stateOf 4 sequences).run []
    { forward := states.foldl (fun size steps => size + state + step * steps.length) state
      backward := 2 * state + link * sequences.length + state * startCount 4 sequences }

def ofSet (set : CharSet) : Machine :=
  match set.listed with
  | [] => both state
  | [(first, last)] =>
    if first = last then both (state * (bytesOf first).length) else ofRanges [(first, last)]
  | ranges => ofRanges ranges

/-- More than the machine of a set takes up. -/
def ample : Nat := 262144

/-! ### Repetition -/

/-- The machine of a repetition. What matches nothing is matched once at most. -/
def repeated (body : Machine) (admitsEmpty isEmptyOnly : Bool) (least : Nat) (most : Option Nat) :
    Machine :=
  let least := if isEmptyOnly then min least 1 else least
  let most := if isEmptyOnly then some (min (most.getD 1) 1) else most
  let choice := both (state + 2 * link)
  match least, most with
  | 0, some 0 => both state
  | 0, some 1 => (body.add choice).add (both state)
  | 0, none =>
    if admitsEmpty then ((body.add choice).add choice).add (both state) else body.add choice
  | least, none => (body.times least).add choice
  | least, some most =>
    if most ≤ least then body.times least
    else
      let started := if least = 0 then both state else body.times least
      (started.add ((body.add choice).times (most - least))).add (both state)

end Machine

namespace Pattern

/-- Whether a pattern matches nothing but the empty text. -/
def isEmptyOnly : Pattern → Bool
  | empty | anchor _ _ => true
  | seq first second | alt first second => first.isEmptyOnly && second.isEmptyOnly
  | repeated body _ most _ => body.isEmptyOnly || most = some 0
  | group _ body => body.isEmptyOnly
  | _ => false

/-- Whether a pattern can match the empty text. -/
def admitsEmpty : Pattern → Bool
  | empty | anchor _ _ => true
  | seq first second => first.admitsEmpty && second.admitsEmpty
  | alt first second => first.admitsEmpty || second.admitsEmpty
  | repeated body least _ _ => least = 0 || body.admitsEmpty
  | group _ body => body.admitsEmpty
  | _ => false

/-- The set of a pattern whose branches all are sets. -/
def set? : Pattern → Option CharSet
  | one set => some set
  | alt first second => do return .union (← first.set?) (← second.set?)
  | _ => none

/-- A machine as a branch behind another one, to which a link leads, or as it is. -/
def asBranch (isLater : Bool) (machine : Machine) : Machine :=
  if isLater then machine.add (.both Machine.link) else machine

/-- The machine of a pattern, if it looks at nothing outside of its match and at no group that is
referred to. `sizeOf` tells the machine of a set, and `isLater` whether the pattern is a branch
behind another one. -/
def machine? (referred : List Nat) (sizeOf : CharSet → Machine) :
    Pattern → Bool → Option Machine
  | empty, isLater | anchor _ _, isLater => some (asBranch isLater (.both Machine.state))
  | one (.ranges []), true => some (.both 0)
  | one set, isLater => some (asBranch isLater (sizeOf set))
  | seq first second, isLater => do
    let first ← first.machine? referred sizeOf false
    return asBranch isLater (first.add (← second.machine? referred sizeOf false))
  | alt first second, isLater => do
    let apart := (← first.machine? referred sizeOf false).add
      (← second.machine? referred sizeOf true)
    if isLater then return apart.add (.both Machine.link)
    else
      match (alt first second).set? with
      | some set => return sizeOf set
      | none => return apart.add (.both (Machine.link + 2 * Machine.state))
  | repeated body least most _, isLater => do
    let once ← body.machine? referred sizeOf false
    return asBranch isLater (once.repeated body.admitsEmpty body.isEmptyOnly least most)
  | group number body, isLater =>
    if referred.contains number then none
    else do
      let inner ← body.machine? referred sizeOf false
      return asBranch isLater (inner.add ⟨2 * Machine.state, 0⟩)
  | _, _ => none

/-- Whether the machine of a pattern keeps the limit, if it has one. Sets are looked at closely only
where large ones would not do. -/
def machineFits? (referred : List Nat) (pattern : Pattern) : Option Bool :=
  (pattern.machine? referred (fun _ => .both Machine.ample) false).map fun rough =>
    rough.fits || (pattern.machine? referred Machine.ofSet false).any Machine.fits

/-- Whether all machines keep the limit that a pattern needs. Where another part stands behind,
only parts of a fixed width have machines; `isApart` tells whether nothing stands behind the
pattern. -/
def fits (referred : List Nat) : Pattern → Bool → Bool
  | seq first second, isApart =>
    decided (seq first second) isApart fun _ =>
      first.fits referred false && second.fits referred isApart
  | alt first second, isApart =>
    decided (alt first second) isApart fun _ =>
      first.fits referred isApart && second.fits referred isApart
  | repeated body least most greedy, isApart =>
    decided (repeated body least most greedy) isApart fun _ => body.fits referred false
  | group number body, isApart =>
    decided (group number body) isApart fun _ => body.fits referred isApart
  | atomic body, _ | ahead _ body, _ | behind _ body, _ => body.fits referred true
  | choice condition affirmed denied, _ =>
    condition.fits referred false && affirmed.fits referred false && denied.fits referred false
  | pattern, isApart => decided pattern isApart fun _ => true
where
  /-- The answer of the machine of a whole pattern, or that of its parts if it has none. -/
  decided (pattern : Pattern) (isApart : Bool) (parts : Unit → Bool) : Bool :=
    if isApart || pattern.width?.isSome then
      match pattern.machineFits? referred with
      | some answer => answer
      | none => parts ()
    else parts ()

end Pattern

end ArgGuard
