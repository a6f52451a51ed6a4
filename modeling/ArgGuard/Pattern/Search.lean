import ArgGuard.Pattern.Basic

/-!
# Searching for patterns

`seek` tells whether a match of a pattern stands somewhere in a subject. A plain pattern is sought
by its ends. Any other pattern is explored: alternatives are tried in order, and when one of them
has missed, the search steps back to the next one. The number of steps back is limited, since there
can be more of them than could ever be done; then the search gives up.

A plain part with nothing behind it keeps to its first match. `isApart` says that nothing is behind
a pattern, as in what is looked at ahead of a place.
-/

namespace ArgGuard.Pattern

/-- Where a match stands, and where its groups began and ended. -/
structure State where
  position : Nat
  starts : List (Nat × Nat) := []
  stops : List (Nat × Nat) := []
deriving DecidableEq

/-- Notes a place under a number, in the stead of an earlier one. -/
def note (number position : Nat) (notes : List (Nat × Nat)) : List (Nat × Nat) :=
  (number, position) :: notes.filter (·.1 != number)

/-- How an attempt went, and how many steps back are left. -/
inductive Attempt
  | met (state : State) (left : Nat)
  | missed (left : Nat)
  | gaveUp

namespace Attempt

/-- Steps back to another attempt if the first one missed. -/
def orElse (attempt : Attempt) (other : Nat → Attempt) : Attempt :=
  match attempt with
  | missed 0 => gaveUp
  | missed (left + 1) => other left
  | attempt => attempt

/-- Goes on behind an attempt that met its goal. -/
def andThen (attempt : Attempt) (goal : State → Nat → Attempt) : Attempt :=
  match attempt with
  | met state left => goal state left
  | attempt => attempt

/-- Goes on if an attempt missed, and misses if it met its goal. -/
def ifMissed (attempt : Attempt) (goal : Nat → Attempt) : Attempt :=
  match attempt with
  | met _ left => missed left
  | attempt => attempt.orElse goal

end Attempt

/-- What is still to be done at a state, with a number of steps back left. -/
abbrev Goal := State → Nat → Attempt

/-- How many steps back a search may take. -/
def patience : Nat := 1000000

/-- Tries several states in order. -/
def tryEach (goal : Goal) : List State → Nat → Attempt
  | [], left => .missed left
  | state :: rest, left => (goal state left).orElse (tryEach goal rest)

/-- Goes on behind the first match of a plain pattern. -/
def pass (subject : Array Char) (pattern : Pattern) (goal : Goal) : Goal := fun state left =>
  match ends subject pattern state.position with
  | position :: _ => goal { state with position } left
  | [] => .missed left

/-- Goes on at a state if a condition holds there. -/
def passIf (holds : Bool) (goal : Goal) : Goal := fun state left =>
  if holds then goal state left else .missed left

/-! ### Repetition -/

/-- Repeats a step. `last` is where the step before began: if it is still there, and the step was
not asked for, the attempt misses. There are `fuel` steps at most. -/
def again (once : Goal → Goal) (least : Nat) (most : Option Nat) (greedy : Bool) (goal : Goal) :
    Nat → Nat → Option Nat → Goal
  | 0, _, _, _, left => .missed left
  | fuel + 1, count, last, state, left =>
    let more : Nat → Attempt :=
      once (again once least most greedy goal fuel (count + 1) (some state.position)) state
    if most = some count then goal state left
    else if count < least then more left
    else if most.isNone && least < count && last = some state.position then .missed left
    else if greedy then (more left).orElse (goal state)
    else (goal state left).orElse more

/-- How many steps a repetition can take: as many as are asked for, and then as many as can go
forward. -/
def longest (subject : Array Char) (least : Nat) (most : Option Nat) : Nat :=
  (most.getD (least + subject.size)) + 2

/-! ### References -/

/-- Whether a text stands somewhere in another one, but for case. -/
def occursCaseless (text inside : List Char) : Bool :=
  let fold := List.map fun (c : Char) => Unicode.CaseFold.fold c.toNat
  (List.range (inside.length + 1)).any fun start =>
    (fold text).isPrefixOf ((fold inside).drop start)

/-- The bytes of characters in UTF-8. -/
def byteCount (text : List Char) : Nat := (String.ofList text).utf8ByteSize

/-- The number of characters from the front that take as many bytes as asked for. -/
def bytesPrefix? : List Char → Nat → Option Nat
  | _, 0 => some 0
  | [], _ + 1 => none
  | c :: rest, count =>
    if c.utf8Size ≤ count then (bytesPrefix? rest (count - c.utf8Size)).map (· + 1) else none

/-- The length of what stands at the front of a text and repeats another one. Without regard to
case it has to take the same number of bytes; then ASCII is compared character by character. -/
def echo? (caseless : Bool) (said rest : List Char) : Option Nat :=
  if said.isPrefixOf rest then some said.length
  else if caseless then do
    let count ← bytesPrefix? rest (byteCount said)
    let again := rest.take count
    let same :=
      if again.all (·.toNat < 0x80) then again.map Char.toLower == said.map Char.toLower
      else occursCaseless said again
    if same then some count else none
  else none

/-- Reads what a group has matched once more. -/
def repeatGroup (subject : Array Char) (number : Nat) (caseless : Bool) (goal : Goal) : Goal :=
  fun state left =>
    match state.starts.lookup number, state.stops.lookup number with
    | some start, some stop =>
      let text := subject.toList
      match echo? caseless ((text.take stop).drop start) (text.drop state.position) with
      | some length => goal { state with position := state.position + length } left
      | none => .missed left
    | _, _ => .missed left

/-! ### Exploring -/

/-- Tries to match a pattern at a state and to meet a goal behind it. -/
def explore (subject : Array Char) : Pattern → Bool → Goal → Goal
  | empty, _, goal => goal
  | one chars, _, goal => fun state left =>
    if setAt subject chars state.position then
      goal { state with position := state.position + 1 } left
    else .missed left
  | anchor wanted word, _, goal => fun state =>
    passIf (Anchor.holdsAt wanted subject word state.position) goal state
  | seq first second, isApart, goal =>
    if isApart && first.isPlain && second.isPlain then pass subject (seq first second) goal
    else explore subject first false (explore subject second isApart goal)
  | alt first second, isApart, goal =>
    if isApart && first.isPlain && second.isPlain then pass subject (alt first second) goal
    else fun state left =>
      (explore subject first isApart goal state left).orElse
        (explore subject second isApart goal state)
  | repeated body least most greedy, isApart, goal =>
    if isApart && body.isPlain then pass subject (repeated body least most greedy) goal
    else
      match body with
      | one chars => fun state left =>
        let found := runEnds subject chars least most greedy state.position
        tryEach goal (found.map fun position => { state with position }) left
      | body =>
        again (explore subject body false) least most greedy goal
          (longest subject least most) 0 none
  | atomic body, _, goal => fun state left =>
    (explore subject body true .met state left).andThen goal
  | group number body, isApart, goal => fun state =>
    explore subject body isApart
      (fun ended => goal { ended with stops := note number ended.position ended.stops })
      { state with starts := note number state.position state.starts }
  | ahead true body, _, goal => fun state =>
    explore subject body true (fun ended => goal { ended with position := state.position }) state
  | ahead false body, _, goal => fun state left =>
    (explore subject body true .met state left).ifMissed (goal state)
  | behind wanted body, _, goal => fun state left =>
    let start := (body.width?.filter (· ≤ state.position)).map fun width =>
      { state with position := state.position - width }
    match start, wanted with
    | some start, true =>
      explore subject body true (fun ended => goal { ended with position := state.position })
        start left
    | some start, false => (explore subject body true .met start left).ifMissed (goal state)
    | none, true => .missed left
    | none, false => (Attempt.missed left).orElse (goal state)
  | back number caseless, _, goal => repeatGroup subject number caseless goal
  | opened number, _, goal => fun state =>
    passIf (state.starts.lookup number).isSome goal state
  | choice condition affirmed denied, isApart, goal => fun state left =>
    match explore subject condition isApart .met state left with
    | .met met left => explore subject affirmed isApart goal met left
    | other => other.orElse (explore subject denied isApart goal state)

/-- Whether a match stands somewhere in the subject, unless the search gives up. -/
def seek (pattern : Pattern) (subject : String) : Option Bool :=
  let chars := subject.toList.toArray
  let starts := List.range (chars.size + 1)
  if pattern.isPlain then some (starts.any fun start => !(ends chars pattern start).isEmpty)
  else
    match tryEach (explore chars pattern true .met) (starts.map ({ position := · })) patience with
    | .met _ _ => some true
    | .missed _ => some false
    | .gaveUp => none

/-- Whether a match is found in the subject. -/
def search (pattern : Pattern) (subject : String) : Bool := pattern.seek subject == some true

end ArgGuard.Pattern
