import ArgGuard.Pattern.Machine
import ArgGuard.Pattern.Parser
import ArgGuard.Pattern.Search
import ArgGuard.Unicode.PropertyName

/-!
# What expressions mean

An expression becomes a pattern under flags, which it may change on the way; a change lasts to the
end of the group. Not every expression has a meaning: a property may be unknown, and without
Unicode nothing may match a byte beyond ASCII. A pattern must not be too large, either.
-/

namespace ArgGuard.Pattern

namespace Meaning

/-- A set, caseless if the flags say so. -/
def withCase (flags : Flags) (set : CharSet) : CharSet :=
  if !flags.caseless then set
  else if flags.unicode then .caseless set
  else .inter .ascii (.caseless set)

/-- A set or its complement; case is looked past before the complement is taken. -/
def withNegation? (flags : Flags) (negated : Bool) (set : CharSet) : Option CharSet :=
  if !negated then some (withCase flags set)
  else if flags.unicode then some (.complement (withCase flags set))
  else none

def wordSet (flags : Flags) : CharSet :=
  if flags.unicode then Unicode.Property.word else .asciiWord

/-- The characters of a class that has a letter. -/
def shorthandSet? (flags : Flags) (kind : Shorthand) (negated : Bool) : Option CharSet :=
  let set := match kind, flags.unicode with
    | .digit, true => Unicode.Property.digit
    | .digit, false => .asciiDigit
    | .blank, true => Unicode.Property.blank
    | .blank, false => .asciiSpace
    | .word, _ => wordSet flags
  if !negated then some set
  else if flags.unicode then some (.complement set)
  else none

def propertySet? (flags : Flags) (ref : PropertyRef) (negated : Bool) : Option CharSet :=
  if flags.unicode then
    let set := match ref with
      | .named name => Unicode.PropertyName.set? name
      | .valued name value => Unicode.PropertyName.valueSet? name value
    set.bind (withNegation? flags negated)
  else none

/-- The code of a character in brackets, where only ASCII may stand without Unicode. -/
def classCode? (flags : Flags) (literal : Literal) : Option Nat :=
  if flags.unicode || literal.code < 0x80 then some literal.code else none

def combine : SetOperation → CharSet → CharSet → CharSet
  | .inter => .inter
  | .difference => .difference
  | .symmetricDifference => .symmetricDifference

mutual

def itemSet? (flags : Flags) : ClassItem → Option CharSet
  | .char literal => (classCode? flags literal).map .single
  | .range first last => do return .ranges [(← classCode? flags first, ← classCode? flags last)]
  | .ascii name negated => do withNegation? flags negated (← CharSet.asciiClass? name)
  | .shorthand kind negated => shorthandSet? flags kind negated
  | .property ref negated => propertySet? flags ref negated
  | .bracketed negated inner => do withNegation? flags negated (← itemSet? flags inner)
  | .union items => unionSet? flags items
  | .operation operation left right => do
    let left ← itemSet? flags left
    let right ← itemSet? flags right
    return combine operation (withCase flags left) (withCase flags right)

/-- The characters of several items in brackets. -/
def unionSet? (flags : Flags) : List ClassItem → Option CharSet
  | [] => some .none
  | item :: rest => do return .union (← itemSet? flags item) (← unionSet? flags rest)

end

/-- A character that stands for itself. -/
def literal? (flags : Flags) (literal : Literal) : Option Pattern :=
  if flags.unicode || literal.code < 0x80 then
    some (.one (withCase flags (.single literal.code)))
  else if literal.byte then none
  else some (.one (.single literal.code))

/-- Any character but those that break lines. -/
def dot? (flags : Flags) : Option Pattern :=
  let breaks := if flags.dotAll then CharSet.none
    else if flags.carriageReturns then .ranges [(0x0A, 0x0A), (0x0D, 0x0D)]
    else .single 0x0A
  if flags.unicode then some (.one (.complement breaks)) else none

def place (flags : Flags) : Anchor → Anchor
  | .lineStart =>
    if !flags.multiLine then .textStart
    else if flags.carriageReturns then .breakStart
    else .lineStart
  | .lineEnd =>
    if !flags.multiLine then .textEnd
    else if flags.carriageReturns then .breakEnd
    else .lineEnd
  | other => other

mutual

/-- The pattern of an expression, and the flags behind it. -/
def translate? (flags : Flags) : Expression → Option (Pattern × Flags)
  | .empty => some (.empty, flags)
  | .flags changes => some (.empty, flags.change changes)
  | .char literal => (literal? flags literal).map (·, flags)
  | .dot => (dot? flags).map (·, flags)
  | .place written => some (.anchor (place flags written) (wordSet flags), flags)
  | .shorthand kind negated => (shorthandSet? flags kind negated).map (.one ·, flags)
  | .property ref negated => (propertySet? flags ref negated).map (.one ·, flags)
  | .bracketed negated inner => do
    let set ← withNegation? flags negated (← itemSet? flags inner)
    return (.one set, flags)
  | .repeated body least most greedy => do
    let (body, later) ← translate? flags body
    return (.repeated body least most (greedy != flags.swapGreed), later)
  | .group captures changes body => do
    let (body, _) ← translate? (flags.change changes) body
    return (if captures then .group 0 body else body, flags)
  | .concat items => translateItems? flags items
  | .alternation branches => translateBranches? flags branches

/-- The pattern of items one behind the other. -/
def translateItems? (flags : Flags) : List Expression → Option (Pattern × Flags)
  | [] => some (.empty, flags)
  | item :: rest => do
    let (first, later) ← translate? flags item
    let (others, later) ← translateItems? later rest
    return (.seq first others, later)

/-- The pattern of branches, of which there is one at least. -/
def translateBranches? (flags : Flags) : List Expression → Option (Pattern × Flags)
  | [] => some (.one .none, flags)
  | branch :: rest => do
    let (first, later) ← translate? flags branch
    let (others, later) ← translateBranches? later rest
    return (.alt first others, later)

end

end Meaning

def ofExpression? (flags : Flags) (expression : Expression) : Option Pattern :=
  (Meaning.translate? flags expression).map (·.1)

/-- Reads a pattern under flags, with its groups. -/
def parseWith? (flags : Flags) (text : List Char) : Option Pattern :=
  match Reading.ofText text with
  | .ok reading => ofExpression? flags reading.expression
  | .error _ => none

/-- Reads a pattern. Nothing refers to its groups, so they are left out. -/
def parse? (text : String) : Option Pattern := do
  let pattern ← parseWith? {} text.toList
  if pattern.fits [] true then return pattern.settled [] else none

end ArgGuard.Pattern
