import ArgGuard.Json.Parser
import ArgGuard.Pattern.Expression
import ArgGuard.Unicode.Property

/-!
# Reading expressions

The language of expressions: literals, classes with the operations of sets, groups, flags,
repetition and anchors. Look-around and references to groups are not part of it and are told apart
from what is malformed, as is a letter behind a backslash that has no meaning.
-/

namespace ArgGuard.Pattern

/-- Why a text is no expression. -/
inductive Fault
  | lookAround
  | unknownEscape (offset : Nat)
  | malformed
deriving DecidableEq, Repr

namespace Parser

/-- What is left of the text and how much was read, the names of the groups so far, where the
letters of classes stood, and whether the bell was named outside of brackets. -/
structure Cursor where
  rest : List Char
  offset : Nat := 0
  names : List String := []
  shorthands : List Nat := []
  bell : Bool := false

/-- Reads a piece of an expression. -/
abbrev Scanner := StateT Cursor (Except Fault)

/-- No expression. -/
def malformed {α : Type} : Scanner α := throw .malformed

/-- The next character. -/
def peek : Scanner (Option Char) := do return (← get).rest.head?

/-- Leaves characters behind. -/
def advance (count : Nat) : Scanner Unit :=
  modify fun cursor =>
    { cursor with rest := cursor.rest.drop count, offset := cursor.offset + count }

/-- The next character, which has to be there. -/
def next : Scanner Char := do
  match ← peek with
  | some c => advance 1; return c
  | none => malformed

/-- Reads a text if it comes next. -/
def accept (text : String) : Scanner Bool := do
  if text.toList.isPrefixOf (← get).rest then
    advance text.length
    return true
  else return false

/-- The number of characters that are blank or in a comment at the front of a text. -/
def blankLength : List Char → Bool → Nat
  | [], _ => 0
  | c :: rest, true => blankLength rest (c != '\n') + 1
  | c :: rest, false =>
    if c = '#' then blankLength rest true + 1
    else if Blank.isBlank c then blankLength rest false + 1
    else 0

def skipBlank (verbose : Bool) : Scanner Unit := do
  if verbose then advance (blankLength (← get).rest false)

/-- Leaves a character behind, and the blanks that follow. -/
def advanceBlank (verbose : Bool) : Scanner Unit := do
  advance 1
  skipBlank verbose

/-- The next character, which has to be there; the blanks behind it are skipped. -/
def nextBlank (verbose : Bool) : Scanner Char := do
  let c ← next
  skipBlank verbose
  return c

/-- The character behind the next one that is neither blank nor opens a comment; the blank itself
if there is none. -/
def peekBehindBlank (verbose : Bool) : Scanner (Option Char) := do
  let rest := (← get).rest.drop 1
  if verbose then
    let visible := rest.dropWhile Blank.isBlank
    let visible := if visible.head? == some '#' then (visible.drop 1).dropWhile Blank.isBlank
      else visible
    return if visible.isEmpty then rest.head? else visible.head?
  else return rest.head?

/-! ### Escapes -/

/-- The class of a letter, and whether it is the complement. -/
def shorthand? (c : Char) : Option (Shorthand × Bool) :=
  ([('d', .digit, false), ('D', .digit, true), ('s', .blank, false), ('S', .blank, true),
    ('w', .word, false), ('W', .word, true)] : List (Char × Shorthand × Bool)).lookup c

/-- Control characters that have a letter. -/
def letterCode? (c : Char) : Option Nat :=
  ([('a', 0x07), ('f', 0x0C), ('t', 0x09), ('n', 0x0A), ('r', 0x0D), ('v', 0x0B)] :
    List (Char × Nat)).lookup c

def hexNumber? (digits : List Char) : Option Nat :=
  if digits.isEmpty then none
  else digits.foldlM (fun n c => (Json.Parser.hexValue? c).map (n * 16 + ·)) 0

/-- Whether a number is the code of a character. -/
def isCode (code : Nat) : Bool := code < 0xD800 || (0xE000 ≤ code && code < 0x110000)

def codeOf (digits : List Char) : Scanner Nat := do
  match hexNumber? digits with
  | some code => if isCode code then return code else malformed
  | none => malformed

/-- A given number of characters. -/
def takeMany (verbose : Bool) : Nat → Scanner (List Char)
  | 0 => return []
  | count + 1 => do
    let c ← nextBlank verbose
    return c :: (← takeMany verbose count)

/-- The characters up to a closing brace, which is left in place. -/
def takeToBrace (verbose : Bool) : Nat → Scanner (List Char)
  | 0 => malformed
  | fuel + 1 => do
    if (← peek) == some '\x7d' then return []
    else
      let c ← nextBlank verbose
      return c :: (← takeToBrace verbose fuel)

def braced (verbose : Bool) : Scanner (List Char) := do
  advanceBlank verbose
  let inner ← takeToBrace verbose ((← get).rest.length + 1)
  advance 1
  return inner

/-- A character given in hexadecimal digits, in braces or as many as the letter says. -/
def hexLiteral (verbose : Bool) (letter : Char) : Scanner Literal := do
  skipBlank verbose
  if (← peek) == some '\x7b' then
    let code ← codeOf (← braced verbose)
    skipBlank verbose
    return ⟨code, false⟩
  else
    let count := if letter = 'x' then 2 else if letter = 'u' then 4 else 8
    let code ← codeOf (← takeMany verbose count)
    return ⟨code, letter = 'x'⟩

/-- The part of a text before the first place where another text stands, and what follows it. -/
def splitOnce (separator : List Char) : List Char → Option (List Char × List Char)
  | [] => none
  | c :: rest =>
    if separator.isPrefixOf (c :: rest) then some ([], (c :: rest).drop separator.length)
    else (splitOnce separator rest).map fun (before, later) => (c :: before, later)

/-- The property that a text names, and whether it is the complement. -/
def propertyOf (text : List Char) : PropertyRef × Bool :=
  let valued := fun (name, value) => PropertyRef.valued (String.ofList name) (String.ofList value)
  match splitOnce ['!', '='] text, splitOnce [':'] text, splitOnce ['='] text with
  | some pair, _, _ => (valued pair, true)
  | none, some pair, _ => (valued pair, false)
  | none, none, some pair => (valued pair, false)
  | none, none, none => (.named (String.ofList text), false)

/-- The property behind its letter, in one letter or in braces. -/
def property (verbose : Bool) (negated : Bool) : Scanner (PropertyRef × Bool) := do
  skipBlank verbose
  if (← peek) == some '\x7b' then
    let (ref, differs) := propertyOf (← braced verbose)
    return (ref, negated != differs)
  else
    let c ← nextBlank verbose
    if c = '\\' then malformed
    return (.named (String.ofList [c]), negated)

/-- Whether a character may stand behind a backslash for itself. -/
def isEscapable (c : Char) : Bool :=
  c.toNat < 0x80 && !c.isAlphanum && c != '<' && c != '>'

def isBoundaryChar (c : Char) : Bool := c.isAlpha || c == '-'

/-- The characters of the name of a word boundary. -/
def boundaryName (verbose : Bool) : Nat → Scanner (List Char)
  | 0 => return []
  | fuel + 1 => do
    match ← peek with
    | some c =>
      if isBoundaryChar c then
        advanceBlank verbose
        return c :: (← boundaryName verbose fuel)
      else return []
    | none => return []

/-- The place that a word boundary names in braces. What does not start with a letter there is no
name but counts a repetition, and is left in place. -/
def boundary (verbose : Bool) : Scanner Anchor := do
  let start ← get
  if (← peek) == some '\x7b' then
    advanceBlank verbose
    match ← peek with
    | none => malformed
    | some c =>
      if isBoundaryChar c then
        let name ← boundaryName verbose ((← get).rest.length + 1)
        if (← next) != '\x7d' then malformed
        let places : List (String × Anchor) :=
          [("start", .wordStart), ("end", .wordEnd), ("start-half", .wordStartHalf),
           ("end-half", .wordEndHalf)]
        match places.lookup (String.ofList name) with
        | some place => return place
        | none => malformed
      else
        set start
        return .wordBoundary
  else return .wordBoundary

/-- What an escape stands for. -/
inductive Escaped
  | char (literal : Literal)
  | shorthand (kind : Shorthand) (negated : Bool)
  | property (ref : PropertyRef) (negated : Bool)
  | place (anchor : Anchor)

/-- The anchors that have a letter or a sign behind the backslash. -/
def escapedPlace? (c : Char) : Option Anchor :=
  ([('A', .textStart), ('z', .textEnd), ('B', .notWordBoundary), ('<', .wordStart),
    ('>', .wordEnd)] : List (Char × Anchor)).lookup c

/-- What follows a backslash. -/
def escape (verbose : Bool) : Scanner Escaped := do
  let offset := (← get).offset - 1
  let c ← next
  if c.isDigit then throw .lookAround
  else if c = 'x' ∨ c = 'u' ∨ c = 'U' then .char <$> hexLiteral verbose c
  else if c = 'p' ∨ c = 'P' then
    let (ref, negated) ← property verbose (c = 'P')
    return .property ref negated
  else if isEscapable c then return .char ⟨c.toNat, false⟩
  else if c = 'b' then .place <$> boundary verbose
  else
    match shorthand? c, letterCode? c, escapedPlace? c with
    | some (kind, negated), _, _ =>
      modify fun cursor => { cursor with shorthands := offset :: cursor.shorthands }
      return .shorthand kind negated
    | none, some code, _ => return .char ⟨code, false⟩
    | none, none, some place => return .place place
    | none, none, none => throw (.unknownEscape offset)

/-! ### Classes -/

/-- A named class of ASCII in brackets of its own, if it is one. -/
def asciiClass : Scanner (Option ClassItem) := do
  let rest := (← get).rest
  let negated := (rest.drop 2).head? == some '^'
  let start := if negated then 3 else 2
  let name := (rest.drop start).takeWhile (· != ':')
  if rest.take 2 == ['[', ':'] && (rest.drop (start + name.length)).take 2 == [':', ']'] then
    match CharSet.asciiClass? (String.ofList name) with
    | some _ =>
      advance (start + name.length + 2)
      return some (.ascii (String.ofList name) negated)
    | none => return none
  else return none

/-- One item of a class: a character, or a set. -/
def classAtom (verbose : Bool) : Scanner (Literal ⊕ ClassItem) := do
  let c ← next
  if c = '\\' then
    match ← escape verbose with
    | .char literal => return .inl literal
    | .shorthand kind negated => return .inr (.shorthand kind negated)
    | .property ref negated => return .inr (.property ref negated)
    | .place _ => return .inr (.union [])
  else return .inl ⟨c.toNat, false⟩

/-- An item of a class as it stands alone. -/
def loneItem : Literal ⊕ ClassItem → Scanner ClassItem
  | .inl literal => return .char literal
  | .inr (.union []) => malformed
  | .inr item => return item

/-- An item of a class, or a range between two of them. A hyphen before the closing bracket or
before another hyphen makes no range. -/
def classRange (verbose : Bool) : Scanner ClassItem := do
  let first ← classAtom verbose
  skipBlank verbose
  let later ← peekBehindBlank verbose
  match ← peek with
  | none => malformed
  | some c =>
    if c != '-' || later == some ']' || later == some '-' then loneItem first
    else
      advanceBlank verbose
      match first, ← classAtom verbose with
      | .inl low, .inl high => if low.code ≤ high.code then return .range low high else malformed
      | _, _ => malformed

def classOperation? : List Char → Option SetOperation
  | '&' :: '&' :: _ => some .inter
  | '-' :: '-' :: _ => some .difference
  | '~' :: '~' :: _ => some .symmetricDifference
  | _ => none

def hyphens (verbose : Bool) : Nat → Scanner (List ClassItem)
  | 0 => return []
  | fuel + 1 => do
    if (← peek) == some '-' then
      advanceBlank verbose
      return .char ⟨'-'.toNat, false⟩ :: (← hyphens verbose fuel)
    else return []

/-- An opening bracket: whether the class is negated, and what stands for itself behind it, which
is hyphens or else a closing bracket. -/
def classStart (verbose : Bool) : Scanner (Bool × List ClassItem) := do
  advanceBlank verbose
  let negated := (← peek) == some '^'
  if negated then advanceBlank verbose
  let lead ← hyphens verbose ((← get).rest.length + 1)
  if lead.isEmpty && (← peek) == some ']' then
    advanceBlank verbose
    return (negated, [.char ⟨']'.toNat, false⟩])
  else return (negated, lead)

/-- The parts of a class up to its closing bracket. `left` is what stands before the last
operation, and `items` what stands behind it, the last one first. -/
def classParts (verbose : Bool) :
    Nat → Option (SetOperation × ClassItem) → List ClassItem → Scanner ClassItem
  | 0, _, _ => malformed
  | fuel + 1, left, items => do
    skipBlank verbose
    let joined := match left with
      | some (operation, left) => .operation operation left (.ofList items.reverse)
      | none => .ofList items.reverse
    match ← peek with
    | none => malformed
    | some ']' =>
      advance 1
      return joined
    | some '[' =>
      match ← asciiClass with
      | some item => classParts verbose fuel left (item :: items)
      | none =>
        let (negated, lead) ← classStart verbose
        let inner ← classParts verbose fuel none lead
        classParts verbose fuel left (.bracketed negated inner :: items)
    | some _ =>
      match classOperation? (← get).rest with
      | some operation =>
        advance 2
        classParts verbose fuel (some (operation, joined)) []
      | none =>
        let item ← classRange verbose
        classParts verbose fuel left (item :: items)

def bracketClass (verbose : Bool) : Scanner Expression := do
  let (negated, lead) ← classStart verbose
  let inner ← classParts verbose ((← get).rest.length + 1) none lead.reverse
  return .bracketed negated inner

/-! ### Repetition -/

/-- A run of digits, between which blanks may stand where they are allowed. -/
def digits (verbose : Bool) : Nat → Scanner (List Char)
  | 0 => return []
  | fuel + 1 => do
    match ← peek with
    | some c =>
      if c.isDigit then
        advanceBlank verbose
        return c :: (← digits verbose fuel)
      else return []
    | none => return []

/-- A number of 32 bits with blanks around it. -/
def decimal (verbose : Bool) : Scanner Nat := do
  advance ((← get).rest.takeWhile Blank.isBlank).length
  let digits ← digits verbose ((← get).rest.length + 1)
  advance ((← get).rest.takeWhile Blank.isBlank).length
  skipBlank verbose
  let value := Scan.natOfDigits digits
  if digits.isEmpty || 0xFFFFFFFF < value then malformed
  return value

def bounds (verbose : Bool) : Scanner (Nat × Option Nat) := do
  advanceBlank verbose
  let least ← decimal verbose
  let most ← if (← peek) == some ',' then do
      advanceBlank verbose
      if (← peek) == some '\x7d' then pure none else some <$> decimal verbose
    else pure (some least)
  if (← peek) != some '\x7d' then malformed
  if most.any (· < least) then malformed
  advanceBlank verbose
  return (least, most)

/-! ### Groups -/

/-- Reads the letters of flags up to `:` or `)`, which is left in place. A hyphen switches off what
follows it. -/
def flagLetters : Nat → Bool → List (Flag × Bool) → Scanner (List (Flag × Bool))
  | 0, _, _ => malformed
  | fuel + 1, off, seen => do
    match ← peek with
    | none => malformed
    | some c =>
      if c = ':' ∨ c = ')' then
        if off && seen.all (·.2) then malformed
        return seen
      else if c = '-' then
        if off then malformed
        advance 1
        flagLetters fuel true seen
      else
        match Flag.ofChar? c with
        | some flag =>
          if (seen.lookup flag).isSome then malformed
          advance 1
          flagLetters fuel off (seen ++ [(flag, !off)])
        | none => malformed

/-- Whether a name of a group can start with a character. -/
def isNameStart (c : Char) : Bool := c == '_' || Unicode.Property.alphabetic.holds c.toNat

/-- Whether a name of a group can go on with a character. -/
def isNameChar (c : Char) : Bool :=
  ['_', '.', '[', ']'].contains c || Unicode.Property.alphanumeric.holds c.toNat

/-- A name of a group: no name stands twice. -/
def groupName : Scanner Unit := do
  let name := (← get).rest.takeWhile (· != '>')
  advance name.length
  let _ ← next
  let wellFormed := match name with
    | [] => false
    | first :: others => isNameStart first && others.all isNameChar
  let names := (← get).names
  if !wellFormed || names.contains (String.ofList name) then malformed
  modify fun cursor => { cursor with names := String.ofList name :: names }

/-- What opens behind a parenthesis. -/
inductive Opening
  | flags (changes : List (Flag × Bool))
  | group (captures : Bool) (changes : List (Flag × Bool))

/-- Reads what stands behind an opening parenthesis, before the body. -/
def opening (verbose : Bool) : Scanner Opening := do
  skipBlank verbose
  let looks ← ["?=", "?!", "?<=", "?<!"].anyM accept
  if looks then throw .lookAround
  else if (← accept "?P<") || (← accept "?<") then
    groupName
    return .group true []
  else if ← accept "?" then
    let changes ← flagLetters ((← get).rest.length + 1) false []
    let stop ← next
    if stop = ':' then return .group false changes
    else if changes.isEmpty then malformed
    else return .flags changes
  else return .group true []

/-- The branches of a group: those that are closed and the items of the open one, the last one
first. -/
structure Branches where
  done : List Expression := []
  items : List Expression := []

namespace Branches

/-- The branches, the last one first. -/
def all (branches : Branches) : List Expression := .ofItems branches.items.reverse :: branches.done

def close (branches : Branches) : Expression := .ofBranches branches.all.reverse

/-- Opens another branch. -/
def openNext (branches : Branches) : Branches := ⟨branches.all, []⟩

/-- Adds an item. -/
def push (branches : Branches) (item : Expression) : Branches :=
  { branches with items := item :: branches.items }

/-- Takes off the last item, which is to be repeated. Flags cannot be. -/
def popRepeated : Branches → Option (Expression × Branches)
  | ⟨_, []⟩ => none
  | ⟨_, .flags _ :: _⟩ => none
  | ⟨done, item :: items⟩ => some (item, ⟨done, items⟩)

end Branches

/-- The flag of blanks and comments as changes leave it. -/
def verboseBehind (verbose : Bool) (changes : List (Flag × Bool)) : Bool :=
  (changes.lookup .verbose).getD verbose

/-- Repeats the last item: a question mark prefers fewer times. -/
def repeatLast (branches : Branches) (bounds : Scanner (Nat × Option Nat)) :
    Scanner Branches := do
  match branches.popRepeated with
  | none => malformed
  | some (item, others) =>
    let (least, most) ← bounds
    let lazy ← accept "?"
    return others.push (.repeated item least most !lazy)

/-- Bounds that one character says. -/
def signBounds (least : Nat) (most : Option Nat) : Scanner (Nat × Option Nat) := do
  advance 1
  return (least, most)

/-- The items of a group up to its closing parenthesis, which is left in place, or to the end. -/
def items : Nat → Bool → Branches → Scanner Expression
  | 0, _, _ => malformed
  | fuel + 1, verbose, branches => do
    skipBlank verbose
    match ← peek with
    | none => return branches.close
    | some c =>
      if c = ')' then return branches.close
      else if c = '|' then
        advance 1
        items fuel verbose branches.openNext
      else if c = '(' then
        advance 1
        match ← opening verbose with
        | .flags changes =>
          items fuel (verboseBehind verbose changes) (branches.push (.flags changes))
        | .group captures changes =>
          let body ← items fuel (verboseBehind verbose changes) {}
          if (← next) != ')' then malformed
          items fuel verbose (branches.push (.group captures changes body))
      else if c = '[' then
        let item ← bracketClass verbose
        items fuel verbose (branches.push item)
      else if c = '*' then
        items fuel verbose (← repeatLast branches (signBounds 0 none))
      else if c = '+' then
        items fuel verbose (← repeatLast branches (signBounds 1 none))
      else if c = '?' then
        items fuel verbose (← repeatLast branches (signBounds 0 (some 1)))
      else if c = '\x7b' then
        items fuel verbose (← repeatLast branches (bounds verbose))
      else if c = '\\' then
        advance 1
        let bell := (← peek) == some 'a'
        if bell then modify fun cursor => { cursor with bell := true }
        let item := match ← escape verbose with
          | .char literal => Expression.char literal
          | .shorthand kind negated => .shorthand kind negated
          | .property ref negated => .property ref negated
          | .place found => .place found
        items fuel verbose (branches.push item)
      else
        advance 1
        let item := if c = '.' then Expression.dot
          else if c = '^' then .place .lineStart
          else if c = '$' then .place .lineEnd
          else .char ⟨c.toNat, false⟩
        items fuel verbose (branches.push item)

end Parser

/-- What reading an expression tells: the expression, where the letters of classes stand in the
text, and whether the bell is named outside of brackets. -/
structure Reading where
  expression : Expression
  shorthands : List Nat
  bell : Bool

/-- Reads an expression. -/
def Reading.ofText (text : List Char) : Except Fault Reading :=
  let whole : Parser.Scanner Expression := do
    let expression ← Parser.items (text.length + 1) false {}
    match ← Parser.peek with
    | none => return expression
    | some _ => Parser.malformed
  match whole.run { rest := text } with
  | .ok (expression, cursor) =>
    if expression.depth ≤ Expression.deepest then
      .ok ⟨expression, cursor.shorthands, cursor.bell⟩
    else .error .malformed
  | .error fault => .error fault

end ArgGuard.Pattern
