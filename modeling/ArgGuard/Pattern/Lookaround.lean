import ArgGuard.Pattern.Meaning

/-!
# Patterns with look-around

A wider language of patterns, with look-around, references to groups, groups that give nothing
back and conditions. Its classes and properties are those of expressions. It is laxer in some ways:
a brace that counts nothing stands for itself, and a flag set in a group stays set behind it. It is
stricter in others: what takes no characters cannot be repeated, nothing is repeated twice, and what
is looked for behind a place has to have a fixed width.
-/

namespace ArgGuard.Pattern.Lookaround

/-- What is left of the text, the flags in force, the number of groups opened, their names, and the
groups that are referred to. -/
structure Cursor where
  rest : List Char
  flags : Flags := {}
  groups : Nat := 0
  names : List (String × Nat) := []
  referred : List Nat := []
  numbered : Bool := false

/-- Reads a piece of a pattern. -/
abbrev Scanner := StateT Cursor Option

/-- The next character. -/
def peek : Scanner (Option Char) := do return (← get).rest.head?

/-- Leaves characters behind. -/
def advance (count : Nat) : Scanner Unit :=
  modify fun cursor => { cursor with rest := cursor.rest.drop count }

/-- The next character, which has to be there. -/
def next : Scanner Char := do
  match ← peek with
  | some c => advance 1; return c
  | none => failure

/-- Reads a text if it comes next. -/
def accept (text : String) : Scanner Bool := do
  if text.toList.isPrefixOf (← get).rest then
    advance text.length
    return true
  else return false

/-- Reads a character that has to come next. -/
def expect (c : Char) : Scanner Unit := do
  if (← next) != c then failure

/-! ### Blanks and comments -/

def isBlank (c : Char) : Bool := [' ', '\t', '\n', '\r'].contains c

/-- A comment up to its closing parenthesis, behind which the rest stands. A backslash takes the
character behind it along. -/
def behindComment? : List Char → Option (List Char)
  | [] => none
  | ')' :: rest => some rest
  | '\\' :: [] => none
  | '\\' :: _ :: rest => behindComment? rest
  | _ :: rest => behindComment? rest

def behindBlank? (verbose : Bool) : Nat → List Char → Option (List Char)
  | 0, text => some text
  | fuel + 1, text =>
    match text with
    | '(' :: '?' :: '#' :: rest => (behindComment? rest).bind (behindBlank? verbose fuel)
    | c :: rest =>
      if !verbose then some text
      else if c = '#' then behindBlank? verbose fuel ((rest.dropWhile (· != '\n')).drop 1)
      else if isBlank c then behindBlank? verbose fuel rest
      else some text
    | [] => some text

/-- Skips comments, and blanks where they are allowed. -/
def skipBlank : Scanner Unit := do
  let cursor ← get
  let rest ← behindBlank? cursor.flags.verbose (cursor.rest.length + 1) cursor.rest
  set { cursor with rest := rest }

/-! ### Names and numbers of groups -/

/-- Whether a name of a group can hold a character. -/
def isNameChar (c : Char) : Bool := c == '_' || Unicode.Property.alphanumeric.holds c.toNat

/-- A number in digits. One of more than 64 bits is none. -/
def decimal? : Scanner (Option Nat) := do
  let digits := (← get).rest.takeWhile Char.isDigit
  let number := Scan.natOfDigits digits
  if digits.isEmpty || 0xFFFFFFFFFFFFFFFF < number then return none
  else
    advance digits.length
    return some number

def newGroup : Scanner Nat := do
  let number := (← get).groups + 1
  modify fun cursor => { cursor with groups := number }
  return number

/-- A name of a group up to its closing sign. A later group may take over a name. -/
def groupName (number : Nat) : Scanner Unit := do
  let name := (← get).rest.takeWhile isNameChar
  advance name.length
  expect '>'
  if name.isEmpty then failure
  modify fun cursor => { cursor with names := (String.ofList name, number) :: cursor.names }

/-- Refers to a group, which has to be open or closed by now. -/
def refer (number : Nat) : Scanner Pattern := do
  let cursor ← get
  if cursor.groups < number then failure
  set { cursor with referred := number :: cursor.referred }
  return .back number cursor.flags.caseless

/-- A reference by number. Patterns that are short for the number are refused. -/
def numberedReference (size : Nat) : Scanner Pattern := do
  let some number ← decimal? | failure
  if size / 2 ≤ number then failure
  modify fun cursor => { cursor with numbered := true }
  refer number

/-- A reference by name up to a closing sign: by the name of a group, by its number, or by a number
counted from here. -/
def namedReference (close : Char) (relative : Bool) : Scanner Pattern := do
  let cursor ← get
  let name := cursor.rest.takeWhile isNameChar
  advance name.length
  let sign ← peek
  let number ← if relative && name.isEmpty && (sign == some '-' || sign == some '+') then do
      advance 1
      let some distance ← decimal? | failure
      if sign == some '-' && cursor.groups + 1 < distance then failure
      pure (if sign == some '+' then cursor.groups + distance else cursor.groups + 1 - distance)
    else
      let digits := !name.isEmpty && name.all Char.isDigit
      match cursor.names.lookup (String.ofList name), digits with
      | some number, _ => pure number
      | none, true => pure (Scan.natOfDigits name)
      | none, false => failure
  expect close
  refer number

/-! ### Characters and classes -/

/-- A character that stands for itself. -/
def literal (code : Nat) : Scanner Pattern := do
  return .one (Meaning.withCase (← get).flags (.single code))

/-- A text of the language of expressions. -/
def delegated (text : List Char) : Scanner Pattern := do
  let pattern ← parseWith? { caseless := (← get).flags.caseless } text
  return pattern

/-- A character given in hexadecimal digits: as many as the letter says, or up to eight in
braces. -/
def hexCode (letter : Char) : Scanner Nat := do
  let count := if letter = 'x' then 2 else if letter = 'u' then 4 else 8
  let rest := (← get).rest
  let isHex := fun (c : Char) => (Json.Parser.hexValue? c).isSome
  let fixed := rest.take count
  let digits ← if fixed.length = count ∧ fixed.all isHex then do
      advance count
      pure fixed
    else do
      expect '\x7b'
      let digits := (← get).rest.takeWhile isHex
      advance digits.length
      expect '\x7d'
      if 8 < digits.length then failure
      pure digits
  let code ← Parser.hexNumber? digits
  if Parser.isCode code then return code else failure

/-- The text of a property behind its letter: one character or braces. -/
def propertyText : Scanner (List Char) := do
  let c ← next
  if c = '\x7b' then
    let name := (← get).rest.takeWhile (· != '\x7d')
    advance name.length
    expect '\x7d'
    return c :: name ++ ['\x7d']
  else return [c]

/-- What an escape stands for: a character, a text of the language of expressions, or a pattern of
its own, which cannot stand in brackets. -/
inductive Escaped
  | code (code : Nat)
  | text (text : List Char)
  | pattern (pattern : Pattern)

/-- The anchors that have a letter or a sign behind the backslash. -/
def anchor? (c : Char) : Option Anchor :=
  ([('A', .textStart), ('z', .textEnd), ('Z', .trailingLines), ('b', .wordBoundary),
    ('B', .notWordBoundary), ('<', .wordStart), ('>', .wordEnd)] : List (Char × Anchor)).lookup c

/-- Letters that name a place or a group outside of brackets and stand for themselves within. -/
def placeLetters : List Char := ['A', 'z', 'B', 'k', 'K', 'G']

/-- A pattern that takes no characters and can yet be repeated. -/
def still (pattern : Pattern) : Pattern := .seq pattern .empty

/-- An anchor behind a backslash, which does not take a name. -/
def boundary (c : Char) (place : Anchor) : Scanner Escaped := do
  if (c = 'b' ∨ c = 'B') ∧ (← peek) == some '\x7b' then failure
  return .pattern (.anchor place Unicode.Property.word)

/-- What follows a backslash. -/
def escape (size : Nat) (inClass : Bool) : Scanner Escaped := do
  let before := (← get).rest
  let c ← next
  if c.isDigit then
    modify fun cursor => { cursor with rest := before }
    .pattern <$> numberedReference size
  else if c = 'k' ∧ !inClass then
    if ← accept "'" then .pattern <$> namedReference '\'' true
    else
      expect '<'
      .pattern <$> namedReference '>' true
  else if c = 'K' ∧ !inClass then return .pattern (still .empty)
  else if c = 'G' ∧ !inClass then return .pattern (still (.anchor .textStart .none))
  else if ['d', 's', 'w', 'D', 'S', 'W'].contains c then return .text ['\\', c]
  else if c = 'h' then return .text "[0-9A-Fa-f]".toList
  else if c = 'H' then return .text "[^0-9A-Fa-f]".toList
  else if c = 'O' ∧ !inClass then return .pattern (.one (.complement .none))
  else if c = 'x' ∨ c = 'u' ∨ c = 'U' then .code <$> hexCode c
  else if (c = 'p' ∨ c = 'P') ∧ (← peek).isSome then
    return .text ('\\' :: c :: (← propertyText))
  else
    match (if inClass then none else anchor? c), Parser.letterCode? c with
    | some place, _ => boundary c place
    | none, some code => return .code code
    | none, none =>
      if c = 'b' then return .code 0x08
      else if c = 'e' then return .code 0x1B
      else if c.isAlpha ∧ !(inClass ∧ placeLetters.contains c) then failure
      else return .code c.toNat

/-- Signs that mean something in a class. -/
def isMeta (c : Char) : Bool := "\\.+*?()|[]\x7b\x7d^$#&-~".toList.contains c

/-- A character as it stands for itself in a class. -/
def quoted (c : Char) : List Char := if isMeta c then ['\\', c] else [c]

/-- The text of a class up to the bracket that closes the first one, with its escapes as
expressions know them. -/
def classText (size : Nat) : Nat → Nat → Scanner (List Char)
  | 0, _ => failure
  | fuel + 1, depth => do
    let c ← next
    if c = '\\' then
      let text ← match ← escape size true with
        | .code code => pure (quoted (Char.ofNat code))
        | .text text => pure text
        | .pattern _ => failure
      return text ++ (← classText size fuel depth)
    else if c = '[' then return c :: (← classText size fuel (depth + 1))
    else if c = ']' then
      if depth = 0 then return [c] else return c :: (← classText size fuel (depth - 1))
    else return c :: (← classText size fuel depth)

/-- A class behind its opening bracket. A closing bracket that comes first stands for itself. -/
def bracketClass (size : Nat) : Scanner Pattern := do
  let negation := if ← accept "^" then ['^'] else []
  let lead := if ← accept "]" then [']'] else []
  let inner ← classText size ((← get).rest.length + 1) 0
  delegated ('[' :: negation ++ lead ++ inner)

/-! ### Repetition -/

/-- Whether a pattern can be repeated: a place cannot, nor can nothing at all. -/
def isRepeatable : Pattern → Bool
  | .empty => false
  | .anchor _ _ => false
  | .ahead _ _ => false
  | .behind _ _ => false
  | _ => true

def bounds : Scanner (Nat × Option Nat) := do
  expect '\x7b'
  skipBlank
  let least ← if (← peek) == some ',' then pure 0 else do
    match ← decimal? with
    | some least => pure least
    | none => failure
  skipBlank
  let most ← if ← accept "," then do
      skipBlank
      decimal?
    else pure (some least)
  skipBlank
  expect '\x7d'
  return (least, most)

/-- How often what stands before is to be matched, if it says so. -/
def repetition? : Scanner (Option (Nat × Option Nat)) := do
  if ← accept "?" then return some (0, some 1)
  else if ← accept "*" then return some (0, none)
  else if ← accept "+" then return some (1, none)
  else if (← peek) == some '\x7b' then (some <$> bounds) <|> pure none
  else return none

/-- Repeats an atom as often as the text says. A question mark prefers fewer times, and a plus sign
behind that gives nothing back. -/
def repeatAtom (atom : Pattern) : Scanner Pattern := do
  skipBlank
  match ← repetition? with
  | none => return atom
  | some (least, most) =>
    if !isRepeatable atom || most.any (· < least) then failure
    skipBlank
    let lazy ← accept "?"
    let repeated := Pattern.repeated atom least most (lazy == (← get).flags.swapGreed)
    if ← accept "+" then return .atomic repeated else return repeated

/-! ### Groups -/

/-- Several pieces one behind the other. -/
def concat : List Pattern → Pattern
  | [] => .empty
  | [piece] => piece
  | piece :: rest => .seq piece (concat rest)

/-- Several branches, which are kept apart from the branches within them. -/
def branches : List Pattern → Pattern
  | [] => .empty
  | [branch] => branch
  | branch :: rest =>
    let branch := match branch with
      | .alt _ _ => still branch
      | branch => branch
    .alt branch (branches rest)

/-- Whether every branch of a pattern has a fixed width. -/
def hasFixedBranches : Pattern → Bool
  | .alt first rest =>
    (Pattern.alt first rest).width?.isSome || (first.width?.isSome && hasFixedBranches rest)
  | body => body.width?.isSome

/-- What stands in parentheses. -/
inductive Group
  | capturing (number : Nat)
  | atomic
  | ahead (wanted : Bool)
  | behind (wanted : Bool)

/-- The pattern of a group with a given body. -/
def Group.close? (body : Pattern) : Group → Option Pattern
  | capturing number => some (.group number body)
  | atomic => some (.atomic body)
  | ahead wanted => some (.ahead wanted body)
  | behind wanted => if hasFixedBranches body then some (.behind wanted body) else none

/-- Sets flags up to `:` or `)`, which is left in place. The Unicode flag cannot be switched off,
and a hyphen alone changes nothing. `first` is whether nothing was read yet. -/
def setFlags : Nat → Bool → Bool → Scanner Unit
  | 0, _, _ => failure
  | fuel + 1, first, off => do
    skipBlank
    let c ← next
    if c = '-' then
      let following ← peek
      if off || (first && (following == some ':' || following == some ')')) then failure
      setFlags fuel false true
    else if c = ')' ∨ c = ':' then
      if first && c = ')' then failure
      modify fun cursor => { cursor with rest := c :: cursor.rest }
    else
      match Flag.ofChar? c with
      | some .unicode => if off then failure
      | some .carriageReturns => failure
      | some flag => modify fun cursor => { cursor with flags := cursor.flags.set flag !off }
      | none => failure
      setFlags fuel false off

/-- What opens behind a parenthesis and is no condition, reference or flags. -/
def opening? : Scanner (Option Group) := do
  if ← accept "?=" then return some (.ahead true)
  else if ← accept "?!" then return some (.ahead false)
  else if ← accept "?<=" then return some (.behind true)
  else if ← accept "?<!" then return some (.behind false)
  else if (← accept "?<") || (← accept "?P<") then
    let number ← newGroup
    groupName number
    return some (.capturing number)
  else if ← accept "?>" then return some .atomic
  else if (← peek) == some '?' then return none
  else return some (.capturing (← newGroup))

/-- Splits the body of a condition into what follows if it holds and if it does not. -/
def conditionBranches : Pattern → Pattern × Pattern
  | .alt first rest => (first, rest)
  | body => (body, .empty)

/-- A condition with its branches. A reference as a condition asks whether the group was opened. -/
def condition (tested body : Pattern) : Pattern :=
  let tested := match tested with
    | .back number _ => .opened number
    | other => other
  match conditionBranches body with
  | (.empty, .empty) => tested
  | (affirmed, denied) => .choice tested affirmed denied

/-- How deep groups may lie in each other. -/
def deepest : Nat := 64

mutual

/-- The branches of a group up to its closing parenthesis, which is left in place, or to the end. A
group without branches may not refer to groups by number where groups have names. -/
def alternatives (size : Nat) : Nat → Nat → Scanner Pattern
  | 0, _ => failure
  | fuel + 1, depth => do
    let first ← pieces size fuel depth
    skipBlank
    let others ← moreBranches size fuel depth
    if others.isEmpty then
      let cursor ← get
      if cursor.numbered && !cursor.names.isEmpty then failure
      return concat first
    else return branches (concat first :: others)

/-- The branches behind the first one. -/
def moreBranches (size : Nat) : Nat → Nat → Scanner (List Pattern)
  | 0, _ => failure
  | fuel + 1, depth => do
    if ← accept "|" then
      let branch ← pieces size fuel depth
      skipBlank
      return concat branch :: (← moreBranches size fuel depth)
    else return []

def pieces (size : Nat) : Nat → Nat → Scanner (List Pattern)
  | 0, _ => failure
  | fuel + 1, depth => do
    let before := (← get).rest.length
    if before = 0 then return []
    let atom ← atom size fuel depth
    let piece ← repeatAtom atom
    if (← get).rest.length = before then return []
    let others ← pieces size fuel depth
    return match piece with
      | .empty => others
      | piece => piece :: others

/-- What can be repeated: a character, a class, an anchor, an escape or a group. -/
def atom (size : Nat) : Nat → Nat → Scanner Pattern
  | 0, _ => failure
  | fuel + 1, depth => do
    skipBlank
    let flags := (← get).flags
    match ← peek with
    | none => return .empty
    | some c =>
      if "+*?|)".toList.contains c then return .empty
      else
        advance 1
        if c = '.' then
          return .one (.complement (if flags.dotAll then .none else .single '\n'.toNat))
        else if c = '^' then
          return .anchor (Meaning.place flags .lineStart) .none
        else if c = '$' then
          return .anchor (Meaning.place flags .lineEnd) .none
        else if c = '(' then group size fuel (depth + 1)
        else if c = '[' then bracketClass size
        else if c = '\\' then
          match ← escape size false with
          | .code code => literal code
          | .text text => delegated text
          | .pattern pattern => return pattern
        else literal c.toNat

/-- What stands behind an opening parenthesis, with the closing one. -/
def group (size : Nat) : Nat → Nat → Scanner Pattern
  | 0, _ => failure
  | fuel + 1, depth => do
    if deepest ≤ depth then failure
    skipBlank
    match ← opening? with
    | some kind =>
      let body ← alternatives size fuel depth
      skipBlank
      expect ')'
      kind.close? body
    | none =>
      if ← accept "?P=" then namedReference ')' false
      else if ← accept "?(" then
        let tested ← testedCondition size fuel depth
        skipBlank
        expect ')'
        let start := (← get).rest.length
        let body ← alternatives size fuel depth
        let isReference := match tested with
          | .back _ _ => true
          | _ => false
        if (← get).rest.length = start && !isReference then failure
        skipBlank
        expect ')'
        return condition tested body
      else
        advance 1
        let before := (← get).flags
        setFlags ((← get).rest.length + 1) true false
        if ← accept ")" then return .empty
        else
          expect ':'
          let body ← alternatives size fuel depth
          expect ')'
          modify fun cursor => { cursor with flags := before }
          return body

/-- What a condition asks for: a group, or a pattern. -/
def testedCondition (size : Nat) : Nat → Nat → Scanner Pattern
  | 0, _ => failure
  | fuel + 1, depth => do
    match ← peek with
    | none => failure
    | some c =>
      if c.isDigit then numberedReference size
      else if ← accept "'" then namedReference '\'' true
      else if ← accept "<" then namedReference '>' true
      else alternatives size fuel depth

end

/-- Reads a pattern with look-around. -/
def parse? (text : String) : Option Pattern :=
  let chars := text.toList
  match (alternatives text.utf8ByteSize (8 * (chars.length + 2)) 0).run { rest := chars } with
  | some (pattern, cursor) =>
    if cursor.rest.isEmpty && pattern.fits cursor.referred true then
      some (pattern.settled cursor.referred)
    else none
  | none => none

end ArgGuard.Pattern.Lookaround
