import ArgGuard.Pattern.Lookaround

/-!
# Patterns of schemas

The patterns of JSON Schema mean ASCII by their digits, word characters and blanks. Such a pattern
is expanded before it is applied: each of these classes becomes the set it stands for, and a
control escape becomes the character itself. What the language of expressions does not know, as
look-around, ends the expansion, and the text is left as it is. The text is then read as a pattern
with look-around, which can still fail.
-/

namespace ArgGuard.JsonSchema.ScriptPattern

open Pattern

/-- The set that the escape of a class stands for; a capital letter asks for its complement. -/
def expandedClass? (letter : Char) : Option String :=
  let digits := "0-9"
  let words := "A-Za-z0-9_"
  let blanks := " \t\n\r\x0b\x0c\u00a0\ufeff\u2003\u2029"
  ([('d', "[" ++ digits ++ "]"), ('D', "[^" ++ digits ++ "]"), ('w', "[" ++ words ++ "]"),
    ('W', "[^" ++ words ++ "]"), ('s', "[" ++ blanks ++ "]"), ('S', "[^" ++ blanks ++ "]")] :
    List (Char × String)).lookup letter

/-- Expands the escape of a class that stands at an offset. -/
def expandAt (text : List Char) (offset : Nat) : List Char :=
  match (text.drop (offset + 1)).head?.bind expandedClass? with
  | some set => text.take offset ++ set.toList ++ text.drop (offset + 2)
  | none => text

def control (letter : Char) : Char := Char.ofNat (letter.toNat % 32)

/-- The text with the control escape at an offset replaced, if there is one. -/
def replaceControl? (text : List Char) (offset : Nat) : Option (List Char) :=
  match text.drop offset with
  | '\\' :: 'c' :: letter :: rest =>
    if letter.isAlpha then some (text.take offset ++ control letter :: rest) else none
  | _ => none

/-- Expands a pattern. Every control escape makes the text shorter, so `fuel` is its length. -/
def expandChars? : Nat → List Char → Option (List Char)
  | 0, _ => none
  | fuel + 1, text =>
    match Reading.ofText text with
    | .ok reading =>
      if reading.bell then none else some (reading.shorthands.foldl expandAt text)
    | .error .lookAround => some text
    | .error (.unknownEscape offset) =>
      (replaceControl? text offset).bind (expandChars? fuel)
    | .error .malformed => none

/-- The text of a pattern as it is applied, if it is a pattern at all. -/
def expand? (text : String) : Option String :=
  (expandChars? (text.length + 1) text.toList).map String.ofList

/-- The text of a pattern as it is applied, with the pattern itself. -/
def parse? (text : String) : Option (String × Pattern) := do
  let expanded ← expand? text
  let pattern ← Lookaround.parse? expanded
  return (expanded, pattern)

end ArgGuard.JsonSchema.ScriptPattern
