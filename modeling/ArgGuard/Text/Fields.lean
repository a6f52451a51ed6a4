/-!
# Fields of a text

Ways to take a text apart at a character.
-/

namespace ArgGuard.Fields

/-- The parts of a text between separators; two separators side by side enclose an empty part. -/
def ofText (separator : Char) : List Char → List (List Char)
  | [] => [[]]
  | c :: rest =>
    if c = separator then [] :: ofText separator rest
    else match ofText separator rest with
      | [] => [[c]]
      | head :: tail => (c :: head) :: tail

/-- The text up to the first separator, and what follows it if it is there. -/
def cutAt (separator : Char) (text : List Char) : List Char × Option (List Char) :=
  match text.dropWhile (· != separator) with
  | _ :: rest => (text.takeWhile (· != separator), some rest)
  | [] => (text, none)

/-- The text before and after the last separator. -/
def splitAtLast (separator : Char) (text : List Char) : Option (List Char × List Char) :=
  let reversed := text.reverse
  match reversed.dropWhile (· != separator) with
  | _ :: before => some (before.reverse, (reversed.takeWhile (· != separator)).reverse)
  | [] => none

end ArgGuard.Fields
