import ArgGuard.Unicode.Composition

/-!
# The composed normal form

Texts that look the same can differ in characters: a letter with a mark may be one character or two,
and marks that do not touch may stand in either order. The normal form takes everything apart, sorts
the marks and puts together what can be put together.
-/

namespace ArgGuard.Unicode.NormalForm

open Combining

/-- Takes apart characters that stand for two. -/
def split (text : List Char) : List Char :=
  text.flatMap fun c => match Composition.parts? c with
    | some (first, second) => [first, second]
    | none => [c]

/-- Takes everything apart. No character stands for more than five. -/
def decompose (text : List Char) : List Char := split (split (split (split text)))

/-- Puts a character behind the marks before it of lower class. What is no mark stays in front. -/
def place (c : Char) : List Char → List Char
  | [] => [c]
  | d :: rest =>
    if 0 < ofChar d && ofChar d < ofChar c then d :: place c rest else c :: d :: rest

/-- Sorts every run of marks by class and keeps the order of marks of one class. -/
def sortMarks (text : List Char) : List Char := text.foldr place []

/-- Puts together a character with what follows it. A mark joins the character unless another mark
of its class, or of a higher one, stands between them; those that do not join are kept backwards. -/
def composeFrom (base : Char) (kept : List Char) : List Char → List Char
  | [] => base :: kept.reverse
  | c :: rest =>
    let blocked := kept.head?.any fun mark => ofChar c ≤ ofChar mark
    match if blocked then none else Composition.compose? base c with
    | some whole => composeFrom whole kept rest
    | none =>
      if ofChar c = 0 then base :: (kept.reverse ++ composeFrom c [] rest)
      else composeFrom base (c :: kept) rest

/-- Puts together what can be put together. -/
def compose : List Char → List Char
  | [] => []
  | c :: rest => composeFrom c [] rest

/-- The composed normal form of a text. A text of characters that come before the first mark is in
normal form. -/
def ofText (text : List Char) : List Char :=
  if text.all (·.toNat < 0x300) then text else compose (sortMarks (decompose text))

end ArgGuard.Unicode.NormalForm
