import ArgGuard.Unicode.Ranges

/-!
# Code points as bytes

A range of code points is encoded as sequences of ranges of bytes: a sequence stands for all rows of
bytes that take one byte from each of its ranges. `sequencesOf` cuts a range until the encodings of
what is left are exactly such rows. Surrogates have no encoding.
-/

namespace ArgGuard.Unicode.Encoding

/-- A range of code points, or of bytes. -/
abbrev Span := Nat × Nat

def bytesOf (code : Nat) : List Nat :=
  let later (shift : Nat) : Nat := 0x80 + code / shift % 64
  if code ≤ 0x7F then [code]
  else if code ≤ 0x7FF then [0xC0 + code / 64, later 1]
  else if code ≤ 0xFFFF then [0xE0 + code / 4096, later 64, later 1]
  else [0xF0 + code / 262144, later 4096, later 64, later 1]

/-- Cuts a range where a block of a size starts or ends inside it, if it reaches into several. -/
def cutAtBlock? (span : Span) (size : Nat) : Option (Span × Span) :=
  let (first, last) := span
  let cutBefore (code : Nat) : Option (Span × Span) := some ((first, code - 1), (code, last))
  if first / size = last / size then none
  else if first % size ≠ 0 then cutBefore ((first / size + 1) * size)
  else if last % size ≠ size - 1 then cutBefore (last / size * size)
  else none

/-- Cuts a range: around the surrogates, where the number of bytes changes, and where blocks do that
share their first bytes. -/
def cut? (span : Span) : Option (Span × Span) :=
  let (first, last) := span
  if first < 0xE000 && 0xD7FF < last then some ((first, 0xD7FF), (0xE000, last))
  else
    match [0x7F, 0x7FF, 0xFFFF].find? fun limit => first ≤ limit && limit < last with
    | some limit => some ((first, limit), (limit + 1, last))
    | none =>
      if last ≤ 0x7F then none else [64, 4096, 262144].findSome? (cutAtBlock? span)

/-- The sequences of a range, after at most so many cuts. -/
def sequencesWithin : Nat → Span → List (List Span)
  | 0, _ => []
  | cuts + 1, (first, last) =>
    if last < first then []
    else
      match cut? (first, last) with
      | some (before, after) => sequencesWithin cuts before ++ sequencesWithin cuts after
      | none => [(bytesOf first).zip (bytesOf last)]

/-- The sequences of a range. Cuts of one kind do not follow each other more than twice, so few
cuts lie in each other. -/
def sequencesOf (span : Span) : List (List Span) := sequencesWithin 32 span

/-- Sequences in order by their first ranges, with what stands behind each. -/
def byFirst : List (List Span) → List (Span × List (List Span))
  | [] => []
  | [] :: rest => byFirst rest
  | (first :: later) :: rest =>
    match byFirst rest with
    | (known, others) :: more =>
      if first = known then (known, later :: others) :: more
      else (first, [later]) :: (known, others) :: more
    | [] => [(first, [later])]

end ArgGuard.Unicode.Encoding
