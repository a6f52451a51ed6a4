/-!
# Texts in bytes

Characters are written with one to four bytes, of which the first says how many there are. The byte
behind the first one has a narrower range where a shorter form or no character would result. Where
bytes are no text, the fault says where the first character that is none starts, and how many bytes
of it are well formed; there is no such number where the bytes end too early.
-/

namespace ArgGuard.Utf8

/-- Where bytes stop being a text, and how many bytes are at fault. -/
structure Fault where
  index : Nat
  width : Option Nat
deriving DecidableEq, Repr

/-- The description of a fault. -/
def Fault.message (fault : Fault) : String :=
  match fault.width with
  | some width => s!"invalid utf-8 sequence of {width} bytes from index {fault.index}"
  | none => s!"incomplete utf-8 byte sequence from index {fault.index}"

/-- The ranges of the bytes behind a first byte, nothing where no character starts with it. -/
def tailRanges? (first : UInt8) : Option (List (UInt8 × UInt8)) :=
  let tail : UInt8 × UInt8 := (0x80, 0xBF)
  if first < 0x80 then some []
  else if first < 0xC2 then none
  else if first < 0xE0 then some [tail]
  else if first < 0xF0 then
    some [(if first = 0xE0 then 0xA0 else 0x80, if first = 0xED then 0x9F else 0xBF), tail]
  else if first < 0xF5 then
    some [(if first = 0xF0 then 0x90 else 0x80, if first = 0xF4 then 0x8F else 0xBF), tail, tail]
  else none

/-- The fault in the bytes behind the first bytes of a character, of which `width` are read. -/
def tailFault? (index width : Nat) : List (UInt8 × UInt8) → List UInt8 → Option Fault
  | [], _ => none
  | _ :: _, [] => some ⟨index, none⟩
  | (low, high) :: ranges, byte :: rest =>
    if low ≤ byte && byte ≤ high then tailFault? index (width + 1) ranges rest
    else some ⟨index, some width⟩

/-- The first fault in bytes. The bytes behind a first byte are checked with it and then passed. -/
def faultFrom? (index : Nat) : Nat → List UInt8 → Option Fault
  | _, [] => none
  | passed + 1, _ :: rest => faultFrom? (index + 1) passed rest
  | 0, byte :: rest =>
    match tailRanges? byte with
    | none => some ⟨index, some 1⟩
    | some ranges =>
      (tailFault? index 1 ranges rest).or (faultFrom? (index + 1) ranges.length rest)

def fault? (bytes : List UInt8) : Option Fault := faultFrom? 0 0 bytes

end ArgGuard.Utf8
