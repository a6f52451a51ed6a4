/-!
# Bytes written with letters

Three bytes are written with four characters out of 64. At the end of a text equals signs fill up
four characters, and the bits that belong to no byte are zero, so there is one way to write bytes.
-/

namespace ArgGuard.Base64

def value? (c : Char) : Option Nat :=
  if 'A' ≤ c && c ≤ 'Z' then some (c.toNat - 'A'.toNat)
  else if 'a' ≤ c && c ≤ 'z' then some (c.toNat - 'a'.toNat + 26)
  else if c.isDigit then some (c.toNat - '0'.toNat + 52)
  else if c = '+' then some 62
  else if c = '/' then some 63
  else none

/-- The bytes that a text writes. -/
def decode? : List Char → Option (List UInt8)
  | [] => some []
  | [a, b, '=', '='] => do
    let bits := (← value? a) * 64 + (← value? b)
    if bits % 16 = 0 then some [(bits / 16).toUInt8] else none
  | [a, b, c, '='] => do
    let bits := ((← value? a) * 64 + (← value? b)) * 64 + (← value? c)
    if bits % 4 = 0 then some [(bits / 1024).toUInt8, (bits / 4).toUInt8] else none
  | a :: b :: c :: d :: rest => do
    let bits := (((← value? a) * 64 + (← value? b)) * 64 + (← value? c)) * 64 + (← value? d)
    let others ← decode? rest
    some ((bits / 65536).toUInt8 :: (bits / 256).toUInt8 :: bits.toUInt8 :: others)
  | _ => none

end ArgGuard.Base64
