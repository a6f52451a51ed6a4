import ArgGuard.Text.Fields

/-!
# Addresses of hosts

An address has four numbers up to 255 with points between them, or eight groups of hexadecimal
digits with colons between them, of which one run can be left out.
-/

namespace ArgGuard.Internet.Address

/-- A number up to 255 without leading zeros. -/
def isOctet (text : List Char) : Bool :=
  !text.isEmpty && text.length ≤ 3 && text.all Char.isDigit
    && (text.head? != some '0' || text.length = 1)
    && text.foldl (fun n c => n * 10 + (c.toNat - '0'.toNat)) 0 ≤ 255

def isFourOctets (text : List Char) : Bool :=
  let octets := Fields.ofText '.' text
  octets.length = 4 && octets.all isOctet

def isHexDigit (c : Char) : Bool :=
  c.isDigit || ('a' ≤ c && c ≤ 'f') || ('A' ≤ c && c ≤ 'F')

def isGroup (text : List Char) : Bool :=
  !text.isEmpty && text.length ≤ 4 && text.all isHexDigit

/-- How many groups a run of them stands for; at the end four octets stand for two groups. -/
def groupCount? (atEnd : Bool) : List (List Char) → Option Nat
  | [] => some 0
  | [last] =>
    if isGroup last then some 1 else if atEnd && isFourOctets last then some 2 else none
  | group :: rest =>
    if isGroup group then (groupCount? atEnd rest).map (· + 1) else none

/-- The groups in a piece of an address; an empty piece has none. -/
def pieceCount? (atEnd : Bool) (piece : List Char) : Option Nat :=
  if piece.isEmpty then some 0 else groupCount? atEnd (Fields.ofText ':' piece)

/-- The text before and after the first two colons that stand side by side. -/
def splitAtGap : List Char → Option (List Char × List Char)
  | ':' :: ':' :: rest => some ([], rest)
  | c :: rest => (splitAtGap rest).map fun (before, after) => (c :: before, after)
  | [] => none

/-- Eight groups, or fewer around one gap. -/
def isEightGroups (text : List Char) : Bool :=
  match splitAtGap text with
  | none => groupCount? true (Fields.ofText ':' text) = some 8
  | some (before, after) =>
    match pieceCount? false before, pieceCount? true after with
    | some first, some second => first + second ≤ 7
    | _, _ => false

end ArgGuard.Internet.Address
