import ArgGuard.Text.Fields

/-!
# Dates and times

Dates and times are read field by field, each field at its place, so the length of a month counts. A
field is read by the low bits of its characters: the six characters behind the digits stand for ten
to fifteen.
-/

namespace ArgGuard.JsonSchema.Moment

/-- The value of a character of a field. -/
def digit? (c : Char) : Option Nat :=
  if 0x30 ≤ c.toNat && c.toNat ≤ 0x3F then some (c.toNat - 0x30) else none

/-- The number in a field of two characters. -/
def twoDigits? : List Char → Option Nat
  | [a, b] =>
    match digit? a, digit? b with
    | some tens, some units => some (tens * 10 + units)
    | _, _ => none
  | _ => none

def daysOfMonth (year month : Nat) : Nat :=
  if month = 2 then
    if year % 4 = 0 && (year % 100 ≠ 0 || year % 400 = 0) then 29 else 28
  else if month = 4 || month = 6 || month = 9 || month = 11 then 30
  else 31

/-- `year-month-day`. -/
def isDate (text : List Char) : Bool :=
  match Fields.ofText '-' text with
  | [year, month, day] =>
    match twoDigits? (year.take 2), twoDigits? (year.drop 2), twoDigits? month, twoDigits? day with
    | some century, some year, some month, some day =>
      1 ≤ month && month ≤ 12 && 1 ≤ day && day ≤ daysOfMonth (century * 100 + year) month
    | _, _, _, _ => false
  | _ => false

/-- The minutes of `hour:minute`. -/
def clock? (text : List Char) : Option Nat :=
  match text.drop 2 with
  | ':' :: minute =>
    match twoDigits? (text.take 2), twoDigits? minute with
    | some hour, some minute =>
      if hour ≤ 23 && minute ≤ 59 then some (hour * 60 + minute) else none
    | _, _ => none
  | _ => none

/-- The minutes by which an offset is ahead of universal time. -/
def offset? : List Char → Option Int
  | ['Z'] | ['z'] => some 0
  | '+' :: rest => (clock? rest).map Int.ofNat
  | '-' :: rest => (clock? rest).map fun minutes => -(minutes : Int)
  | _ => none

/-- What follows a fraction of a second, if the fraction has a digit. -/
def afterFraction? : List Char → Option (List Char)
  | '.' :: rest =>
    if rest.head?.any Char.isDigit then some (rest.dropWhile Char.isDigit) else none
  | rest => some rest

/-- `hour:minute:second`, a fraction or none, and an offset. The sixtieth second is the last one of
a day of universal time. -/
def isTime (text : List Char) : Bool :=
  match clock? (text.take 5), text.drop 5 with
  | some minutes, ':' :: rest =>
    match twoDigits? (rest.take 2), (afterFraction? (rest.drop 2)).bind offset? with
    | some second, some offset =>
      second ≤ 59 || (second = 60 && ((minutes : Int) - offset) % 1440 = 1439)
    | _, _ => false
  | _, _ => false

/-- A date and a time with a `T` between them. -/
def isDateTime (text : List Char) : Bool :=
  let isMark : Char → Bool := fun c => c = 'T' || c = 't'
  match text.dropWhile (!isMark ·) with
  | _ :: clock => isDate (text.takeWhile (!isMark ·)) && isTime clock
  | [] => false

end ArgGuard.JsonSchema.Moment
