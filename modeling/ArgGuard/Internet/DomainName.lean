import ArgGuard.Internet.NameMapping
import ArgGuard.Internet.Punycode
import ArgGuard.Text.Fields
import ArgGuard.Unicode.Direction
import ArgGuard.Unicode.Joining
import ArgGuard.Unicode.NormalForm

/-!
# Names of hosts

A host's name is labels with points between them. The plain form has letters, digits and hyphens of
ASCII. The international form may have letters of all scripts; it is mapped, every label is checked,
and its ASCII form must keep the limits of the plain one.
-/

namespace ArgGuard.Internet.DomainName

open Unicode

/-- The length that a label can have. -/
def labelLimit : Nat := 63

/-! ### The plain form -/

/-- A label of letters, digits and hyphens, with no hyphen at its ends. -/
def isPlainLabel (label : List Char) : Bool :=
  !label.isEmpty && label.length ≤ labelLimit
    && label.head? != some '-' && label.getLast? != some '-'
    && label.all fun c => c.isAlphanum || c = '-'

def isPlain (text : List Char) : Bool :=
  text.length ≤ 255 && (Fields.ofText '.' text).all isPlainLabel

/-! ### The international form -/

/-- What a label in ASCII starts with if it stands for another one. -/
def encodedStart : List Char := ['x', 'n', '-', '-']

/-- Whether hyphens stand where they may: not at the ends, and not both in the third and the fourth
place. -/
def hyphensHold (label : List Char) : Bool :=
  label.head? != some '-' && label.getLast? != some '-'
    && (label.drop 2).take 2 != ['-', '-']

/-- Whether a character of ASCII may stand in a label. Relations are left out because a sign that
strikes through one would make it of a plain one. -/
def isLabelChar (c : Char) : Bool :=
  if c.toNat < 0x80 then c.isDigit || ('a' ≤ c && c ≤ 'z') || c = '-'
  else c != '≠' && c != '≮' && c != '≯'

/-- Whether a label of mapped characters keeps the rules. -/
def labelHolds (label : List Char) : Bool :=
  hyphensHold label
    && label.all isLabelChar
    && !(label.head?.any fun c => (CharSet.ofCategories Category.marks).holds c.toNat)
    && Joining.holds label

/-- The label that a mapped label stands for. A label that says that it stands for another must do
so, and the other must be one that cannot be written more plainly. -/
def readLabel? (label : List Char) : Option (List Char) :=
  if encodedStart.isPrefixOf label then
    (Punycode.decode? (label.drop encodedStart.length)).filter fun decoded =>
      decoded.any (0x80 ≤ ·.toNat) && decoded.all NameMapping.isKept
        && NormalForm.ofText decoded == decoded
  else some label

def asciiLabel (label : List Char) : List Char :=
  if label.all (·.toNat < 0x80) then label else encodedStart ++ Punycode.encode label

/-- The labels of a name in the international form, if every label keeps the rules. Where one label
runs from right to left, all keep the rule of directions. -/
def labels? (text : List Char) : Option (List (List Char)) :=
  let mapped := (NameMapping.mapText? text).map NormalForm.ofText
  let labels := mapped.bind fun text => (Fields.ofText '.' text).mapM readLabel?
  labels.filter fun labels =>
    let directions := labels.map (·.map Direction.ofChar)
    labels.all labelHolds
      && (directions.all Direction.keepsRule || !directions.any (·.any Direction.isRightward))

/-- Whether labels keep the limits of length in their ASCII forms. -/
def lengthsHold (labels : List (List Char)) : Bool :=
  let written := labels.map asciiLabel
  written.all (fun label => 0 < label.length && label.length ≤ labelLimit)
    && written.flatten.length + labels.length ≤ 254

/-! ### Characters that need a neighbour -/

def isGreek (c : Char) : Bool := 0x370 ≤ c.toNat && c.toNat ≤ 0x3FF

def isHebrew (c : Char) : Bool := 0x590 ≤ c.toNat && c.toNat ≤ 0x5FF

/-- Signs of Japanese but the point in the middle. -/
def isJapanese (c : Char) : Bool :=
  (0x3040 ≤ c.toNat && c.toNat ≤ 0x30FF && c != '・') || (0x4E00 ≤ c.toNat && c.toNat ≤ 0x9FFF)

def isArabicDigit (c : Char) : Bool := 0x660 ≤ c.toNat && c.toNat ≤ 0x669

def isPersianDigit (c : Char) : Bool := 0x6F0 ≤ c.toNat && c.toNat ≤ 0x6F9

/-- Signs that never stand in a name: tone marks, signs that lengthen or repeat. -/
def isOutlawed (c : Char) : Bool :=
  "\u302e\u302f\u0640\u07fa\u3031\u3032\u3033\u3034\u3035\u303b".toList.contains c

/-- Whether the neighbours of a character are those that it needs. -/
def neighboursHold (before : Option Char) (c : Char) (after : Option Char) : Bool :=
  if c = '·' then before = some 'l' && after = some 'l'
  else if c = '͵' then after.any isGreek
  else if c = '׳' || c = '״' then before.any isHebrew
  else !isOutlawed c

/-- Whether every character of a text has the neighbours that it needs. -/
def allNeighboursHold (before : Option Char) : List Char → Bool
  | [] => true
  | c :: rest => neighboursHold before c rest.head? && allNeighboursHold (some c) rest

/-- Whether the characters of a name go together. -/
def contextHolds (name : List Char) : Bool :=
  allNeighboursHold none name
    && (!name.contains '・' || name.any isJapanese)
    && !(name.any isArabicDigit && name.any isPersianDigit)

def isInternational (text : List Char) : Bool :=
  (labels? text).any fun labels =>
    lengthsHold labels && contextHolds (['.'].intercalate labels)

end ArgGuard.Internet.DomainName
