import ArgGuard.Internet.Address
import ArgGuard.Internet.DomainName
import ArgGuard.Text.Blank

/-!
# Mail addresses

A mail address names a mailbox at a host. The mailbox is words of plain characters with points
between them, or any text in quotes. The host is a name, or an address in brackets. Before an
address in angle brackets there can be a name for people to read.
-/

namespace ArgGuard.Internet.Mailbox

open Unicode

/-- Whether the number of a character has two bytes that are a first byte and a second byte of a
character in UTF-8. The syllables of Hangul have some such characters. -/
def isBytePair (c : Char) : Bool :=
  let high := c.toNat / 256
  let low := c.toNat % 256
  0xC2 ≤ high && high ≤ 0xDF && 0x80 ≤ low && low ≤ 0xBF

/-- A character of a word. -/
def isAtomChar (c : Char) : Bool :=
  if c.toNat < 0x80 then c.isAlphanum || "!#$%&'*+-/=?^_`\x7b|\x7d~".toList.contains c
  else Property.alphanumeric.holds c.toNat || isBytePair c

/-- Words with points between them. -/
def isDotAtom (text : List Char) : Bool :=
  (Fields.ofText '.' text).all fun word => !word.isEmpty && word.all isAtomChar

def isQuotedChar (c : Char) : Bool :=
  c = '\t' || (0x20 ≤ c.toNat && c.toNat ≤ 0x7E && c != '"' && c != '\\') || isBytePair c

/-- The inside of a quoted name: what is special stands behind a backslash. -/
def isQuotedContent : List Char → Bool
  | [] => true
  | '\\' :: c :: rest => 0x21 ≤ c.toNat && c.toNat ≤ 0x7E && isQuotedContent rest
  | c :: rest => isQuotedChar c && isQuotedContent rest

/-- The name of a mailbox. -/
def isLocal (text : List Char) : Bool :=
  (String.ofList text).utf8ByteSize ≤ 64 &&
    match text with
    | ['"', '"'] | ['"'] => false
    | '"' :: rest => rest.getLast? = some '"' && isQuotedContent rest.dropLast
    | _ => isDotAtom text

/-- An address in brackets. -/
def isLiteral (text : List Char) : Bool :=
  match text with
  | 'I' :: 'P' :: 'v' :: '6' :: ':' :: rest => Address.isEightGroups rest
  | _ => Address.isFourOctets text

/-- The host of a mail address, where a name must satisfy a rule. -/
def isHost (isName : List Char → Bool) (text : List Char) : Bool :=
  let size (text : List Char) : Nat := (String.ofList text).utf8ByteSize
  size text ≤ 254 &&
    match text with
    | '[' :: rest => rest.getLast? = some ']' && isLiteral rest.dropLast
    | _ => isDotAtom text && (Fields.ofText '.' text).all (size · ≤ 63) && isName text

/-- A text before and after the last ` <` in it. -/
def splitAtBracket : List Char → Option (List Char × List Char)
  | [] => none
  | c :: rest =>
    match splitAtBracket rest with
    | some (before, after) => some (c :: before, after)
    | none =>
      match c, rest with
      | ' ', '<' :: address => some ([], address)
      | _, _ => none

/-- The address in a text that can have a name for people to read before it. -/
def address? (text : List Char) : Option (List Char) :=
  match splitAtBracket text with
  | none => some text
  | some (_, after) =>
    match (Blank.trim after).reverse with
    | '>' :: address => some address.reverse
    | _ => none

/-- A mail address at a host whose name satisfies a rule. -/
def holds (isName : List Char → Bool) (text : List Char) : Bool :=
  match (address? text).bind (Fields.splitAtLast '@') with
  | some (mailbox, host) => isLocal mailbox && isHost isName host
  | none => false

end ArgGuard.Internet.Mailbox
