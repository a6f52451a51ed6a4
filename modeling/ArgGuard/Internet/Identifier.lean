import ArgGuard.Internet.Address

/-!
# Resource identifiers

An identifier has a scheme, an authority, a path, a query and a fragment. A reference lacks the
scheme, and it may lack everything before its path; it means the identifier that results when the
missing parts are taken from a base. Wide identifiers have characters of all scripts.
-/

namespace ArgGuard.Internet

/-- An identifier or a reference by its parts. -/
structure Identifier where
  scheme : Option (List Char) := none
  authority : Option (List Char) := none
  path : List Char := []
  query : Option (List Char) := none
  fragment : Option (List Char) := none
deriving DecidableEq, Repr

namespace Identifier

/-! ### Parts -/

/-- Splits off what a mark puts before a text and up to the next of some characters. -/
def takePart (mark : List Char) (ends : List Char) (text : List Char) :
    Option (List Char) × List Char :=
  if mark.isPrefixOf text then
    let rest := text.drop mark.length
    (some (rest.takeWhile (!ends.contains ·)), rest.dropWhile (!ends.contains ·))
  else (none, text)

/-- The parts of a text. A colon in the first step of a path would make that step a scheme. -/
def ofText (text : List Char) : Identifier :=
  let start := text.takeWhile (!"/?#".toList.contains ·)
  let (scheme, rest) := match Fields.cutAt ':' start with
    | (scheme, some _) => (some scheme, text.drop (scheme.length + 1))
    | (_, none) => (none, text)
  let (authority, rest) := takePart ['/', '/'] ['/', '?', '#'] rest
  let path := rest.takeWhile (!"?#".toList.contains ·)
  let (query, rest) := takePart ['?'] ['#'] (rest.drop path.length)
  { scheme, authority, path, query, fragment := (takePart ['#'] [] rest).1 }

/-- A part behind its mark. -/
def marked (mark : List Char) (part : Option (List Char)) : List Char :=
  match part with
  | some part => mark ++ part
  | none => []

def text (identifier : Identifier) : List Char :=
  (match identifier.scheme with
    | some scheme => scheme ++ [':']
    | none => [])
    ++ marked ['/', '/'] identifier.authority ++ identifier.path
    ++ marked ['?'] identifier.query ++ marked ['#'] identifier.fragment

/-! ### Grammar -/

/-- Characters outside of ASCII that a wide identifier can have everywhere. -/
def isWideChar (c : Char) : Bool :=
  let code := c.toNat
  (0xA0 ≤ code && code ≤ 0xD7FF) || (0xF900 ≤ code && code ≤ 0xFDCF)
    || (0xFDF0 ≤ code && code ≤ 0xFFEF)
    || (0x10000 ≤ code && code ≤ 0xDFFFD && code % 0x10000 ≤ 0xFFFD)
    || (0xE1000 ≤ code && code ≤ 0xEFFFD)

/-- Characters for private use, which a wide identifier can have in its query. -/
def isPrivateChar (c : Char) : Bool :=
  let code := c.toNat
  (0xE000 ≤ code && code ≤ 0xF8FF) || (0xF0000 ≤ code && code % 0x10000 ≤ 0xFFFD)

/-- Characters without a meaning of their own. -/
def isPlainChar (c : Char) : Bool := c.isAlphanum || "-._~".toList.contains c

/-- Characters that stand anywhere in an identifier. -/
def isFree (wide : Bool) (c : Char) : Bool :=
  isPlainChar c || "!$&'()*+,;=".toList.contains c || (wide && isWideChar c)

/-- A text of admitted characters, in which a per cent sign stands before two hexadecimal digits. -/
def isEncoded (admitted : Char → Bool) : List Char → Bool
  | [] => true
  | '%' :: a :: b :: rest =>
    Address.isHexDigit a && Address.isHexDigit b && isEncoded admitted rest
  | c :: rest => c != '%' && admitted c && isEncoded admitted rest

/-- An address of a later version: the version behind a `v`, a point and the address. -/
def isLaterAddress (text : List Char) : Bool :=
  match text with
  | v :: rest =>
    match Fields.cutAt '.' rest with
    | (version, some address) =>
      (v = 'v' || v = 'V') && !version.isEmpty && version.all Address.isHexDigit
        && !address.isEmpty && address.all fun c => isFree false c || c = ':'
    | (_, none) => false
  | [] => false

/-- The host of a place, and the colon and number behind it. An address in brackets that does not
end leaves a mark that is no number. -/
def hostAndPort (place : List Char) : List Char × List Char :=
  if place.head? = some '[' then
    match Fields.cutAt ']' place with
    | (host, some after) => (host ++ [']'], after)
    | (host, none) => (host, ['!'])
  else
    let host := place.takeWhile (· != ':')
    (host, place.drop host.length)

/-- A host: a name, or an address in brackets. -/
def isHost (wide : Bool) (host : List Char) : Bool :=
  match host with
  | '[' :: rest =>
    let address := rest.dropLast
    Address.isEightGroups address || isLaterAddress address
  | _ => isEncoded (isFree wide) host

/-- A host with a user before it or not, and with a number behind a colon or not. -/
def isAuthority (wide : Bool) (text : List Char) : Bool :=
  let (user, place) := (Fields.splitAtLast '@' text).getD ([], text)
  let (host, port) := hostAndPort place
  isEncoded (fun c => isFree wide c || c = ':') user && isHost wide host
    && (port.isEmpty || (port.head? = some ':' && (port.drop 1).all Char.isDigit))

def isPathChar (wide : Bool) (c : Char) : Bool := isFree wide c || c = ':' || c = '@' || c = '/'

def isQuery (wide : Bool) (text : List Char) : Bool :=
  isEncoded (fun c => isPathChar wide c || c = '?' || (wide && isPrivateChar c)) text

def isFragment (wide : Bool) (text : List Char) : Bool :=
  isEncoded (fun c => isPathChar wide c || c = '?') text

def isScheme (text : List Char) : Bool :=
  text.head?.any Char.isAlpha
    && text.all fun c => c.isAlphanum || c = '+' || c = '-' || c = '.'

/-- Whether every part has only characters that it can have. -/
def isSound (wide : Bool) (identifier : Identifier) : Bool :=
  identifier.scheme.all isScheme && identifier.authority.all (isAuthority wide)
    && isEncoded (isPathChar wide) identifier.path
    && identifier.query.all (isQuery wide) && identifier.fragment.all (isFragment wide)

def isReference (wide : Bool) (text : List Char) : Bool := (ofText text).isSound wide

def isAbsolute (wide : Bool) (text : List Char) : Bool :=
  (ofText text).scheme.isSome && isReference wide text

end Identifier

end ArgGuard.Internet
