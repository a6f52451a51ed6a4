import ArgGuard.Internet.Identifier

/-!
# Resolution of references

A reference means an identifier that depends on where it stands: what it lacks is taken from the
base, and its path is followed from the base's path. `resolve?` does this and brings the result to a
normal form, in which letters and escapes that mean the same are written in one way.
-/

namespace ArgGuard.Internet.Identifier

/-! ### The normal form -/

def hexValue (c : Char) : Nat :=
  if c.isDigit then c.toNat - '0'.toNat else c.toLower.toNat - 'a'.toNat + 10

/-- Writes plain characters as themselves and other escapes in capitals. -/
def normalEscapes : List Char → List Char
  | '%' :: a :: b :: rest =>
    let c := Char.ofNat (hexValue a * 16 + hexValue b)
    if c.toNat < 0x80 && isPlainChar c then c :: normalEscapes rest
    else '%' :: a.toUpper :: b.toUpper :: normalEscapes rest
  | c :: rest => c :: normalEscapes rest
  | [] => []

/-- Writes the letters of a host in small, but not those of its escapes. -/
def smallLetters : List Char → List Char
  | '%' :: a :: b :: rest => '%' :: a :: b :: smallLetters rest
  | c :: rest => c.toLower :: smallLetters rest
  | [] => []

/-- An authority in normal form. The user keeps its letters. -/
def normalAuthority (authority : List Char) : List Char :=
  match Fields.splitAtLast '@' authority with
  | some (user, place) =>
    normalEscapes user ++ '@' :: smallLetters (normalEscapes place)
  | none => smallLetters (normalEscapes authority)

/-- Follows the steps of a path: one point stays, two points go back. The steps so far are given
backwards. A path that ends with points ends with a slash. -/
def followSteps (behind : List (List Char)) : List (List Char) → List (List Char)
  | [] => behind.reverse
  | [last] =>
    if last = ['.'] then (behind.reverse ++ [[]])
    else if last = ['.', '.'] then ((behind.drop 1).reverse ++ [[]])
    else (last :: behind).reverse
  | step :: rest =>
    if step = ['.'] then followSteps behind rest
    else if step = ['.', '.'] then followSteps (behind.drop 1) rest
    else followSteps (step :: behind) rest

/-- A path without points, if it starts with a slash. -/
def normalPath : List Char → List Char
  | '/' :: steps =>
    '/' :: ['/'].intercalate (followSteps [] (Fields.ofText '/' steps))
  | path => path

def normal (identifier : Identifier) : Identifier :=
  { scheme := identifier.scheme.map (·.map Char.toLower)
    authority := identifier.authority.map normalAuthority
    path := normalPath (normalEscapes identifier.path)
    query := identifier.query.map normalEscapes
    fragment := identifier.fragment.map normalEscapes }

/-! ### References -/

/-- The path of a reference that starts from the place of the base. -/
def joinPath (base : Identifier) (path : List Char) : List Char :=
  if base.authority.isSome && base.path.isEmpty then '/' :: path
  else
    match Fields.splitAtLast '/' base.path with
    | some (folder, _) => folder ++ '/' :: path
    | none => path

/-- Takes from the base what a reference lacks. -/
def against (base reference : Identifier) : Identifier :=
  if reference.scheme.isSome then reference
  else if reference.authority.isSome then { reference with scheme := base.scheme }
  else
    let place := { reference with scheme := base.scheme, authority := base.authority }
    match reference.path with
    | [] => { place with path := base.path, query := reference.query.or base.query }
    | '/' :: _ => place
    | path => { place with path := joinPath base path }

/-- Whether an identifier has no steps that a reference could start from. -/
def isOpaque (identifier : Identifier) : Bool :=
  identifier.authority.isNone && identifier.path.head? != some '/'

/-- Whether a reference can be taken from a base. The base has no fragment; an opaque one has no
place to start from, so the reference names everything or only a fragment. -/
def isResolvable (base reference : Identifier) : Bool :=
  base.fragment.isNone
    && (!base.isOpaque || reference.scheme.isSome
      || (reference.authority.isNone && reference.path.isEmpty && reference.query.isNone))

/-- What a reference means. A fragment with which the base ends stands for the base. -/
def resolve? (base : Identifier) (text : List Char) : Option Identifier :=
  let reference := ofText text
  if text.head? = some '#' && text.reverse.isPrefixOf base.text.reverse then some base
  else if reference.isSound false && isResolvable base reference then
    some (base.against reference).normal
  else none

/-- The identifier without its fragment. -/
def whole (identifier : Identifier) : Identifier := { identifier with fragment := none }

end ArgGuard.Internet.Identifier
