/-!
# Files

The commands reach files through three operations that the host supplies, on the disk or in memory.
A path is a text whose steps are separated by slashes.
-/

namespace ArgGuard.Command

/-- Why a file cannot be read or written. -/
inductive FileError
  | notFound
  | notADirectory
  | isADirectory
  | nameTooLong
  | nameHasNul
  | other (text : String)
deriving DecidableEq, Repr

/-- The text of an error. -/
def FileError.message : FileError → String
  | notFound => "No such file or directory (os error 2)"
  | notADirectory => "Not a directory (os error 20)"
  | isADirectory => "Is a directory (os error 21)"
  | nameTooLong => "File name too long (os error 36)"
  | nameHasNul => "file name contained an unexpected NUL byte"
  | other text => text

/-- The operations on files. -/
structure FileAccess (m : Type → Type) where
  read : String → m (Except FileError String)
  write : String → String → m (Except FileError Unit)
  isPresent : String → m Bool

namespace Path

/-- The steps of a path; nothing stands between two slashes in a row. -/
def steps (path : String) : List (List Char) := path.toList.splitOn '/'

/-- Steps that lead nowhere. -/
def isIdle (step : List Char) : Bool := step == [] || step == ['.']

/-- What a path begins with before its first step can be left out: the root, or a lone point. -/
def anchor : List Char → List Char × List Char
  | '/' :: rest => (['/'], rest)
  | ['.'] => (['.'], [])
  | '.' :: '/' :: rest => (['.'], '/' :: rest)
  | path => ([], path)

def dropIdle (steps : List (List Char)) : List (List Char) :=
  (steps.reverse.dropWhile isIdle).reverse

/-- The path without its last step, if it has one. -/
def parent? (path : String) : Option String :=
  let (head, body) := anchor path.toList
  match dropIdle (body.splitOn '/') with
  | [] => if head = ['.'] then some "" else none
  | steps =>
    let before := dropIdle steps.dropLast
    some (String.ofList (head ++ ['/'].intercalate before))

/-- A path taken from a directory; one that begins with a slash stands for itself. -/
def join (directory path : String) : String :=
  if path.startsWith "/" then path
  else if directory.isEmpty || directory.endsWith "/" then directory ++ path
  else directory ++ "/" ++ path

end Path

end ArgGuard.Command
