import ArgGuard.Command.File
import ArgGuard.Json.Members

/-!
# Files in memory

A tree of files that has no disk behind it. Around the directory in which the program works stand
the directories of a usual system, with few files in them. A directory is there when a file is in
it. The null device is an empty file that forgets what is written to it, and what is written to the
console's device is kept apart.
-/

namespace ArgGuard.Command

/-- Files by the steps of their paths from the root. -/
structure FileTree where
  files : List (List String × String) := []
  /-- What was written to the console's device. -/
  printed : String := ""

namespace FileTree

/-- The longest name of a file, in bytes. -/
def nameLimit : Nat := 255

/-- A path has to be shorter than this, in bytes. -/
def pathLimit : Nat := 4096

/-- The directory in which the program works. -/
def workPlace : List String := ["tmp", "work"]

/-- The directories of a usual system. -/
def systemPlaces : List (List String) :=
  ["bin", "boot", "dev", "etc", "home", "lib", "media", "mnt", "opt", "proc", "root", "run", "sbin",
   "srv", "sys", "tmp", "usr", "var"].map List.singleton

def nullDevice : List String := ["dev", "null"]

def consoleDevice : List String := ["dev", "stdout"]

def systemFiles : List (List String × String) :=
  [(nullDevice, ""), (consoleDevice, ""), (["etc", "passwd"], "root:x:0:0:root:/root:/bin/sh\n"),
   (["etc", "hosts"], "127.0.0.1 localhost\n")]

/-- A tree with files in the directory in which the program works. -/
def ofFiles (files : List (List String × String)) : FileTree :=
  ⟨systemFiles ++ files.map fun (path, content) => (workPlace ++ path, content), ""⟩

def content? (tree : FileTree) (place : List String) : Option String :=
  Members.get? tree.files place

def isDirectory (tree : FileTree) (place : List String) : Bool :=
  place.isPrefixOf workPlace || systemPlaces.contains place
    || tree.files.any fun (file, _) => place.isPrefixOf file && place != file

/-- Follows steps from a place. Nothing lies above the root. -/
def walk (tree : FileTree) : List String → List String → Except FileError (List String)
  | place, [] => .ok place
  | place, step :: rest =>
    if (tree.content? place).isSome then .error .notADirectory
    else if step = "" ∨ step = "." then walk tree place rest
    else if step = ".." then walk tree place.dropLast rest
    else if nameLimit < step.utf8ByteSize then .error .nameTooLong
    else
      let next := place ++ [step]
      if (tree.content? next).isSome || tree.isDirectory next then walk tree next rest
      else .error .notFound

def steps (path : String) : Except FileError (List String) :=
  if path.contains '\x00' then .error .nameHasNul
  else if path.isEmpty then .error .notFound
  else if pathLimit ≤ path.utf8ByteSize then .error .nameTooLong
  else .ok ((Path.steps path).map String.ofList)

/-- Where a path begins. -/
def origin (path : String) : List String := if path.startsWith "/" then [] else workPlace

/-- The place of a path. -/
def locate (tree : FileTree) (path : String) : Except FileError (List String) := do
  tree.walk (origin path) (← steps path)

def read (tree : FileTree) (path : String) : Except FileError String := do
  match tree.content? (← tree.locate path) with
  | some content => return content
  | none => throw .isADirectory

def put (tree : FileTree) (place : List String) (content : String) : FileTree :=
  if place = nullDevice then tree
  else if place = consoleDevice then { tree with printed := tree.printed ++ content }
  else { tree with files := Members.set tree.files place content }

/-- Writes a file, in place of the one that may be there. -/
def write (tree : FileTree) (path content : String) : Except FileError FileTree := do
  let all ← steps path
  let named := (all.reverse.dropWhile (· = "")).reverse
  let directory ← tree.walk (origin path) (named.dropLast ++ [""])
  let name := named.getLast?.getD "."
  let place := directory ++ [name]
  if named.length < all.length ∨ name = "." ∨ name = ".." then throw .isADirectory
  if nameLimit < name.utf8ByteSize then throw .nameTooLong
  if tree.isDirectory place then throw .isADirectory
  return tree.put place content

/-- The tree as the files of a command. -/
def access : FileAccess (StateM FileTree) where
  read path := do return (← get).read path
  write path content := do
    match (← get).write path content with
    | .ok changed => set changed; return .ok ()
    | .error error => return .error error
  isPresent path := do return ((← get).locate path).isOk

end FileTree

end ArgGuard.Command
