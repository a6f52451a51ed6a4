import ArgGuard.Command.Run

/-!
# The program

Runs a command line on the files of the disk, prints the report, and exits with its code.
-/

namespace ArgGuard.Command

/-- The error of a file on the disk. -/
def FileError.ofIO (error : IO.Error) : FileError :=
  match error with
  | .noFileOrDirectory .. => .notFound
  | .inappropriateType _ 21 _ => .isADirectory
  | .inappropriateType .. => .notADirectory
  | .permissionDenied .. => .other "Permission denied (os error 13)"
  | error => .other error.toString

/-- The result of an operation on the disk. -/
def attempt (operation : IO α) : IO (Except FileError α) := do
  try return .ok (← operation)
  catch error => return .error (.ofIO error)

/-- The files of the disk. -/
def diskAccess : FileAccess IO where
  read path := attempt (IO.FS.readFile path)
  write path content := attempt (IO.FS.writeFile path content)
  isPresent path := do
    match ← attempt (IO.FS.readFile path) with
    | .error .notFound => return false
    | _ => return true

end ArgGuard.Command

/-- The entry of the program. -/
def main (words : List String) : IO UInt32 := do
  let report ← ArgGuard.Command.run ArgGuard.Command.diskAccess words
  (← IO.getStdout).putStr report.output
  (← IO.getStderr).putStr report.complaints
  return report.exitCode.toUInt32
