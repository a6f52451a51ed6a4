import ArgGuard.Graph.Coordinate
import ArgGuard.Json.Pointer
import ArgGuard.Override.Function

/-!
# Failures of a call

A call whose arguments are refused fails with all that is wrong with them. Each failure names the
argument at fault, unless it lies with the arguments as a whole, as when one is missing. Only these
failures are told to the caller; any other failure of a resolver is kept from it.
-/

namespace ArgGuard

/-- What is wrong with the arguments of a call. The path is the text of a pointer. -/
structure ArgumentFailure where
  argument : Option String
  path : String
  message : String
deriving DecidableEq, Repr

namespace ArgumentFailure

/-- The argument that a place in the arguments belongs to, as it is written in a pointer. -/
def argumentOf : Pointer → Option String
  | [] => none
  | step :: _ => if step.isEmpty then none else some (Pointer.escape step)

/-- A failure of the argument object's validator. -/
def ofSchema (failure : ValueFailure) : ArgumentFailure :=
  ⟨argumentOf failure.path, Pointer.text failure.path, failure.message⟩

/-- The rejection of an argument by a function; the path of the function goes on from the
argument. -/
def ofRejection (argument : String) (rejection : Rejection) : ArgumentFailure :=
  ⟨some argument, "/" ++ argument ++ rejection.path.getD "", rejection.message⟩

/-- A failure as a part of the whole text. -/
def summary (failure : ArgumentFailure) : String :=
  match failure.argument with
  | some _ => failure.message ++ " (" ++ failure.path ++ ")"
  | none => failure.message

end ArgumentFailure

/-- All that is wrong with the arguments of a call. -/
structure ValidationFailure where
  coordinate : Coordinate
  failures : List ArgumentFailure
deriving DecidableEq, Repr

namespace ValidationFailure

/-- The text of the failure. -/
def message (failure : ValidationFailure) : String :=
  s!"Invalid arguments for '{failure.coordinate.text}': " ++
    "; ".intercalate (failure.failures.map ArgumentFailure.summary)

end ValidationFailure

/-- Why a field was not resolved. -/
inductive ResolutionError
  | validation (failure : ValidationFailure)
  | noResolver (coordinate : Coordinate)
  /-- A failure behind the resolver. -/
  | delegate (text : String)
  /-- A failure of the resolver itself. -/
  | generic (text : String)
deriving DecidableEq, Repr

namespace ResolutionError

/-- The text of the error. -/
def message : ResolutionError → String
  | validation failure => failure.message
  | noResolver coordinate => s!"No resolver registered for '{coordinate.text}'"
  | delegate text => text
  | generic text => text

/-- The text that is meant for the caller. -/
def explicitMessage? : ResolutionError → Option String
  | validation failure => some failure.message
  | noResolver _ | delegate _ | generic _ => none

/-- What the caller is told. -/
def userMessage (error : ResolutionError) : String :=
  error.explicitMessage?.getD "Internal server error"

end ResolutionError

end ArgGuard
