import Formwork.Command.Run

/-!
# The program

Reads the files that the command line names, runs the command, and prints what it prints. It runs the
rules without looking at a clock.
-/

namespace Formwork.Command

/-- The number of a fault of the system, which some calls give negated. -/
def faultNumber (code : UInt32) : Nat := min code.toNat (-code).toNat

/-- Why a file cannot be read. -/
def faultOf : IO.Error → FileFault
  | .userError _ => .notText
  | error@(.noFileOrDirectory _ code _) | error@(.inappropriateType _ code _)
  | error@(.permissionDenied _ code _) | error@(.invalidArgument _ code _)
  | error@(.resourceExhausted _ code _) | error@(.otherError code _) =>
    (FileFault.ofNumber? (faultNumber code)).getD (.other (toString error))
  | error => .other (toString error)

/-- The content of a file, or why there is none. -/
def readFile (path : String) : IO (Except FileFault String) := do
  try
    return .ok (← IO.FS.readFile path)
  catch error =>
    return .error (faultOf error)

/-- The contents of the files that a command line names. -/
def readFiles (words : List String) : IO Files := do
  let paths := ((Arguments.parse words).toOption.map Arguments.paths).getD []
  let contents ← paths.mapM fun path => return (path, ← readFile path)
  return fun path => (contents.lookup path).getD (.error (.other "not read"))

end Formwork.Command

open Formwork.Command in
def main (words : List String) : IO UInt32 := do
  let outcome := run words (← readFiles words)
  IO.print outcome.stdout
  match outcome.failure with
  | some failure => IO.eprintln ("Error: " ++ failure.message)
  | none => pure ()
  return outcome.code.toUInt32
