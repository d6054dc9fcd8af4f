import Formwork.Command.Arguments
import Formwork.Command.Files
import Formwork.Session.Navigation

/-!
# Outcomes of commands

What a command prints, and why it fails if it does.
-/

namespace Formwork.Command

/-- Why a command fails. -/
inductive Failure where
  | usage (error : UsageError)
  /-- A file cannot be read. -/
  | missingFile (path : String) (fault : FileFault)
  /-- A file does not hold what it should. -/
  | badFile (path : String) (fault : Fault)
  | load (error : LoadError)
  | navigation (error : NavigationError)
  /-- An answer of the service is not JSON. -/
  | badAnswer (fault : Fault)
  /-- A reply tells of a failure. -/
  | reported (message : String)
  /-- The answers are not valid. -/
  | invalid
  /-- The views lead on and on. -/
  | endless (changes : Nat)

namespace Failure

def message : Failure → String
  | .usage error => error.message
  | .missingFile path fault => "cannot read " ++ path ++ ": " ++ fault.describe
  | .badFile path fault => path ++ ": " ++ fault.describe
  | .load error => error.message
  | .navigation error => error.message
  | .badAnswer fault => fault.describe
  | .reported message => message
  | .invalid => "validation failed"
  | .endless changes => "form did not finish within " ++ toString changes ++ " view changes"

/-- The exit code of a command that fails. -/
def code : Failure → Nat
  | .usage _ => 2
  | _ => 1

end Failure

/-- What a command has printed, and why it failed if it did. -/
structure Outcome where
  stdout : String := ""
  failure : Option Failure := none

namespace Outcome

/-- The exit code. -/
def code (outcome : Outcome) : Nat := (outcome.failure.map Failure.code).getD 0

/-- The outcome after something else was printed. -/
def after (outcome : Outcome) (text : String) : Outcome :=
  { outcome with stdout := text ++ outcome.stdout }

/-- The outcome of a command that prints what a computation yields. -/
def ofExcept {α : Type} (result : Except Failure α) (next : α → Outcome) : Outcome :=
  match result with
  | .ok value => next value
  | .error failure => { failure := some failure }

end Outcome

end Formwork.Command
