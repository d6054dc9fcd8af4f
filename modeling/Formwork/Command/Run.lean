import Formwork.Command.Walk
import Formwork.Service.Basic

/-!
# Running commands

A command reads the definition of a form and perhaps answers and a context. A walk starts a session
of its own; the other commands ask the service and print its reply. Files come from a function, and
so does the time that rules take: a run is a value of its arguments.
-/

namespace Formwork.Command

open Decoder

/-- What a context file holds. -/
structure ContextFile where
  user : Json := .null
  task : Json := .null
  answers : Fields Json := []

def ContextFile.parts : Parts ContextFile :=
  (Parts.pure ContextFile.mk)
    |>.ap (withDefault "user" json .null)
    |>.ap (withDefault "task" json .null)
    |>.ap (withDefault "answers" object [])

/-- The text of a file. -/
def readText (files : Files) (path : String) : Except Failure String :=
  (files path).mapError (.missingFile path)

/-- The data in a file. -/
def readData {α : Type} (files : Files) (decode : Decoder α) (path : String) :
    Except Failure α := do
  (Decoder.run decode (← readText files path)).mapError (.badFile path)

/-- What the files of a command line hold. -/
structure Inputs where
  /-- The text of the definition. -/
  definition : String
  form : Form
  setting : Setting
  answers : Fields Json

namespace Inputs

/-- Reads the files of a command line. Answers in a file of their own count more than those in the
context. -/
def read (arguments : Arguments) (files : Files) (clock : Expression → Clock := fun _ => .still) :
    Except Failure Inputs := do
  let definition ← readText files arguments.spec
  let form ← (Form.read definition).mapError .load
  let context ←
    match arguments.context with
    | some path => readData files (record ContextFile.parts) path
    | none => .ok {}
  let more ←
    match arguments.answers with
    | some path => readData files object path
    | none => .ok []
  let setting : Setting :=
    { user := context.user, task := context.task, limits := arguments.limits form.limits, clock }
  return { definition, form, setting, answers := Fields.setAll context.answers more }

/-- The session that starts from the files. -/
def session (inputs : Inputs) : Session := .start inputs.form inputs.setting inputs.answers

/-- The files as a request to the service. -/
def request (inputs : Inputs) : Service.Request :=
  .write inputs.form.definition.id
    { definition := some inputs.definition, limits := some inputs.setting.limits }
    { user := inputs.setting.user, task := inputs.setting.task } inputs.answers inputs.setting.clock

end Inputs

/-- The reply in an answer of the service, unless it tells of a failure. -/
def accept (answer : String) : Except Failure Json := do
  let reply ← (Json.parse answer).mapError .badAnswer
  match Service.failureIn? reply with
  | some message => .error (.reported message)
  | none => .ok reply

/-- Prints the reply in an answer. -/
def printReply (answer : String) : Outcome :=
  .ofExcept (accept answer) fun reply => { stdout := reply.pretty ++ "\n" }

/-- Prints an answer that is a screen, or an object if it tells of a failure. -/
def printScreen (answer : String) : Outcome :=
  let printed : Outcome := { stdout := answer ++ "\n" }
  if answer.startsWith "\x7b" then .ofExcept (accept answer) fun _ => printed else printed

/-- Prints the messages of a validation. -/
def printErrors (errors : Fields Json) : String :=
  let line (item : String) (message : Json) : String :=
    "  " ++ item ++ " - " ++ (message.str?).getD "" ++ "\n"
  let lines := errors.flatMap fun (item, messages) =>
    match messages with
    | .arr messages => messages.map (line item)
    | _ => []
  if errors.isEmpty then "" else "Errors:\n" ++ String.join lines

/-- Prints whether a view is valid. -/
def printValidity (answer : String) : Outcome :=
  .ofExcept (accept answer) fun reply =>
    let isValid := match reply.field? "valid" with
      | some (.bool flag) => flag
      | _ => false
    let errors := match reply.field? "errors" with
      | some (.obj fields) => fields
      | _ => []
    { stdout :=
        "Validation result: " ++ (if isValid then "valid" else "invalid") ++ "\n" ++
          printErrors errors
      failure := if isValid then none else some .invalid }

/-- Runs a command on what the files hold. -/
def perform (arguments : Arguments) (inputs : Inputs) : Outcome :=
  match arguments.verb with
  | .evaluate => printReply inputs.request.evaluate
  | .validate => printValidity (inputs.request.validateView arguments.view)
  | .payload => printReply inputs.request.payload
  | .render =>
    match arguments.format with
    | .text => printScreen inputs.request.renderText
    | .json => printReply inputs.request.renderJson
  | .walk => walk inputs.session arguments.format

/-- Runs the command that the words of a command line stand for. -/
def run (words : List String) (files : Files) (clock : Expression → Clock := fun _ => .still) :
    Outcome :=
  .ofExcept ((Arguments.parse words).mapError .usage) fun arguments =>
    .ofExcept (Inputs.read arguments files clock) (perform arguments)

end Formwork.Command
