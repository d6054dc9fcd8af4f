import Formwork.Json.Printer
import Formwork.Service.Intake
import Formwork.Service.Reply
import Formwork.Session.Screen

/-!
# The service

The service answers requests that hold all there is to know as texts: the id of a form, a
configuration, the context of the call and the answers. It keeps nothing between requests. An answer
is a text; a failure is an object with the field `error`. How fast rules run is no matter of the texts
and comes with a request as well.
-/

namespace Formwork.Service

open Decoder

/-- The configuration: the text of a definition, and limits that go before its own. -/
structure Config where
  definition : Option String := none
  limits : Option Limits := none

def Config.parts : Parts Config :=
  (Parts.pure Config.mk)
    |>.ap (maybe "form_spec_json" text)
    |>.ap (maybe "limits" Limits.decode)

def Config.encode (config : Config) : Json :=
  Fields.present [("form_spec_json", config.definition.map .str),
    ("limits", config.limits.map Limits.encode)]

/-- Who calls, and how far the form has been filled in. -/
structure Caller where
  user : Json := .null
  task : Json := .null
  currentView : Option String := none
  completedViews : List String := []

def Caller.parts : Parts Caller :=
  (Parts.pure Caller.mk)
    |>.ap (withDefault "user" json .null)
    |>.ap (withDefault "task" json .null)
    |>.ap (maybe "current_view" text)
    |>.ap (withDefault "completed_views" (list text) [])

def Caller.encode (caller : Caller) : Json :=
  Fields.present [("user", some caller.user), ("task", some caller.task),
    ("current_view", caller.currentView.map .str),
    ("completed_views",
      if caller.completedViews.isEmpty then none else some (.texts caller.completedViews))]

/-- A request, and how a clock goes while each of the rules runs. -/
structure Request where
  form : String
  config : String
  caller : String
  answers : String
  clock : Expression → Clock := fun _ => .still

/-- The request that says all this in texts. -/
def Request.write (form : String) (config : Config) (caller : Caller) (answers : Fields Json)
    (clock : Expression → Clock := fun _ => .still) : Request where
  form
  config := config.encode.compact
  caller := caller.encode.compact
  answers := (Json.obj answers).compact
  clock

/-- Why a request is refused. -/
inductive Refusal where
  | config (fault : Fault)
  | definition (flaw : Definition.Flaw)
  | formUnavailable (form : String)
  | navigation (error : NavigationError)

def Refusal.message : Refusal → String
  | .config fault => "failed to parse config/" ++ fault.describe
  | .definition flaw => "invalid form definition: " ++ flaw.message
  | .formUnavailable form => "form '" ++ form ++ "' is not available"
  | .navigation error => error.message

/-- The answer to a request that is refused. -/
def Refusal.reply (refusal : Refusal) : Json := .obj [("error", .str refusal.message)]

/-- The message of an answer that tells of a failure. -/
def failureIn? (reply : Json) : Option String := (reply.field? "error").bind Json.str?

namespace Request

/-- The configuration of a request; a blank text stands for the usual one. -/
def configuration (request : Request) : Except Refusal Config :=
  if (Text.trim request.config).isEmpty then .ok {}
  else (Decoder.run (record Config.parts) request.config).mapError .config

/-- The definition that a request is about. -/
def definition (request : Request) : Except Refusal Definition := do
  let config ← request.configuration
  let definition ←
    match config.definition with
    | some text => (Decoder.run Definition.decode text).mapError .config
    | none => .ok Definition.Intake.definition
  if definition.id = request.form then return definition
  else throw (.formUnavailable request.form)

/-- The session that a request describes. A context or answers that cannot be read count as
empty. -/
def session (request : Request) : Except Refusal Session := do
  let config ← request.configuration
  let form ← (Form.load (← request.definition)).mapError .definition
  let caller := ((Decoder.run (record Caller.parts) request.caller).toOption).getD {}
  let answers := ((Decoder.run object request.answers).toOption).getD []
  let setting : Setting :=
    { user := caller.user, task := caller.task, limits := config.limits.getD form.limits
      clock := request.clock }
  let session := Session.start form setting answers
  match caller.currentView with
  | none => return session
  | some view =>
    match session.resumeAt? view caller.completedViews with
    | some session => return session
    | none => throw (.navigation (.unknownView view))

/-- The text of an answer. -/
def respond (result : Except Refusal Json) : String :=
  match result with
  | .ok reply => reply.compact
  | .error refusal => refusal.reply.compact

/-- The definition of the form. -/
def describe (request : Request) : String :=
  respond (request.definition.map Definition.encode)

/-- The state of the form. -/
def evaluate (request : Request) : String := respond (request.session.map (·.stateReply))

/-- Whether a view is valid, or all of them for the empty id. -/
def validateView (request : Request) (view : String) : String :=
  respond do ((← request.session).validityReply view).mapError .navigation

/-- What would be sent to the host. -/
def payload (request : Request) : String := respond (request.session.map (·.payloadReply))

/-- Where the form would go next. -/
def nextView (request : Request) : String :=
  respond do (← request.session).nextViewReply.mapError .navigation

/-- The screen of the form as text. -/
def renderText (request : Request) : String :=
  match request.session with
  | .ok session => (Screen.ofSession session).text
  | .error refusal => refusal.reply.compact

/-- The screen of the form as JSON. -/
def renderJson (request : Request) : String :=
  respond (request.session.map fun session => (Screen.ofSession session).json)

end Request

end Formwork.Service
