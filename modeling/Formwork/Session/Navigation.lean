import Formwork.Session.Basic

/-!
# Going from view to view

To go on, a session asks the host. `Journey.begin` validates, finds the view to go to and issues a
ticket for the request; `Journey.complete` acts on the answer of the host. Only the request that was
begun last can be completed: beginning another one or giving up cancels it.
-/

namespace Formwork

/-- What is asked of the host. -/
inductive HostAction where
  /-- To go to another view. -/
  | navigate
  /-- To keep the answers without validating them. -/
  | save
  | submit
deriving Repr, DecidableEq

def HostAction.name : HostAction → String
  | .navigate => "navigate"
  | .save => "save"
  | .submit => "submit"

structure HostRequest where
  currentView : String
  data : Fields Json
  nextView : Option String

/-- Why the host does not do what it is asked. -/
inductive HostError where
  /-- The host was not reached. -/
  | transport (reason : String)
  /-- The host refuses some fields. -/
  | validation (fields : List FieldError)
deriving DecidableEq

def HostError.message : HostError → String
  | .transport reason => "host communication failed: " ++ reason
  | .validation fields => "host rejected " ++ toString fields.length ++ " field(s)"

/-- The view that the host has the session at, or why it refuses. -/
abbrev HostAnswer := Except HostError String

/-- Why a session stays where it is. -/
inductive NavigationError where
  | blocked (errors : Messages)
  | noNextView (view : String)
  | cancelled
  | unknownView (view : String)
  | host (error : HostError)
  | unknownAction (item : String)

def NavigationError.message : NavigationError → String
  | .blocked errors => "view has " ++ toString errors.entries.length ++ " item(s) with errors"
  | .noNextView view => "no reachable view after '" ++ view ++ "'"
  | .cancelled => "navigation superseded by a newer request"
  | .unknownView view => "unknown view '" ++ view ++ "'"
  | .host error => error.message
  | .unknownAction item => "'" ++ item ++ "' is not an action item"

/-- What the user asks for, and the action item that was used for it. -/
structure NavigationRequest where
  action : HostAction
  via : Option String := none

/-- What a controller is busy with. -/
inductive Phase where
  | editing (view : String)
  | validating
  | resolvingNext
  | awaitingHost (ticket : Nat) (target : Option String)
deriving Repr, DecidableEq

/-- A request that the host has not answered. -/
structure Flight where
  ticket : Nat
  origin : String
  action : HostAction

/-- Keeps track of the requests of a session. -/
structure Controller where
  nextTicket : Nat := 1
  flight : Option Flight := none
  phase : Phase
  /-- The tickets of the requests that were cancelled. -/
  cancelled : List Nat := []

namespace Controller

/-- A controller at the view of a session. -/
def ofSession (session : Session) : Controller := { phase := .editing session.state.currentView }

/-- Cancels the request under way. -/
def cancelFlight (controller : Controller) : Controller :=
  match controller.flight with
  | some flight =>
    { controller with flight := none, cancelled := controller.cancelled ++ [flight.ticket] }
  | none => controller

/-- Gives up the request under way and goes back to the view that it came from. -/
def cancel (controller : Controller) : Controller :=
  match controller.flight with
  | some flight => { controller.cancelFlight with phase := .editing flight.origin }
  | none => controller

end Controller

/-- A request that is ready for the host. -/
structure PendingNavigation where
  ticket : Nat
  action : HostAction
  request : HostRequest

/-- The host's answer when it agrees: the view asked for, or else the one that the session is at. -/
def HostRequest.confirmed (request : HostRequest) : String :=
  request.nextView.getD request.currentView

/-- A session and the controller of its requests. -/
structure Journey where
  session : Session
  controller : Controller

namespace Journey

/-- The journey of a session that has asked for nothing yet. -/
def ofSession (session : Session) : Journey := ⟨session, .ofSession session⟩

def enter (journey : Journey) (phase : Phase) : Journey :=
  { journey with controller := { journey.controller with phase } }

end Journey

namespace Session

/-- The view that a rule names, if it is one that is shown. -/
def ruledTarget? (session : Session) (rule : Form.Rule) : Option String :=
  match session.setting.ask? session.state.values rule.expression with
  | some (.str target) =>
    if !target.isEmpty && (session.form.view? target).any session.shows then some target else none
  | _ => none

/-- The first view behind another that is shown. -/
def following? (session : Session) (view : Form.View) : Option String :=
  ((session.form.views.drop (view.index + 1)).find? session.shows).map (·.id)

/-- The view to go to: what the rule of the action item names, else what the rule of the view names,
else the next view that is shown. -/
def target? (session : Session) (view : Form.View) (action : Option Form.Item) : Option String :=
  (action.bind (·.nextView)).bind session.ruledTarget? <|>
    view.nextView.bind session.ruledTarget? <|> session.following? view

/-- The action item that a request names. -/
def actionItem? (session : Session) (id : String) : Option Form.Item :=
  (session.form.item? id).filter fun item => item.source.kind == .action

end Session

namespace Journey

/-- What has to be valid for an action. -/
def scopeOf (origin : String) : HostAction → Option Scope
  | .navigate => some (.view origin)
  | .submit => some .all
  | .save => none

/-- Validates what an action needs. -/
def check (journey : Journey) (origin : String) (action : HostAction) : Messages × Journey :=
  let journey := journey.enter .validating
  match scopeOf origin action with
  | some scope =>
    let (errors, session) := journey.session.validate scope
    (errors, { journey with session })
  | none => (.empty, journey)

/-- The view that an action leads to. -/
def resolve (journey : Journey) (view : Form.View) (item : Option Form.Item) :
    HostAction → Except NavigationError (Option String)
  | .navigate =>
    match journey.session.target? view item with
    | some target => .ok (some target)
    | none => .error (.noNextView view.id)
  | .save | .submit => .ok none

/-- The item that a request names. -/
def requestedItem (journey : Journey) :
    Option String → Except NavigationError (Option Form.Item)
  | some id =>
    match journey.session.actionItem? id with
    | some item => .ok (some item)
    | none => .error (.unknownAction id)
  | none => .ok none

/-- What a request asks of the host, after validation. -/
def prepare (journey : Journey) (request : NavigationRequest) (origin : String) :
    Except NavigationError HostRequest × Journey :=
  match journey.session.form.view? origin with
  | none => (.error (.unknownView origin), journey)
  | some view =>
    match journey.requestedItem request.via with
    | .error error => (.error error, journey)
    | .ok item =>
      let (errors, journey) := journey.check origin request.action
      if !errors.isEmpty then (.error (.blocked errors), journey)
      else
        let journey := journey.enter .resolvingNext
        match journey.resolve view item request.action with
        | .error error => (.error error, journey)
        | .ok nextView =>
          (.ok { currentView := origin, data := journey.session.payload, nextView }, journey)

/-- Begins a request. The one under way is cancelled even if this one fails. -/
def begin (journey : Journey) (request : NavigationRequest) :
    Except NavigationError PendingNavigation × Journey :=
  let journey := { journey with controller := journey.controller.cancelFlight }
  let origin := journey.session.state.currentView
  match journey.prepare request origin with
  | (.error error, journey) => (.error error, journey.enter (.editing origin))
  | (.ok hostRequest, journey) =>
    let ticket := journey.controller.nextTicket
    (.ok { ticket, action := request.action, request := hostRequest },
      { journey with controller :=
        { journey.controller with
          nextTicket := ticket + 1
          flight := some { ticket, origin, action := request.action }
          phase := .awaitingHost ticket hostRequest.nextView } })

/-- The state after the host has agreed. Only saving leaves the view uncompleted. -/
def arrive (state : State) (flight : Flight) (view : String) : State :=
  { state with
    completedViews :=
      if flight.action = .save then state.completedViews
      else state.completedViews.add flight.origin
    currentView := view
    formErrors := [] }

/-- Acts on the answer of the host to the request under way. -/
def land (journey : Journey) (flight : Flight) : HostAnswer → Except NavigationError State × Journey
  | .error error =>
    let session :=
      match error with
      | .validation fields => journey.session.mergeHostErrors fields
      | .transport _ => journey.session
    (.error (.host error), { journey with session }.enter (.editing flight.origin))
  | .ok view =>
    if (journey.session.form.view? view).isSome then
      let session := journey.session.commit (arrive journey.session.state flight view)
      (.ok session.state, { journey with session }.enter (.editing session.state.currentView))
    else (.error (.unknownView view), journey.enter (.editing flight.origin))

/-- Completes the request of a ticket. One that is not under way changes nothing. -/
def complete (journey : Journey) (ticket : Nat) (answer : HostAnswer) :
    Except NavigationError State × Journey :=
  match journey.controller.flight with
  | some flight =>
    if flight.ticket = ticket then
      land { journey with controller := { journey.controller with flight := none } } flight answer
    else (.error .cancelled, journey)
  | none => (.error .cancelled, journey)

/-- Gives up the request under way. -/
def cancel (journey : Journey) : Journey :=
  { journey with controller := journey.controller.cancel }

/-- Begins a request and completes it with what the host answers. -/
def navigate (journey : Journey) (request : NavigationRequest) (host : HostRequest → HostAnswer) :
    Except NavigationError State × Journey :=
  match journey.begin request with
  | (.error error, journey) => (.error error, journey)
  | (.ok pending, journey) => journey.complete pending.ticket (host pending.request)

end Journey

end Formwork
