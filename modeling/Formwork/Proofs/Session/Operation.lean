import Formwork.Session.Navigation

/-!
# Operations on sessions and journeys

Whatever happens to a journey is one `Journey.Operation` after the other, and each leaves an `Event`
behind. `Journey.after` and `Journey.log` are what a list of operations makes of a journey, and
`Journey.Reachable` says that operations lead there.
-/

namespace Formwork

/-- What is done to a session, apart from going from view to view. -/
inductive Session.Operation where
  | stage (answer : String) (value : Json)
  | settle
  | apply (update : Update)
  | validate (scope : Scope)
  | mergeHostErrors (fields : List FieldError)
  | resumeAt (view : String) (completed : List String)

def Session.perform (session : Session) : Operation → Session
  | .stage answer value => session.stage answer value
  | .settle => session.settle.2
  | .apply update => (session.apply update).2
  | .validate scope => (session.validate scope).2
  | .mergeHostErrors fields => session.mergeHostErrors fields
  | .resumeAt view completed => (session.resumeAt? view completed).getD session

namespace Journey

inductive Operation where
  | session (operation : Session.Operation)
  | begin (request : NavigationRequest)
  | complete (ticket : Nat) (answer : HostAnswer)
  | cancel

/-- What comes of an operation. -/
inductive Event where
  | edited
  | issued (ticket : Nat)
  | refused
  | accepted (ticket : Nat)
  /-- The answer to the request of a ticket came too late. -/
  | discarded (ticket : Nat)
  | givenUp
deriving Repr, DecidableEq

def perform (journey : Journey) : Operation → Journey
  | .session operation => { journey with session := journey.session.perform operation }
  | .begin request => (journey.begin request).2
  | .complete ticket answer => (journey.complete ticket answer).2
  | .cancel => journey.cancel

def event (journey : Journey) : Operation → Event
  | .session _ => .edited
  | .begin request =>
    match (journey.begin request).1 with
    | .ok pending => .issued pending.ticket
    | .error _ => .refused
  | .complete ticket answer =>
    match (journey.complete ticket answer).1 with
    | .error .cancelled => .discarded ticket
    | _ => .accepted ticket
  | .cancel => .givenUp

/-- The journey behind some operations. -/
def after (journey : Journey) (operations : List Operation) : Journey :=
  operations.foldl perform journey

/-- What came of some operations, in order. -/
def log (journey : Journey) : List Operation → List Event
  | [] => []
  | operation :: operations => journey.event operation :: (journey.perform operation).log operations

/-- The journeys of sessions that started with some answers. Between two operations a session can go
over to another controller, whatever that has been through. -/
inductive Reachable : Journey → Prop
  | start (form : Form) (setting : Setting) (answers : Fields Json) :
    Reachable (.ofSession (.start form setting answers))
  | perform {journey : Journey} (operation : Operation) :
    Reachable journey → Reachable (journey.perform operation)
  | handOver {journey : Journey} (controller : Controller) :
    Reachable journey → Reachable { journey with controller }

variable {journey : Journey} {operations : List Operation} {operation : Operation}

theorem after_concat :
    journey.after (operations ++ [operation]) = (journey.after operations).perform operation := by
  rw [after, List.foldl_append]; rfl

theorem log_concat : journey.log (operations ++ [operation]) =
    journey.log operations ++ [(journey.after operations).event operation] := by
  induction operations generalizing journey with
  | nil => rfl
  | cons first rest ih => exact congrArg _ ih

theorem Reachable.after (h : journey.Reachable) (operations : List Operation) :
    (journey.after operations).Reachable :=
  List.foldlRecOn operations _ h fun _ hjourney operation _ => hjourney.perform operation

end Journey
end Formwork
