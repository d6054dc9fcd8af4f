import Formwork.Pass.Run
import Formwork.Payload
import Formwork.State.Store
import Formwork.Validation

/-!
# Sessions

A `Session` is the filling of one form. Its state changes only by the operations here, and each
commits at most one new state to the store.
-/

namespace Formwork

/-- What the host has to say about a field. -/
structure FieldError where
  field : String
  message : String
deriving DecidableEq

structure Session where
  form : Form
  setting : Setting
  store : Store
  /-- Answers that wait to be settled. -/
  staged : NameMap Json := .empty

/-- What a user does to answers. -/
inductive Update where
  | answer (id : String) (value : Json)
  | answers (values : Fields Json)
  /-- Back to the first view and the answers that the form starts with. -/
  | reset

namespace Session

/-- A session that starts with some answers. -/
def start (form : Form) (setting : Setting) (answers : Fields Json) : Session where
  form
  setting
  store := { current := (form.initialState setting answers).1 }

/-- The latest state. -/
def state (session : Session) : State := session.store.current

/-- Makes a state the latest one. -/
def commit (session : Session) (next : State) : Session :=
  { session with store := session.store.commit next }

/-- Whether an answer belongs to an item that cannot be edited. -/
def isLocked (session : Session) (answer : String) : Bool :=
  (session.form.itemOf? answer).any fun item => session.state.isReadOnly item.id

/-- Keeps an answer for the next settlement; one that cannot be edited is dropped. -/
def stage (session : Session) (answer : String) (value : Json) : Session :=
  if session.isLocked answer then session
  else { session with staged := session.staged.insert answer value }

/-- The staged answers that differ from those of the state. -/
def pending (session : Session) : Fields Json :=
  session.staged.entries.filter fun (answer, value) =>
    !((session.state.value? answer).getD .null == value)

/-- Writes the staged answers and runs the rules that depend on them. -/
def settle (session : Session) : Report × Session :=
  let changes := session.pending
  let session := { session with staged := .empty }
  if changes.isEmpty then ({}, session)
  else
    let draft := { session.state with values := Fields.setAll session.state.values changes }
    let (next, report) :=
      session.form.runPass session.setting draft (.changed (Fields.names changes))
    (report, session.commit next)

/-- Writes an answer together with those that are staged. -/
def setAnswer (session : Session) (answer : String) (value : Json) : Report × Session :=
  (session.stage answer value).settle

/-- Drops what is staged and starts anew. -/
def reset (session : Session) : Report × Session :=
  let (next, report) := session.form.initialState session.setting []
  (report, { session with staged := .empty }.commit next)

def apply (session : Session) : Update → Report × Session
  | .answer id value => session.setAnswer id value
  | .answers values =>
    (values.foldl (fun session (answer, value) => session.stage answer value) session).settle
  | .reset => session.reset

/-- Validates a scope and keeps the messages. -/
def validate (session : Session) (scope : Scope) : Messages × Session :=
  let messages := session.form.validate session.setting session.state scope
  (messages, session.commit (session.form.replaceMessages session.state scope messages))

/-- The item that a field of the host names: by its answer, else by its id. -/
def itemOfField? (session : Session) (field : String) : Option Form.Item :=
  session.form.itemOf? field <|> session.form.item? field

/-- Adds what the host says to the messages; what names no item is about the whole form. -/
def mergeHostErrors (session : Session) (fields : List FieldError) : Session :=
  session.commit <| fields.foldl (fun state error =>
    match session.itemOfField? error.field with
    | some item => state.mergeErrors item.id [error.message]
    | none => state.addFormError error.message) session.state

/-- Whether a view is shown. -/
def shows (session : Session) (view : Form.View) : Bool :=
  session.setting.shows session.state.values view

/-- What is sent to the host; the items of a view that is not shown are not. -/
def payload (session : Session) : Fields Json := session.form.payload session.state session.shows

/-- Takes up a session at a view, after some views that were completed; ids of no view do not
count. There is no taking up at a view that does not exist. -/
def resumeAt? (session : Session) (view : String) (completed : List String) : Option Session :=
  if (session.form.view? view).isSome then
    let known := completed.filter fun id => (session.form.view? id).isSome
    some (session.commit { session.state with
      currentView := view
      completedViews := session.state.completedViews.addAll known })
  else none

end Session

end Formwork
