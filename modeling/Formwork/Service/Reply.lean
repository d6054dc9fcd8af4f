import Formwork.Session.Navigation
import Formwork.State.Coding

/-!
# Replies

What a session answers to those who ask about it, as JSON.
-/

namespace Formwork.Session

/-- The answers and all that the rules made of them. -/
def stateReply (session : Session) : Json := session.state.encode

/-- What is sent to the host. -/
def payloadReply (session : Session) : Json := .obj session.payload

/-- Whether a view is valid; the empty id stands for all views. -/
def validityReply (session : Session) (view : String) : Except NavigationError Json :=
  let reply (scope : Scope) : Json :=
    let errors := (session.validate scope).1
    .obj [("valid", .bool errors.isEmpty), ("errors", errors.encode)]
  if view.isEmpty then .ok (reply .all)
  else if (session.form.view? view).isSome then .ok (reply (.view view))
  else .error (.unknownView view)

/-- Where the session would go next. -/
def nextViewReply (session : Session) : Except NavigationError Json :=
  match (Journey.ofSession session).begin { action := .navigate } with
  | (.ok pending, _) =>
    .ok <| .obj [("status", .str "ready"), ("current_view_id", .str pending.request.currentView),
      ("next_view_id", .ofOption .str pending.request.nextView),
      ("data", .obj pending.request.data)]
  | (.error (.blocked errors), journey) =>
    .ok <| .obj [("status", .str "blocked"),
      ("current_view_id", .str journey.session.state.currentView), ("errors", errors.encode)]
  | (.error (.noNextView view), _) =>
    .ok <| .obj [("status", .str "complete"), ("current_view_id", .str view),
      ("next_view_id", .null)]
  | (.error error, _) => .error error

end Formwork.Session
