import Formwork.Command.Outcome
import Formwork.Session.Screen

/-!
# Walking through a form

A walk prints the current view and asks to go on, until no view is left, and submits. The host
agrees to everything. A form that leads on and on is given up.
-/

namespace Formwork.Command

/-- A screen as it is printed. -/
def Format.print (format : Format) (screen : Screen) : String :=
  match format with
  | .text => screen.text ++ "\n\n"
  | .json => screen.json.pretty ++ "\n"

namespace Walk

/-- The outcome of a walk that cannot go on. -/
def stop (error : NavigationError) : Outcome :=
  let lines :=
    match error with
    | .blocked errors =>
      "Validation errors:\n" :: errors.entries.flatMap fun (item, messages) =>
        messages.map fun message => "  " ++ item ++ ": " ++ message ++ "\n"
    | _ => []
  { stdout := String.join lines, failure := some (.navigation error) }

/-- Submits the answers. -/
def submit (journey : Journey) : Outcome :=
  match journey.begin { action := .submit } with
  | (.error error, _) => stop error
  | (.ok pending, journey) =>
    match journey.complete pending.ticket (.ok pending.request.confirmed) with
    | (.error error, _) => stop error
    | (.ok _, _) => { stdout := "Submitted:\n" ++ (Json.obj pending.request.data).pretty ++ "\n" }

/-- How often a walk may change its view: each view is left twice. -/
def maxChanges (form : Form) : Nat := form.views.length * 2

/-- Walks on, printing a number of views at most. -/
def go (format : Format) : Nat → Journey → Outcome
  | 0, journey => { failure := some (.endless (maxChanges journey.session.form)) }
  | views + 1, journey =>
    let screen := format.print (.ofSession journey.session)
    match journey.navigate { action := .navigate } fun request => .ok request.confirmed with
    | (.ok _, journey) => (go format views journey).after screen
    | (.error (.noNextView _), journey) => (submit journey).after screen
    | (.error error, _) => (stop error).after screen

end Walk

/-- Walks through the form of a session. -/
def walk (session : Session) (format : Format) : Outcome :=
  Walk.go format (Walk.maxChanges session.form + 1) (.ofSession session)

end Formwork.Command
