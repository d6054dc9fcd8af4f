import Formwork.Json.Printer
import Formwork.Session.Basic

/-!
# What a session shows

A `Screen` is what there is to see of a session: the menu, how far the user has come, and the items
of the current view. It is written as text (`Screen.text`) or as JSON (`Screen.json`).
-/

namespace Formwork

/-- How it stands with a session. -/
inductive Progress where
  | needInput
  /-- Every view that is shown has been completed. -/
  | complete
  /-- There are messages about errors. -/
  | error
deriving Repr, DecidableEq

def Progress.name : Progress → String
  | .needInput => "need_input"
  | .complete => "complete"
  | .error => "error"

/-- A view in the menu. -/
structure MenuEntry where
  id : String
  title : String
  current : Bool
  completed : Bool

/-- An item of the current view. -/
structure ScreenItem where
  id : String
  answer : Option String
  kind : Definition.Kind
  label : String
  visible : Bool
  readOnly : Bool
  /-- The answer, unless it is `null`. -/
  value : Option Json
  choices : List Offer
  errors : List String

structure Screen where
  form : Definition
  progress : Progress
  viewId : String
  viewTitle : String
  menu : List MenuEntry
  completed : Nat
  total : Nat
  items : List ScreenItem
  formErrors : List String

namespace Screen

def itemOf (state : State) (item : Form.Item) : ScreenItem where
  id := item.id
  answer := item.answer?
  kind := item.source.kind
  label := item.source.displayLabel
  visible := state.isVisible item.id
  readOnly := state.isReadOnly item.id
  value := (item.answer?.bind state.value?).filter (!·.isNull)
  choices := state.choicesOf item.id
  errors := state.errorsOf item.id

/-- The screen of a session. -/
def ofSession (session : Session) : Screen :=
  let form := session.form
  let state := session.state
  let current := (form.view? state.currentView).getD form.firstView
  let shown := form.views.filter session.shows
  let isCompleted (view : Form.View) := state.completedViews.has view.id
  let completed := shown.countP isCompleted
  let entryOf (view : Form.View) : MenuEntry :=
    { id := view.id, title := view.title, current := view.id == current.id,
      completed := isCompleted view }
  { form := form.definition
    progress :=
      if state.hasErrors then .error
      else if completed = shown.length then .complete
      else .needInput
    viewId := current.id
    viewTitle := current.title
    menu := (shown.filter (!·.source.hideFromMenu)).map entryOf
    completed
    total := shown.length
    items := current.items.map (itemOf state)
    formErrors := state.formErrors }

/-! ### As JSON -/

def menuJson (menuEntry : MenuEntry) : Json :=
  .obj [("id", .str menuEntry.id), ("title", .str menuEntry.title),
    ("current", .bool menuEntry.current), ("completed", .bool menuEntry.completed)]

def offerJson (offer : Offer) : Json :=
  .obj [("value", offer.value), ("label", .str offer.label), ("disabled", .bool offer.disabled)]

def itemJson (item : ScreenItem) : Json :=
  let optional (name : String) (value : Option Json) : List (String × Json) :=
    value.toList.map ((name, ·))
  .obj ([("id", .str item.id)] ++ optional "answer_id" (item.answer.map .str) ++
    [("type", .str item.kind.name), ("label", .str item.label), ("visible", .bool item.visible),
      ("read_only", .bool item.readOnly)] ++
    optional "value" item.value ++
    (if item.choices.isEmpty then []
      else [("choices", .arr ((item.choices.filter (·.visible)).map offerJson))]) ++
    (if item.errors.isEmpty then [] else [("errors", .texts item.errors)]))

def json (screen : Screen) : Json :=
  .obj [("form_id", .str screen.form.id), ("form_title", .str screen.form.title),
    ("form_version", .str screen.form.version), ("status", .str screen.progress.name),
    ("help", .ofOption .str screen.form.description),
    ("view", .obj [("id", .str screen.viewId), ("title", .str screen.viewTitle)]),
    ("menu", .arr (screen.menu.map menuJson)),
    ("progress", .obj [("completed", .int screen.completed), ("total", .int screen.total)]),
    ("items", .arr (screen.items.map itemJson)), ("form_errors", .texts screen.formErrors)]

/-! ### As text -/

def menuText (menuEntry : MenuEntry) : String :=
  let marker := if menuEntry.current then ">" else if menuEntry.completed then "x" else " "
  "[" ++ marker ++ "] " ++ menuEntry.title

/-- A line with a title in front of an id. -/
def titled (heading title id : String) : String := heading ++ ": " ++ title ++ " (" ++ id ++ ")"

def itemLines (item : ScreenItem) : List String :=
  let line := " - " ++ item.label ++ " (" ++ item.kind.name ++ ")" ++
    (if item.readOnly then " [read-only]" else "") ++
    (match item.value with
      | some value => " = " ++ value.display
      | none => "")
  let offered := (item.choices.filter (·.isSelectable)).map (·.label)
  let choices :=
    if offered.isEmpty then [] else ["     choices: " ++ ", ".intercalate offered]
  line :: choices ++ item.errors.map ("     ! " ++ ·)

def lines (screen : Screen) : List String :=
  [titled "Form" screen.form.title screen.form.id,
    "Status: " ++ screen.progress.name ++ " (" ++ toString screen.completed ++ "/" ++
      toString screen.total ++ " views)"] ++
    screen.form.description.toList.map ("Help: " ++ ·) ++
    (if screen.menu.isEmpty then []
      else ["Menu: " ++ "  ".intercalate (screen.menu.map menuText)]) ++
    [titled "View" screen.viewTitle screen.viewId] ++
    (screen.items.filter (·.visible)).flatMap itemLines ++
    screen.formErrors.map ("! " ++ ·)

def text (screen : Screen) : String := "\n".intercalate screen.lines

end Screen

end Formwork
