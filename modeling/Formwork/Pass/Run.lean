import Formwork.Pass.Affected
import Formwork.Pass.Basic

/-!
# Passes over a form

A pass goes through the items whose rules can be affected, an item after those that write the
answers it depends on. Items that depend on each other are frozen: their values and choices stay as
they are.
-/

namespace Formwork.Form

/-- The place of the item that holds an answer, if its rules write the answer and it is another
candidate than the one at the given place. -/
def producer? (form : Form) (candidates : List Nat) (index : Nat) (answer : String) : Option Nat :=
  (form.itemOf? answer).bind fun item =>
    if item.index != index && item.producesAnswer && candidates.contains item.index then
      some item.index
    else none

/-- The places of the other candidates that write what an item depends on, in ascending order. -/
def producers (form : Form) (candidates : List Nat) (index : Nat) : List Nat :=
  let answers := (form.items[index]?.map (·.derivedDependencies)).getD []
  (ascending (answers.filterMap (form.producer? candidates index))).eraseReps

/-- Some items, each followed by the others among them that depend on the answer its rules write. -/
def dependencyGraph (form : Form) (candidates : List Nat) : Graph :=
  .ofSources candidates (form.producers candidates)

/-- The places of the items that a trigger makes run. -/
def candidates (form : Form) : Trigger → List Nat
  | .full => List.range form.items.length
  | .changed answers => form.affected answers

/-- The order of the items that a trigger makes run. -/
def schedule (form : Form) (trigger : Trigger) : Schedule :=
  (form.dependencyGraph (form.candidates trigger)).schedule

/-- The id of the item at a place. -/
def itemId (form : Form) (index : Nat) : String := (form.items[index]?.map (·.id)).getD ""

/-- The items of a schedule in order. -/
def scheduled (form : Form) (schedule : Schedule) : List Item :=
  schedule.order.filterMap (form.items[·]?)

/-- A pass before any item has run. -/
def openPass (form : Form) (state : State) (trigger : Trigger) (schedule : Schedule) : Pass where
  state
  changed := .ofNames trigger.answers
  report := { cycles := schedule.cycles.map (·.map form.itemId) }

/-- Brings a state up to date with its answers. -/
def runPass (form : Form) (setting : Setting) (state : State) (trigger : Trigger) :
    State × Report :=
  let schedule := form.schedule trigger
  let done := (form.scheduled schedule).foldl (Pass.step setting trigger.isFull schedule)
    (form.openPass state trigger schedule)
  (done.state, done.report)

/-- The answers before any rule has run: the given ones, before those of the definition, before the
defaults of the items. -/
def initialValues (form : Form) (answers : Fields Json) : Fields Json :=
  let withDefaults := form.items.foldl (fun values item =>
    match item.answer?, item.source.defaultValue with
    | some answer, some value =>
      if Fields.has values answer then values else Fields.set values answer value
    | _, _ => values) form.definition.initialValues
  Fields.setAll withDefaults answers

/-- The state that a form starts in before any rule has run. -/
def blankState (form : Form) (answers : Fields Json) : State :=
  { values := form.initialValues answers, currentView := form.firstView.id }

/-- The state that a form starts in. -/
def initialState (form : Form) (setting : Setting) (answers : Fields Json) : State × Report :=
  form.runPass setting (form.blankState answers) .full

end Formwork.Form
