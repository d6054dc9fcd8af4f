import Formwork.Form.Setting
import Formwork.State.Basic
import Formwork.Template.Render

/-!
# Validation

Validation checks the answers of the items that are shown, in one view or in all views that are
shown, and yields a message for every rule that an answer fails.
-/

namespace Formwork

/-- What a validation covers. -/
inductive Scope where
  /-- The items of the view of an id, whether it is shown or not. -/
  | view (id : String)
  /-- The items of all views that are shown. -/
  | all
deriving DecidableEq

namespace Scope

/-- Whether the items of a view are checked. -/
def checks (scope : Scope) (setting : Setting) (values : Fields Json) (view : Form.View) : Bool :=
  match scope with
  | .view id => view.id == id
  | .all => setting.shows values view

/-- Whether the messages of the items of a view are replaced. -/
def covers (scope : Scope) (view : Form.View) : Bool :=
  match scope with
  | .view id => view.id == id
  | .all => true

end Scope

/-- The length of an answer: items of a list, else characters. -/
def Json.measure : Json → Nat
  | .arr items => items.length
  | value => value.display.length

/-- Whether an answer meets a requirement. Only an expression can find fault with a blank answer. -/
def Definition.Requirement.isMet (requirement : Definition.Requirement) (setting : Setting)
    (values : Fields Json) (value : Json) : Bool :=
  match requirement with
  | .optional excuse => !value.isBlank || setting.confirms values excuse
  | .custom condition => setting.confirms values condition
  | .maxLength limit => value.isBlank || value.measure ≤ limit
  | .regexp pattern => value.isBlank || pattern.isMatch value.display

namespace Form

/-- The message for an answer that fails a check. A message that is no template stands for
itself. -/
def Check.message (check : Check) (label : String) (value : Json) : String :=
  let data : Json :=
    .obj [("label", .str label), ("value", value), ("rule", .str check.source.rule)]
  (Template.render check.source.message data).getD check.source.message

namespace Item

/-- The answer of an item, `null` if there is none. -/
def answerIn (item : Item) (state : State) : Json := (item.answer?.bind state.value?).getD .null

/-- The messages of the checks that the answer of an item fails. -/
def failures (item : Item) (setting : Setting) (state : State) : List String :=
  let value := item.answerIn state
  (item.checks.filter fun check => !check.requirement.isMet setting state.values value).map
    (·.message item.source.displayLabel value)

end Item

/-- The messages of the items in a scope whose answers fail checks. -/
def validate (form : Form) (setting : Setting) (state : State) (scope : Scope) : Messages :=
  let views := form.views.filter (scope.checks setting state.values)
  let items := (views.flatMap (·.items)).filter fun item => state.isVisible item.id
  let found := items.map fun item => (item.id, item.failures setting state)
  .ofList (found.filter fun entry => !entry.2.isEmpty)

/-- Replaces the messages of the items in a scope. -/
def replaceMessages (form : Form) (state : State) (scope : Scope) (messages : Messages) : State :=
  ((form.views.filter scope.covers).flatMap (·.items)).foldl
    (fun state item => state.replaceErrors item.id ((messages.get? item.id).getD [])) state

end Form

end Formwork
