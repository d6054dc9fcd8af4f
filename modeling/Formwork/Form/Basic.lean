import Formwork.Definition.Coding
import Formwork.Definition.Flaw

/-!
# Forms

A form is a sound definition with its rules parsed once and its tables made. `Form.load` makes one
from a definition; `Form.read` from the text of a definition.
-/

namespace Formwork

namespace Form

/-- A rule that is ready to run. -/
structure Rule where
  expression : Expression
  dependsOn : List String

def Rule.ofDefinition (rule : Definition.Rule) : Rule :=
  ⟨Expression.parse rule.expr, rule.dependsOn⟩

/-- A choice of an item. -/
structure Choice where
  value : Json
  label : String
  disabled : Option Rule
  visible : Option Rule

namespace Choice

def ofDefinition (choice : Definition.Choice) : Choice where
  value := choice.value
  label := choice.label
  disabled := choice.disabled.map Rule.ofDefinition
  visible := choice.visible.map Rule.ofDefinition

/-- The rules of a choice. -/
def rules (choice : Choice) : List Rule := choice.disabled.toList ++ choice.visible.toList

end Choice

/-- A validation rule with what it asks for. -/
structure Check where
  source : Definition.Check
  requirement : Definition.Requirement

/-- The validation rule of an item, unless it has a flaw. -/
def Check.ofDefinition? (item : String) (check : Definition.Check) : Option Check :=
  (check.requirement item).toOption.map (⟨check, ·⟩)

/-- An item with its place in the order of all items and the place of its view. -/
structure Item where
  index : Nat
  view : Nat
  source : Definition.Item
  visible : Option Rule
  readOnly : Option Rule
  value : Option Rule
  choices : Option Rule
  options : List Choice
  checks : List Check
  nextView : Option Rule

namespace Item

def ofDefinition (index view : Nat) (item : Definition.Item) : Item where
  index
  view
  source := item
  visible := item.visible.map Rule.ofDefinition
  readOnly := item.readOnly.map Rule.ofDefinition
  value := item.value.map Rule.ofDefinition
  choices := item.choices.map Rule.ofDefinition
  options := item.options.map Choice.ofDefinition
  checks := item.validation.filterMap (Check.ofDefinition? item.id)
  nextView := item.nextView.map Rule.ofDefinition

def id (item : Item) : String := item.source.id

/-- The id of the answer that an item holds. -/
def answer? (item : Item) : Option String := item.source.answer?

/-- The rules that resolve the choices of an item. -/
def choiceRules (item : Item) : List Rule :=
  item.choices.toList ++ item.options.flatMap Choice.rules

/-- The rules for whether an item is shown and can be edited. -/
def flagRules (item : Item) : List Rule := item.visible.toList ++ item.readOnly.toList

/-- The rules of an item that run when answers change. -/
def derivedRules (item : Item) : List Rule :=
  item.flagRules ++ item.value.toList ++ item.choiceRules

/-- Whether the choices of an item depend on answers. -/
def hasChoiceRules (item : Item) : Bool := !item.choiceRules.isEmpty

/-- Whether rules can write the answer of an item. -/
def producesAnswer (item : Item) : Bool :=
  item.answer?.isSome && (item.value.isSome || item.hasChoiceRules)

/-- The answer that rules can write. -/
def produced? (item : Item) : Option String := if item.producesAnswer then item.answer? else none

/-- The answers that the rules for choices declare. -/
def choiceDependencies (item : Item) : List String := item.choiceRules.flatMap (·.dependsOn)

/-- The answers that the derived rules of an item declare. -/
def derivedDependencies (item : Item) : List String := item.derivedRules.flatMap (·.dependsOn)

end Item

/-- A view with its place in the order of all views. -/
structure View where
  index : Nat
  source : Definition.View
  visible : Option Rule
  nextView : Option Rule
  items : List Item

namespace View

/-- A view whose first item has the given place. -/
def ofDefinition (index firstItem : Nat) (view : Definition.View) : View where
  index
  source := view
  visible := view.visible.map Rule.ofDefinition
  nextView := view.nextView.map Rule.ofDefinition
  items := view.items.mapIdx fun i item => .ofDefinition (firstItem + i) index item

/-- Views in order, from the given places of a view and an item. -/
def ofDefinitions (index firstItem : Nat) : List Definition.View → List View
  | [] => []
  | view :: rest =>
    ofDefinition index firstItem view ::
      ofDefinitions (index + 1) (firstItem + view.items.length) rest

def id (view : View) : String := view.source.id

/-- The title that is shown. -/
def title (view : View) : String := view.source.title.getD view.id

end View

end Form

/-- A form that can be filled in. -/
structure Form where
  definition : Definition
  sound : definition.flaws = []
  views : List Form.View
  views_eq : views = Form.View.ofDefinitions 0 0 definition.views
  items : List Form.Item
  items_eq : items = views.flatMap (·.items)
  index : DependencyIndex
  index_eq : index = .ofDefinition definition

/-- Why there is no form. -/
inductive LoadError where
  /-- The text is not that of a definition. -/
  | unreadable (fault : Fault)
  | unsound (flaw : Definition.Flaw)

def LoadError.message : LoadError → String
  | .unreadable fault => "failed to parse form definition: " ++ fault.describe
  | .unsound flaw => flaw.message

namespace Form

/-- The form of a definition, or the first flaw. -/
def load (definition : Definition) : Except Definition.Flaw Form :=
  match sound : definition.flaws with
  | [] =>
    let views := View.ofDefinitions 0 0 definition.views
    .ok ⟨definition, sound, views, rfl, _, rfl, _, rfl⟩
  | flaw :: _ => .error flaw

/-- The form whose definition a text writes. -/
def read (text : String) : Except LoadError Form := do
  let definition ← (Decoder.run Definition.decode text).mapError .unreadable
  (load definition).mapError .unsound

theorem views_ne_nil (form : Form) : form.views ≠ [] := by
  intro h
  have sound := form.sound
  cases views : form.definition.views with
  | nil => simp [Definition.flaws, views] at sound
  | cons view rest => simp [form.views_eq, views, View.ofDefinitions] at h

def id (form : Form) : String := form.definition.id

/-- The limits that the definition sets, or the usual ones. -/
def limits (form : Form) : Limits := form.definition.limits.getD {}

/-- The item of an id. -/
def item? (form : Form) (id : String) : Option Item := form.items.find? (·.id == id)

/-- The item that holds an answer. -/
def itemOf? (form : Form) (answer : String) : Option Item :=
  form.items.find? (·.answer? == some answer)

/-- The view of an id. -/
def view? (form : Form) (id : String) : Option View := form.views.find? (·.id == id)

/-- The view that a form starts with. -/
def firstView (form : Form) : View := form.views.head form.views_ne_nil

end Form

end Formwork
