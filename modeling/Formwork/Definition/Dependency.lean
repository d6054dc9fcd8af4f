import Formwork.Definition.Basic
import Formwork.NameMap

/-!
# What rules depend on

Every rule of a definition declares the answers that it reads. `Definition.declarations` lists what
is declared where; the `DependencyIndex` of a definition turns the list around and gives the rules
that read an answer.
-/

namespace Formwork.Definition

/-- The places for rules. -/
inductive Slot where
  | visible
  | readOnly
  | value
  | choices
  | validation
  | nextView
deriving Repr, DecidableEq

namespace Slot

def name : Slot → String
  | .visible => "visible"
  | .readOnly => "read_only"
  | .value => "value"
  | .choices => "choices"
  | .validation => "validation"
  | .nextView => "next_view"

/-- Whether the rules of a slot run when answers change. -/
def isDerived : Slot → Bool
  | .visible | .readOnly | .value | .choices => true
  | .validation | .nextView => false

end Slot

/-- What an optional rule declares for a slot. -/
def Rule.declaration (slot : Slot) (rule : Option Rule) : List (Slot × List String) :=
  rule.toList.map fun rule => (slot, rule.dependsOn)

/-- What the rules of an item declare. The rules of its choices belong to the choices slot. -/
def Item.declarations (item : Item) : List (Slot × List String) :=
  Rule.declaration .visible item.visible ++ Rule.declaration .readOnly item.readOnly ++
    Rule.declaration .value item.value ++ Rule.declaration .choices item.choices ++
    (item.options.flatMap fun choice =>
      Rule.declaration .choices choice.disabled ++ Rule.declaration .choices choice.visible) ++
    Rule.declaration .nextView item.nextView ++
    item.validation.map fun check => (.validation, check.dependsOn)

/-- What the rules of a view declare. -/
def View.declarations (view : View) : List (Slot × List String) :=
  Rule.declaration .visible view.visible ++ Rule.declaration .nextView view.nextView

/-- A slot of a view or of an item, each given by its place in the order of the definition. -/
inductive Dependent where
  | view (index : Nat) (slot : Slot)
  | item (index : Nat) (slot : Slot)
deriving Repr, DecidableEq

/-- The index of an item that runs when answers change. -/
def Dependent.derivedItem? : Dependent → Option Nat
  | .item index slot => if slot.isDerived then some index else none
  | .view _ _ => none

end Definition

/-- All declarations of a definition: those of the views and then those of the items. -/
def Definition.declarations (definition : Definition) : List (Definition.Dependent × List String) :=
  (definition.views.zipIdx.flatMap fun (view, index) =>
    view.declarations.map fun (slot, answers) => (.view index slot, answers)) ++
  definition.items.zipIdx.flatMap fun (item, index) =>
    item.declarations.map fun (slot, answers) => (.item index slot, answers)

/-- The dependents of each answer that is declared somewhere. -/
abbrev DependencyIndex := NameMap (List Definition.Dependent)

namespace DependencyIndex

open Definition (Dependent)

/-- The dependents of an answer. -/
def dependents (index : DependencyIndex) (answer : String) : List Dependent :=
  (index.get? answer).getD []

/-- The items that run when an answer changes; one with several such slots is listed for each. -/
def dependentItems (index : DependencyIndex) (answer : String) : List Nat :=
  (index.dependents answer).filterMap Dependent.derivedItem?

/-- Adds a dependent of an answer unless it is there. -/
def add (index : DependencyIndex) (answer : String) (dependent : Dependent) : DependencyIndex :=
  let known := index.dependents answer
  index.insert answer (if known.contains dependent then known else known ++ [dependent])

/-- Adds a dependent of some answers. -/
def declare (index : DependencyIndex) (declaration : Dependent × List String) : DependencyIndex :=
  declaration.2.foldl (fun index answer => index.add answer declaration.1) index

/-- The dependents of all answers of a definition. -/
def ofDefinition (definition : Definition) : DependencyIndex :=
  definition.declarations.foldl declare .empty

end DependencyIndex

end Formwork
