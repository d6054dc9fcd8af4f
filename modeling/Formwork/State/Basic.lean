import Formwork.Json.Basic
import Formwork.NameMap

/-!
# The state of a form

A `State` holds the answers, what the rules made of them, the messages, and how far the user has
come. Answers have an order, which does not count when two states are compared.
-/

namespace Formwork

/-- A choice as it is offered after its rules have run. -/
structure Offer where
  value : Json
  label : String
  disabled : Bool
  visible : Bool

namespace Offer

/-- Whether the user can take an offer. -/
def isSelectable (offer : Offer) : Bool := offer.visible && !offer.disabled

instance : BEq Offer where
  beq a b :=
    a.value.same b.value && a.label == b.label && a.disabled == b.disabled && a.visible == b.visible

end Offer

/-- Messages by item. -/
abbrev Messages := NameMap (List String)

structure State where
  /-- The answers by their ids. -/
  values : Fields Json := []
  /-- Which items are shown. -/
  visibility : NameMap Bool := .empty
  /-- Which items cannot be edited. -/
  readOnly : NameMap Bool := .empty
  /-- What is wrong with the answers of items. -/
  errors : Messages := .empty
  /-- What is wrong with the form as a whole. -/
  formErrors : List String := []
  /-- The choices that items offer. -/
  choices : NameMap (List Offer) := .empty
  currentView : String := ""
  completedViews : NameSet := .empty
  /-- How many changes came before. -/
  revision : Nat := 0

namespace State

/-- Whether two states differ in their revision at most. -/
def sameContent (a b : State) : Bool :=
  Json.sameObject a.values b.values && a.visibility == b.visibility && a.readOnly == b.readOnly &&
    a.errors == b.errors && a.formErrors == b.formErrors && a.choices == b.choices &&
    a.currentView == b.currentView && a.completedViews == b.completedViews

instance : BEq State := ⟨fun a b => a.sameContent b && a.revision == b.revision⟩

/-- The answer of an id. -/
def value? (state : State) (answer : String) : Option Json := Fields.get? state.values answer

/-- Whether an item is shown; one that no rule has spoken of is. -/
def isVisible (state : State) (item : String) : Bool := (state.visibility.get? item).getD true

/-- Whether an item cannot be edited. -/
def isReadOnly (state : State) (item : String) : Bool := (state.readOnly.get? item).getD false

/-- Whether there is any message. -/
def hasErrors (state : State) : Bool :=
  !state.formErrors.isEmpty || state.errors.entries.any fun entry => !entry.2.isEmpty

/-- The messages of an item. -/
def errorsOf (state : State) (item : String) : List String := (state.errors.get? item).getD []

/-- The choices of an item. -/
def choicesOf (state : State) (item : String) : List Offer := (state.choices.get? item).getD []

/-- Gives an answer. -/
def setValue (state : State) (answer : String) (value : Json) : State :=
  { state with values := Fields.set state.values answer value }

/-- Puts messages in the place of those of an item. -/
def replaceErrors (state : State) (item : String) (messages : List String) : State :=
  { state with
    errors :=
      if messages.isEmpty then state.errors.erase item
      else state.errors.insert item messages }

/-- Appends the messages that are not yet there. -/
def addNew (known : List String) (messages : List String) : List String :=
  messages.foldl (fun known message => if known.contains message then known else known ++ [message])
    known

/-- Adds messages to those of an item. -/
def mergeErrors (state : State) (item : String) (messages : List String) : State :=
  state.replaceErrors item (addNew (state.errorsOf item) messages)

/-- Adds a message about the form as a whole. -/
def addFormError (state : State) (message : String) : State :=
  { state with formErrors := addNew state.formErrors [message] }

end State

end Formwork
