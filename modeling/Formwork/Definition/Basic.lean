import Formwork.Expr.Eval

/-!
# Form definitions

What the author of a form writes down: pages of items, with rules for what is shown, what can be
edited, what an answer must look like and where the form goes on.
-/

namespace Formwork.Definition

/-- An expression with the ids of the answers that its author says it reads. -/
structure Rule where
  expr : String
  dependsOn : List String := []
deriving DecidableEq

/-- The kinds of items. -/
inductive Kind where
  | text
  | textarea
  | email
  | date
  | select
  | radio
  | number
  | checkbox
  | multiselect
  | file
  | money
  | phone
  | heading
  | paragraph
  | action
deriving Repr, DecidableEq

namespace Kind

def all : List Kind :=
  [text, textarea, email, date, select, radio, number, checkbox, multiselect, file, money, phone,
    heading, paragraph, action]

def name : Kind → String
  | .text => "text"
  | .textarea => "textarea"
  | .email => "email"
  | .date => "date"
  | .select => "select"
  | .radio => "radio"
  | .number => "number"
  | .checkbox => "checkbox"
  | .multiselect => "multiselect"
  | .file => "file"
  | .money => "money"
  | .phone => "phone"
  | .heading => "section"
  | .paragraph => "paragraph"
  | .action => "action"

def ofName? (word : String) : Option Kind := all.find? fun kind => kind.name == word

/-- Whether items of the kind hold an answer. -/
def carriesAnswer : Kind → Bool
  | .heading | .paragraph | .action => false
  | _ => true

end Kind

/-- A choice that an item offers, with rules for when it is disabled or shown. -/
structure Choice where
  value : Json
  label : String
  disabled : Option Rule := none
  visible : Option Rule := none

/-- The kinds of validation rules. -/
inductive CheckKind where
  /-- The answer may be left out where the expression is true. -/
  | optional
  /-- The expression is true of a good answer. -/
  | custom
  /-- The answer is not longer than the number. -/
  | maxLength
  /-- The answer matches the pattern. -/
  | regexp
deriving Repr, DecidableEq

namespace CheckKind

def all : List CheckKind := [optional, custom, maxLength, regexp]

def name : CheckKind → String
  | .optional => "OPTIONAL"
  | .custom => "CUSTOM"
  | .maxLength => "MAX_LENGTH"
  | .regexp => "REGEXP"

def ofName? (word : String) : Option CheckKind := all.find? fun kind => kind.name == word

end CheckKind

/-- A validation rule and the message for answers that fail it. -/
structure Check where
  kind : CheckKind
  rule : String
  message : String
  dependsOn : List String := []
deriving DecidableEq

/-- An element of a page. -/
structure Item where
  id : String
  kind : Kind
  label : Option String := none
  answerId : Option String := none
  defaultValue : Option Json := none
  /-- Further properties, which mean something to some kinds. -/
  props : Fields Json := []
  visible : Option Rule := none
  readOnly : Option Rule := none
  value : Option Rule := none
  choices : Option Rule := none
  options : List Choice := []
  validation : List Check := []
  nextView : Option Rule := none
  /-- Whether the answer is sent even when the item is not shown. -/
  includeWhenHidden : Bool := false

namespace Item

/-- The id of the answer that an item holds: its own id unless another one is given. -/
def answer? (item : Item) : Option String :=
  if item.kind.carriesAnswer then some (item.answerId.getD item.id) else none

/-- The label that is shown. -/
def displayLabel (item : Item) : String := item.label.getD item.id

end Item

/-- A page. -/
structure View where
  id : String
  title : Option String := none
  hideFromMenu : Bool := false
  visible : Option Rule := none
  nextView : Option Rule := none
  items : List Item := []

end Definition

/-- A form as its author defines it. -/
structure Definition where
  id : String
  title : String
  version : String
  description : Option String := none
  limits : Option Limits := none
  initialValues : Fields Json := []
  views : List Definition.View

namespace Definition

/-- The items of all views in order. -/
def items (definition : Definition) : List Item := definition.views.flatMap (·.items)

end Definition

end Formwork
