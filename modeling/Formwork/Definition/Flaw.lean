import Formwork.Decimal.Literal
import Formwork.Definition.Dependency
import Formwork.Pattern.Parser

/-!
# Flaws of definitions

A definition is sound if it has views, if no two views, items or answers share an id, if no derived
rule reads the answer of its own item, and if its limits of length and its patterns can be read.
`Definition.flaws` lists what is wrong in the order in which it is reported.
-/

namespace Formwork.Definition

/-- What is wrong with a definition. -/
inductive Flaw where
  | noViews (form : String)
  | duplicateView (view : String)
  | duplicateItem (item : String)
  | duplicateAnswer (answer first second : String)
  | selfDependency (item : String) (slot : Slot)
  | invalidMaxLength (item rule : String)
  | invalidPattern (item : String) (reason : PatternError)
deriving DecidableEq

def Flaw.message : Flaw → String
  | .noViews form => "form '" ++ form ++ "' declares no views"
  | .duplicateView view => "duplicate view id '" ++ view ++ "'"
  | .duplicateItem item => "duplicate item id '" ++ item ++ "'"
  | .duplicateAnswer answer first second =>
    "answer id '" ++ answer ++ "' is written by both '" ++ first ++ "' and '" ++ second ++ "'"
  | .selfDependency item slot =>
    "item '" ++ item ++ "' declares itself as a dependency of its " ++ slot.name ++ " rule"
  | .invalidMaxLength item rule =>
    "item '" ++ item ++ "' has MAX_LENGTH rule '" ++ rule ++
      "' which is not a non-negative integer"
  | .invalidPattern item reason =>
    "item '" ++ item ++ "' has an invalid REGEXP rule: " ++ reason.message

/-- What a validation rule asks for. -/
inductive Requirement where
  /-- The answer may be left out where the expression is true. -/
  | optional (excuse : Expression)
  /-- The expression is true. -/
  | custom (condition : Expression)
  /-- The answer is not longer than the limit. -/
  | maxLength (limit : Nat)
  /-- The answer matches the pattern. -/
  | regexp (pattern : Pattern)

/-- The requirement that a validation rule of an item states. Expressions need not parse. -/
def Check.requirement (item : String) (check : Check) : Except Flaw Requirement :=
  match check.kind with
  | .optional => .ok (.optional (.parse check.rule))
  | .custom => .ok (.custom (.parse check.rule))
  | .maxLength =>
    match Decimal.readIndex? (Text.trim check.rule) with
    | some limit => .ok (.maxLength limit)
    | none => .error (.invalidMaxLength item check.rule)
  | .regexp =>
    match Pattern.parse check.rule with
    | .ok pattern => .ok (.regexp pattern)
    | .error reason => .error (.invalidPattern item reason)

/-- The flaw of a validation rule of an item, if it has one. -/
def Check.flaw? (item : String) (check : Check) : Option Flaw :=
  match check.requirement item with
  | .ok _ => none
  | .error flaw => some flaw

namespace Item

/-- Whether an id is that of an item or of its answer. -/
def isNamed (item : Item) (id : String) : Bool := id == item.id || some id == item.answer?

/-- The derived rules of an item that read its own answer. -/
def selfDependencies (item : Item) : List Flaw :=
  (item.declarations.filter fun (slot, answers) => slot.isDerived && answers.any item.isNamed).map
    fun (slot, _) => .selfDependency item.id slot

/-- The flaws of an item behind others. -/
def flaws (before : List Item) (item : Item) : List Flaw :=
  (if before.any fun other => other.id == item.id then [.duplicateItem item.id] else []) ++
    (match item.answer? with
      | some answer =>
        match before.find? fun other => other.answer? == some answer with
        | some first => [.duplicateAnswer answer first.id item.id]
        | none => []
      | none => []) ++
    item.validation.filterMap (Check.flaw? item.id)

/-- The flaws of items behind others. -/
def flawsOfAll (before : List Item) : List Item → List Flaw
  | [] => []
  | item :: rest => item.flaws before ++ flawsOfAll (before ++ [item]) rest

end Item

/-- The flaws of views behind others. -/
def View.flawsOfAll (before : List View) : List View → List Flaw
  | [] => []
  | view :: rest =>
    (if before.any fun other => other.id == view.id then [.duplicateView view.id] else []) ++
      Item.flawsOfAll (before.flatMap (·.items)) view.items ++
      flawsOfAll (before ++ [view]) rest

/-- All flaws of a definition. -/
def flaws (definition : Definition) : List Flaw :=
  (if definition.views.isEmpty then [.noViews definition.id] else []) ++
    definition.items.flatMap Item.selfDependencies ++ View.flawsOfAll [] definition.views

end Formwork.Definition
