import Formwork.Graph.Schedule
import Formwork.Pass.Choices

/-!
# Running the rules of an item

A `Pass` brings what the rules decide up to date with the answers. An item's rules run in the order
visibility, read-only, value, choices; those run that are due, because a pass runs them all or
because an answer that they declare has changed.
-/

namespace Formwork

/-- What makes rules run. -/
inductive Trigger where
  /-- All rules run. -/
  | full
  /-- The rules run that depend on the answers. -/
  | changed (answers : List String)

namespace Trigger

/-- Whether all rules run. -/
def isFull : Trigger → Bool
  | .full => true
  | .changed _ => false

/-- The answers that have changed before a pass. -/
def answers : Trigger → List String
  | .full => []
  | .changed answers => answers

end Trigger

/-- What happened in a pass. -/
structure Report where
  /-- The answers that rules have written, in order. -/
  changedAnswers : List String := []
  /-- The items with rules that were run, in order. -/
  evaluatedItems : List String := []
  /-- The items that depend on each other. -/
  cycles : List (List String) := []
  /-- How many rules had no value. -/
  failedRules : Nat := 0
deriving DecidableEq

/-- The message about items that depend on each other. -/
def Report.cycleMessage (items : List String) : String :=
  "dependency cycle between items " ++ " -> ".intercalate items

/-- A pass under way. -/
structure Pass where
  state : State
  /-- The answers that have changed. -/
  changed : NameSet
  report : Report

namespace Pass

/-- Whether rules with the given dependencies are due. -/
def isDue (pass : Pass) (full : Bool) (answers : List String) : Bool :=
  full || answers.any pass.changed.has

/-- Counts the rules that fail on the answers of the moment. -/
def countFailures (pass : Pass) (setting : Setting) (rules : List Form.Rule) : Pass :=
  let failed := rules.countP fun rule => (setting.ask? pass.state.values rule.expression).isNone
  { pass with report := { pass.report with failedRules := pass.report.failedRules + failed } }

/-- Writes an answer, which is no change if it is the same. -/
def setAnswer (pass : Pass) (answer : String) (value : Json) : Pass :=
  if (pass.state.value? answer).any (· == value) then pass
  else
    { state := pass.state.setValue answer value
      changed := pass.changed.add answer
      report := { pass.report with changedAnswers := pass.report.changedAnswers ++ [answer] } }

/-- Notes that rules of an item were run. -/
def noteItem (pass : Pass) (item : Form.Item) : Pass :=
  { pass with report :=
    { pass.report with evaluatedItems := pass.report.evaluatedItems ++ [item.id] } }

section

variable (setting : Setting) (full : Bool)

/-- The value of a flag that a rule decides, if it is to be set; one without a rule is only set when
all rules run. -/
def flag? (pass : Pass) (rule : Option Form.Rule) (unruled : Bool) : Option Bool :=
  match rule with
  | some rule =>
    if pass.isDue full rule.dependsOn then
      some (setting.confirms pass.state.values rule.expression)
    else none
  | none => if full then some unruled else none

/-- Counts the failure of an optional rule that is due. -/
def countRule (pass : Pass) (rule : Option Form.Rule) : Pass :=
  pass.countFailures setting (rule.toList.filter fun rule => pass.isDue full rule.dependsOn)

/-- Whether an item is shown. -/
def runVisible (pass : Pass) (item : Form.Item) : Pass :=
  match pass.flag? setting full item.visible true with
  | some flag =>
    let pass := pass.countRule setting full item.visible
    { pass with state :=
      { pass.state with visibility := pass.state.visibility.insert item.id flag } }
  | none => pass

/-- Whether an item cannot be edited. -/
def runReadOnly (pass : Pass) (item : Form.Item) : Pass :=
  match pass.flag? setting full item.readOnly false with
  | some flag =>
    let pass := pass.countRule setting full item.readOnly
    { pass with state := { pass.state with readOnly := pass.state.readOnly.insert item.id flag } }
  | none => pass

/-- The value that a rule gives to the answer of an item; `null` gives none. -/
def runValue (pass : Pass) (item : Form.Item) : Pass :=
  match item.value with
  | some rule =>
    if pass.isDue full rule.dependsOn then
      let value := setting.ask? pass.state.values rule.expression
      let pass := pass.countFailures setting [rule]
      match value.filter (!·.isNull), item.answer? with
      | some value, some answer => pass.setAnswer answer value
      | _, _ => pass
    else pass
  | none => pass

/-- Takes selections that are not offered out of the answer of an item. -/
def dropUnoffered (pass : Pass) (item : Form.Item) (offers : List Offer) : Pass :=
  match item.answer? with
  | some answer =>
    match (pass.state.value? answer).bind (Offer.replacement? offers) with
    | some value => pass.setAnswer answer value
    | none => pass
  | none => pass

/-- The choices of an item, and its answer where it is no longer offered. -/
def runChoices (pass : Pass) (item : Form.Item) : Pass :=
  if pass.isDue full item.choiceDependencies && (item.hasChoiceRules || !item.options.isEmpty) then
    let values := pass.state.values
    let candidates := item.candidates setting values
    let offers := candidates.map (·.offer setting values)
    let pass := pass.countFailures setting (item.choices.toList ++ candidates.flatMap (·.rules))
    let pass := if item.hasChoiceRules then pass.dropUnoffered item offers else pass
    { pass with state := { pass.state with choices := pass.state.choices.insert item.id offers } }
  else pass

/-- Whether any of some rules is due. -/
def isAnyDue (pass : Pass) (rules : List Form.Rule) : Bool :=
  rules.any fun rule => pass.isDue full rule.dependsOn

/-- Runs the rules of an item that is on no cycle. -/
def runItem (pass : Pass) (item : Form.Item) : Pass :=
  let after := runVisible setting full pass item
  let after := runReadOnly setting full after item
  let after := runValue setting full after item
  let after := runChoices setting full after item
  if pass.isAnyDue full item.derivedRules then after.noteItem item else after

/-- Runs the rules of an item on a cycle: only whether it is shown and can be edited, and only when
all rules run, since no earlier pass has decided that. -/
def runFrozen (pass : Pass) (item : Form.Item) : Pass :=
  if full then
    let after := runVisible setting full pass item
    let after := runReadOnly setting full after item
    if item.flagRules.isEmpty then after else after.noteItem item
  else pass

/-- Runs the rules of an item; those of an item on a cycle are frozen. -/
def step (schedule : Schedule) (pass : Pass) (item : Form.Item) : Pass :=
  if schedule.freezes item.index then runFrozen setting full pass item
  else runItem setting full pass item

end

end Pass

end Formwork
