import Formwork.Expr.Value
import Formwork.Form.Setting
import Formwork.State.Basic

/-!
# What an item offers

The choices of an item are those that its choices rule yields, or else the ones it lists. The rules
of a listed choice hold for a choice of the same value.
-/

namespace Formwork

/-- A choice before its rules have run: a value, a label, and the choice with the rules. -/
structure Candidate where
  value : Json
  label : String
  listed : Option Form.Choice

namespace Form.Item

/-- The value and the label that an entry of a list of choices stands for. -/
def entryChoice? : Json → Option (Json × String)
  | .null => none
  | .obj fields => do
    let value ← Fields.get? fields "value"
    return (value, ((Fields.get? fields "label").getD value).display)
  | value => some (value, value.display)

/-- The choices that a choices rule yields; only a list counts. -/
def candidatesOf? (item : Item) : Option Json → Option (List Candidate)
  | some (.arr entries) =>
    some ((entries.filterMap entryChoice?).map fun (value, label) =>
      ⟨value, label, item.options.find? fun choice => choice.value == value⟩)
  | _ => none

/-- The choices of an item before their rules have run. -/
def candidates (item : Item) (setting : Setting) (values : Fields Json) : List Candidate :=
  let yielded := item.choices.bind fun rule => setting.ask? values rule.expression
  (item.candidatesOf? yielded).getD
    (item.options.map fun choice => ⟨choice.value, choice.label, some choice⟩)

end Form.Item

namespace Candidate

/-- The rules that run for a candidate. -/
def rules (candidate : Candidate) : List Form.Rule := candidate.listed.toList.flatMap (·.rules)

/-- The choice that is offered: neither disabled nor hidden unless a rule says so. -/
def offer (candidate : Candidate) (setting : Setting) (values : Fields Json) : Offer where
  value := candidate.value
  label := candidate.label
  disabled := (candidate.listed.bind (·.disabled)).any (setting.confirms values ·.expression)
  visible := (candidate.listed.bind (·.visible)).all (setting.confirms values ·.expression)

end Candidate

/-- Whether a value can be selected among some offers. -/
def Offer.isOffered (offers : List Offer) (value : Json) : Bool :=
  offers.any fun offer => offer.isSelectable && offer.value == value

/-- The answer that takes the place of one with selections that are not offered. -/
def Offer.replacement? (offers : List Offer) : Json → Option Json
  | .null => none
  | .arr selected =>
    let kept := selected.filter (isOffered offers)
    if kept.length = selected.length then none else some (.arr kept)
  | value => if isOffered offers value then none else some .null

end Formwork
