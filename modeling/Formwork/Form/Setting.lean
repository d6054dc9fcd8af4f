import Formwork.Form.Basic

/-!
# Where rules run

Besides the answers, a rule sees the user and the task, and it runs under limits, one of which is the
time it may take. A rule that fails has no value.
-/

namespace Formwork

/-- What rules see besides the answers, their limits, and how a clock goes while each of them runs. -/
structure Setting where
  user : Json := .null
  task : Json := .null
  limits : Limits := {}
  clock : Expression → Clock := fun _ => .still

namespace Setting

/-- The value of an expression, unless it fails. -/
def ask? (setting : Setting) (values : Fields Json) (expression : Expression) : Option Json :=
  (expression.evaluate setting.limits (setting.clock expression)
    ⟨values, setting.user, setting.task⟩).toOption

/-- Whether an expression has a true value. -/
def confirms (setting : Setting) (values : Fields Json) (expression : Expression) : Bool :=
  (setting.ask? values expression).any Json.truthy

/-- Whether a view is shown. -/
def shows (setting : Setting) (values : Fields Json) (view : Form.View) : Bool :=
  view.visible.all fun rule => setting.confirms values rule.expression

end Setting

end Formwork
