import Formwork.Form.Basic
import Formwork.Graph.Basic

/-!
# What a change can affect

A change of answers affects the items that depend on them and, where rules of such an item write its
answer, those that depend on that one. A `Spread` looks at one answer after the other. It goes round no
cycle, as it looks at no answer and meets no item twice.
-/

namespace Formwork

/-- The answer that rules of the item at a place can write. -/
def Form.produced? (form : Form) (index : Nat) : Option String := form.items[index]?.bind (·.produced?)

/-- A search for the items that a change of answers can affect, under way. -/
structure Spread where
  /-- The places of the items that were met, in ascending order. -/
  items : List Nat := []
  /-- The answers whose dependents were met. -/
  seen : List String := []
  /-- The answers that are still to be looked at, the next one first. -/
  pending : List String

namespace Spread

/-- Meets an item. If rules write its answer, that is to be looked at, too. -/
def meet (form : Form) (spread : Spread) (index : Nat) : Spread :=
  if spread.items.contains index then spread
  else
    { spread with
      items := insertAscending index spread.items
      pending := (form.produced? index).toList ++ spread.pending }

/-- Meets what depends on an answer, unless the answer was seen. -/
def visit (form : Form) (spread : Spread) (answer : String) : Spread :=
  if spread.seen.contains answer then spread
  else
    (form.index.dependentItems answer).foldl (meet form)
      { spread with seen := answer :: spread.seen }

/-- Looks at answers until none is pending, if that takes no more than so many steps. -/
def run (form : Form) : Nat → Spread → Option Spread
  | 0, spread => if spread.pending.isEmpty then some spread else none
  | steps + 1, spread =>
    match spread.pending with
    | [] => some spread
    | answer :: pending => ({ spread with pending }.visit form answer).run form steps

end Spread

namespace Form

/-- The search that starts from some answers, the last one first. Each item that is met can add one
more answer. -/
def spread? (form : Form) (answers : List String) : Option Spread :=
  Spread.run form (answers.length + form.items.length) { pending := answers.reverse }

/-- The places of the items that a change of some answers can affect, also through the answers that
rules write. -/
def affected (form : Form) (answers : List String) : List Nat :=
  ((form.spread? answers).map (·.items)).getD []

end Form

end Formwork
