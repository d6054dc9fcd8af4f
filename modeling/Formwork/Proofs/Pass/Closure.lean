import Mathlib.Order.Bounds.Defs
import Formwork.Proofs.Pass.Evaluation

/-!
# What changes can affect

The affected items of some answers are the least set of places that holds every item which depends on one
of them, and with an item whose rules write an answer all that depend on that one (`affected_least`). So
they do not depend on how the answers are listed, and neither does a pass.
-/

namespace Formwork.Form

variable {form : Form} {answers others : List String} {places : Set Nat} {i : Nat}

/-- Some places hold all items that depend on the answers, directly or through answers that rules write. -/
structure ClosesOver (form : Form) (answers : List String) (places : Set Nat) : Prop where
  declared : ∀ item ∈ form.items, ∀ answer ∈ answers, answer ∈ item.derivedDependencies →
    item.index ∈ places
  written : ∀ item ∈ form.items, item.index ∈ places → ∀ answer, item.produced? = some answer →
    ∀ other ∈ form.items, answer ∈ other.derivedDependencies → other.index ∈ places

theorem closesOver_affected (form : Form) (answers : List String) :
    form.ClosesOver answers {i | i ∈ form.affected answers} := by
  constructor
  · intro item hitem answer hanswer hdep
    exact mem_affected_of_declared hitem hanswer hdep
  · intro item hitem hmem answer hproduced other hother hdep
    exact mem_affected_of_feeds hitem hother ⟨answer, hproduced, hdep⟩ hmem

theorem ClosesOver.mem_of_leads {first : Nat} (h : form.ClosesOver answers places) (hfirst : first ∈ places)
    (hleads : form.influence.Leads first i) : i ∈ places := by
  induction hleads with
  | refl => exact hfirst
  | tail _ hstep ih =>
    obtain ⟨item, hitem, other, hother, rfl, rfl, answer, hproduced, hdep⟩ := mem_next_influence.1 hstep
    exact h.written item hitem ih answer hproduced other hother hdep

theorem ClosesOver.mem_of_affected (h : form.ClosesOver answers places) (hi : i ∈ form.affected answers) :
    i ∈ places := by
  obtain ⟨answer, hanswer, first, hfirst, hleads⟩ := mem_affected.1 hi
  obtain ⟨item, hitem, hdep⟩ := mem_dependentItems.1 hfirst
  obtain rfl := index_eq_of_getElem? hitem
  exact h.mem_of_leads (h.declared item (List.mem_of_getElem? hitem) answer hanswer hdep) hleads

/-! ### The order of the changes -/

/-- Two lists hold the same answers. -/
def SameAnswers (answers others : List String) : Prop := ∀ answer, answer ∈ answers ↔ answer ∈ others

namespace SameAnswers

variable (h : SameAnswers answers others)
include h

theorem affected_eq : form.affected answers = form.affected others := by
  have hmem : ∀ i, i ∈ form.affected answers ↔ i ∈ form.affected others := by
    intro i
    rw [mem_affected, mem_affected]
    exact exists_congr fun answer => and_congr_left' (h answer)
  exact (ascending_candidates form (.changed answers)).eq_of_mem_iff
    (ascending_candidates form (.changed others)) hmem

theorem ofNames_eq : NameSet.ofNames answers = NameSet.ofNames others := by
  refine NameSet.ext fun name => ?_
  rw [NameSet.has_ofNames, NameSet.has_ofNames, h name]

theorem runPass_eq (form : Form) (setting : Setting) (state : State) :
    form.runPass setting state (.changed answers) = form.runPass setting state (.changed others) := by
  have hschedule : form.schedule (.changed answers) = form.schedule (.changed others) := by
    rw [schedule, schedule, candidates, candidates, h.affected_eq]
  have hopen : ∀ schedule, form.openPass state (.changed answers) schedule =
      form.openPass state (.changed others) schedule := by
    intro schedule
    rw [openPass, openPass, Trigger.answers, Trigger.answers, h.ofNames_eq]
  rw [runPass, runPass, hschedule, hopen]
  rfl

end SameAnswers

/-- The search for what the answers affect ends, and the affected items are those it has met. They are the
least set of places that holds what depends on the answers, directly or through answers that rules write. The
same answers in another order, or more than once, affect the same items, and a pass over them ends alike and
reports the same. -/
theorem affected_least (form : Form) (answers : List String) :
    (∃ spread, form.spread? answers = some spread ∧ spread.items = form.affected answers ∧
      spread.pending = []) ∧
    IsLeast {places | form.ClosesOver answers places} {i | i ∈ form.affected answers} ∧
    ∀ others, SameAnswers answers others → form.affected others = form.affected answers ∧
      ∀ setting state, form.runPass setting state (.changed others) =
        form.runPass setting state (.changed answers) := by
  refine ⟨?_, ⟨closesOver_affected form answers, fun places hplaces i hi => ?_⟩, fun others hsame => ?_⟩
  · obtain ⟨spread, hspread, hitems, -, hpending⟩ := exists_spread form answers
    exact ⟨spread, hspread, hitems, hpending⟩
  · exact ClosesOver.mem_of_affected hplaces hi
  · exact ⟨hsame.affected_eq.symm, fun setting state => (hsame.runPass_eq form setting state).symm⟩

/-- In `echo`, `c` depends on `a` through `b`. -/
theorem affected_least_echo :
    SameAnswers ["b", "a"] ["a", "b", "a"] ∧ echo.affected ["a", "b", "a"] = [1, 2] ∧
    echo.runPass {} echoState (.changed ["a", "b", "a"]) =
      echo.runPass {} echoState (.changed ["b", "a"]) := by
  have hsame : SameAnswers ["b", "a"] ["a", "b", "a"] := by
    intro answer
    simp [or_comm]
  obtain ⟨haffected, hpass⟩ := (affected_least echo ["b", "a"]).2.2 _ hsame
  refine ⟨hsame, ?_, hpass {} echoState⟩
  rw [haffected]
  decide +kernel

end Formwork.Form
