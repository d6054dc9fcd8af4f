import Formwork.Proofs.Pass.Decided
import Formwork.Proofs.Pass.Distinct
import Formwork.Proofs.Pass.Incremental

/-!
# A pass over all rules settles a form

After a pass over all rules everything is decided, if rules are local and no item has rules of both
kinds for its answer. So a second pass writes at most what is there (`Resumes.step_values`), and sets
flags and choices as they are. It writes nothing at all where no object names a field twice, because
then each answer is equal to itself (`Form.changedAnswers_again`).
-/

namespace Formwork

open Definition (Slot)

namespace Form

variable {form : Form} {setting : Setting} {start state : State} {item : Item} {answer : String}

/-! ### A second pass -/

/-- A state to run a second pass from, after one from a first state: it has the answers that the first
pass has ended with, and flags and choices of before that pass or of after it. -/
structure Resumes (form : Form) (setting : Setting) (start state : State) : Prop where
  value? : ∀ answer, state.value? answer = (form.runPass setting start .full).1.value? answer
  visibility : state.visibility = start.visibility ∨
    state.visibility = (form.runPass setting start .full).1.visibility
  readOnly : state.readOnly = start.readOnly ∨ state.readOnly = (form.runPass setting start .full).1.readOnly
  choices : state.choices = start.choices ∨ state.choices = (form.runPass setting start .full).1.choices

/-- No item has both a rule for its value and rules for its choices. -/
def Single (form : Form) : Prop := ∀ item ∈ form.items, item.value = none ∨ item.hasChoiceRules = false

namespace Resumes

variable (h : form.Resumes setting start state) (hlocal : ∀ item ∈ form.items, item.IsLocal setting)
  (hsingle : form.Single)
include h hlocal hsingle

/-- In a second pass, a step writes at most what is there. -/
theorem step_values {pass : Pass} (hitem : item ∈ form.items) (hpass : pass.state.values = state.values) :
    (Pass.step setting true (form.schedule .full) pass item).state.values = state.values ∧
      ((∀ answer value, state.value? answer = some value → (value == value) = true) →
        (Pass.step setting true (form.schedule .full) pass item).report.changedAnswers =
          pass.report.changedAnswers) := by
  cases hfreezes : form.freezes .full item with
  | true =>
    have hfrozen : (form.schedule .full).freezes item.index = true := hfreezes
    rw [Pass.step, if_pos hfrozen, Pass.runFrozen_state, if_pos rfl, Pass.flagged_values]
    exact ⟨hpass, fun _ => Pass.changedAnswers_of_writes Pass.runFrozen_writes⟩
  | false =>
    rw [Pass.step_of_free hfreezes]
    cases Pass.sets_runItem setting true pass (hsingle item hitem) with
    | kept hkept hlisted => exact ⟨hkept.trans hpass, fun _ => hlisted⟩
    | set answer value hanswer hother hset hlisted =>
      have hstate : pass.state.value? answer = state.value? answer := by
        rw [State.value?, hpass]; rfl
      have hvalue : state.value? answer = some value := by
        have hagree : Agree (item.declared item.decider) pass.state.values
            (form.runPass setting start .full).1.values := fun a _ => by
          rw [hpass]; exact h.value? a
        have hdecided := answer_decided start hitem (hlocal item hitem) hfreezes hanswer (hsingle item hitem)
        calc state.value? answer
            = item.decidedIn setting (start.value? answer) (form.runPass setting start .full).1.values := by
              rw [h.value?, hdecided]
          _ = item.decidedIn setting (state.value? answer) (form.runPass setting start .full).1.values := by
              rw [h.value?, hdecided, Item.decidedIn_idem]
          _ = item.decidedIn setting (pass.state.value? answer) pass.state.values := by
              rw [hstate, (hlocal item hitem).decidedIn_eq hagree]
          _ = (Pass.runItem setting true pass item).state.value? answer :=
              (runItem_decides pass hitem hanswer (hsingle item hitem)).symm
          _ = some value := by rw [State.value?, hset, Fields.get?_set, if_pos rfl]
      refine ⟨?_, fun hself => ?_⟩
      · rw [hset, hpass]
        exact Fields.set_of_get? hvalue
      · rw [hstate, hvalue, Option.any_some, hself answer value hvalue] at hother
        cases hother

/-- A second pass changes no answer, and writes none if each is equal to itself. -/
theorem values_again : (form.runPass setting state .full).1.values = state.values ∧
    ((∀ answer value, state.value? answer = some value → (value == value) = true) →
      (form.runPass setting state .full).2.changedAnswers = []) := by
  have hitems : ∀ item ∈ form.queue .full, item ∈ form.items := fun item hitem => (mem_queue.1 hitem).1
  rw [runPass_eq]
  generalize form.queue .full = queue at hitems
  induction queue using List.reverseRecOn with
  | nil => exact ⟨rfl, fun _ => rfl⟩
  | append_singleton queue item ih =>
    obtain ⟨hvalues, hlisted⟩ := ih fun other hother => hitems other (List.mem_append_left _ hother)
    obtain ⟨hstep, hnone⟩ := h.step_values hlocal hsingle (hitems item (by simp)) hvalues
    rw [passAfter_concat]
    exact ⟨hstep, fun hself => (hnone hself).trans (hlisted hself)⟩

theorem agree_again (answers : List String) : Agree answers (form.runPass setting state .full).1.values
    (form.runPass setting start .full).1.values := fun answer _ => by
  rw [(h.values_again hlocal hsingle).1]
  exact h.value? answer

omit hlocal hsingle h in
theorem get?_again {α : Type} {map : State → NameMap α} {name : String}
    (hmap : map state = map start ∨ map state = map (form.runPass setting start .full).1)
    (hkept : ∀ state, (map (form.runPass setting state .full).1).get? name = (map state).get? name) :
    (map (form.runPass setting state .full).1).get? name =
      (map (form.runPass setting start .full).1).get? name := by
  rcases hmap with hmap | hmap
  · rw [hkept, hkept, hmap]
  · rw [hkept, hmap]

omit hlocal hsingle h in
theorem entries_again {α : Type} {map : State → NameMap α}
    (hmap : map state = map start ∨ map state = map (form.runPass setting start .full).1)
    (hkept : ∀ name, (¬ ∃ item ∈ form.items, item.id = name) →
      ∀ state, (map (form.runPass setting state .full).1).get? name = (map state).get? name)
    (hitems : ∀ item ∈ form.items, (map (form.runPass setting state .full).1).get? item.id =
      (map (form.runPass setting start .full).1).get? item.id) :
    map (form.runPass setting state .full).1 = map (form.runPass setting start .full).1 := by
  refine NameMap.ext fun name => ?_
  by_cases hname : ∃ item ∈ form.items, item.id = name
  · obtain ⟨item, hitem, rfl⟩ := hname
    exact hitems item hitem
  · exact get?_again hmap (hkept name hname)

theorem visibility_again : (form.runPass setting state .full).1.visibility =
    (form.runPass setting start .full).1.visibility := by
  refine entries_again h.visibility (fun _ hname _ => visibility_of_no_item hname) fun item hitem => ?_
  rw [visibility_decided state hitem (hlocal item hitem), visibility_decided start hitem (hlocal item hitem),
    (hlocal item hitem).shownIn_eq (h.agree_again hlocal hsingle _)]

theorem readOnly_again : (form.runPass setting state .full).1.readOnly =
    (form.runPass setting start .full).1.readOnly := by
  refine entries_again h.readOnly (fun _ hname _ => readOnly_of_no_item hname) fun item hitem => ?_
  rw [readOnly_decided state hitem (hlocal item hitem), readOnly_decided start hitem (hlocal item hitem),
    (hlocal item hitem).lockedIn_eq (h.agree_again hlocal hsingle _)]

theorem choices_again : (form.runPass setting state .full).1.choices =
    (form.runPass setting start .full).1.choices := by
  refine entries_again h.choices (fun _ hname _ => choices_of_no_item hname) fun item hitem => ?_
  cases hfreezes : form.freezes .full item with
  | true => exact get?_again h.choices fun state => choices_of_frozen hitem hfreezes
  | false =>
    have hrenewed := fun state => renewed_choices state .full hitem hfreezes (hlocal item hitem)
    simp only [due_full_iff, true_and] at hrenewed
    by_cases hdue : item.options ≠ [] ∨ item.rulesOf .choices ≠ []
    · rw [(hrenewed state).of_due hdue, (hrenewed start).of_due hdue,
        (hlocal item hitem).offersIn_eq (h.agree_again hlocal hsingle _)]
    · exact get?_again h.choices fun state => (hrenewed state).of_not_due hdue

end Resumes

theorem resumes_runPass (form : Form) (setting : Setting) (start : State) :
    form.Resumes setting start (form.runPass setting start .full).1 :=
  ⟨fun _ => rfl, .inr rfl, .inr rfl, .inr rfl⟩

/-- A second pass ends in the state that it starts from. -/
theorem runPass_again (hlocal : ∀ item ∈ form.items, item.IsLocal setting) (hsingle : form.Single)
    (start : State) : let once := (form.runPass setting start .full).1
    (form.runPass setting once .full).1 = once := by
  intro once
  have h := resumes_runPass form setting start
  have haside := (runPass_writes form setting once .full).1.aside
  have hvalues := (h.values_again hlocal hsingle).1
  have hvisibility := h.visibility_again hlocal hsingle
  have hreadOnly := h.readOnly_again hlocal hsingle
  have hchoices := h.choices_again hlocal hsingle
  calc (form.runPass setting once .full).1
      = { ({ (form.runPass setting once .full).1 with
            values := [], visibility := .empty, readOnly := .empty, choices := .empty } : State) with
          values := once.values
          visibility := once.visibility
          readOnly := once.readOnly
          choices := once.choices } := by
        rw [← hvalues, ← hvisibility, ← hreadOnly, ← hchoices]
    _ = once := by rw [runPass_eq, haside]; rfl

/-- A second pass writes no answer, where no object names a field twice. -/
theorem changedAnswers_again (huser : setting.user.Distinct) (htask : setting.task.Distinct)
    (hsingle : form.Single) (hlocal : ∀ item ∈ form.items, item.IsLocal setting)
    (h : (Json.obj start.values).Distinct) :
    (form.runPass setting (form.runPass setting start .full).1 .full).2.changedAnswers = [] := by
  -- each answer after the first pass is equal to itself
  refine ((resumes_runPass form setting start).values_again hlocal hsingle).2 fun answer value hvalue => ?_
  exact Json.same_self (Json.distinct_of_get? (distinct_runPass huser htask h).2 hvalue)

/-! ### Names of answers -/

/-- What holds of the answers and is kept when an answer is written, holds after a pass. -/
theorem values_induction {P : Fields Json → Prop} (hsingle : form.Single) (setting : Setting)
    (trigger : Trigger) (hstart : P start.values)
    (hset : ∀ values answer value, P values → P (Fields.set values answer value)) :
    P (form.runPass setting start trigger).1.values := by
  refine List.foldlRecOn (motive := fun pass : Pass => P pass.state.values) (form.queue trigger) _ hstart
    fun pass hpass item hitem => ?_
  cases Pass.sets_step setting trigger.isFull (form.schedule trigger) pass
    (hsingle item (mem_queue.1 hitem).1) with
  | kept hkept _ => rwa [hkept]
  | set answer value _ _ hwritten _ =>
    rw [hwritten]
    exact hset _ _ _ hpass

end Form
end Formwork
