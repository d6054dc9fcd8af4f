import Formwork.Proofs.Pass.Evaluation

/-!
# What a pass leaves alone

If a pass changes a part of the state, then the step of some item does (`exists_step_ne`), and a step
changes flags and choices only by the id of its item, and only where their rules are due. So whatever
a pass after an edit changes is declared to depend on what changes in the pass (`Form.Touches`).
-/

namespace Formwork

open Definition (Slot)

/-- If a run of steps changes something, one of them does. -/
theorem exists_of_foldl_ne {σ α β : Type} {step : σ → α → σ} (get : σ → β) {items : List α} {start : σ}
    (h : get (items.foldl step start) ≠ get start) : ∃ before item after,
      items = before ++ item :: after ∧
        get (step (before.foldl step start) item) ≠ get (before.foldl step start) := by
  induction items generalizing start with
  | nil => exact absurd rfl h
  | cons item rest ih =>
    by_cases hfirst : get (step start item) = get start
    · have hrest : get (rest.foldl step (step start item)) ≠ get (step start item) := by
        rw [hfirst]; exact h
      obtain ⟨before, other, after, rfl, hother⟩ := ih hrest
      exact ⟨item :: before, other, after, rfl, hother⟩
    · exact ⟨[], item, rest, rfl, hfirst⟩

namespace Form

variable {form : Form} {setting : Setting} {state : State} {trigger : Trigger} {item : Item}
  {answers : List String} {name answer : String} {slot : Slot}

theorem exists_step_ne {β : Type} (get : State → β)
    (h : get (form.runPass setting state trigger).1 ≠ get state) :
    ∃ before item after, form.queue trigger = before ++ item :: after ∧
      get (Pass.step setting trigger.isFull (form.schedule trigger)
        (form.passAfter setting state trigger before) item).state ≠
      get (form.passAfter setting state trigger before).state :=
  exists_of_foldl_ne (fun pass : Pass => get pass.state) h

theorem exists_declared {before after : List Item}
    (hqueue : form.queue (.changed answers) = before ++ item :: after)
    (h : (form.passAfter setting state (.changed answers) before).isAnyDue false (item.rulesOf slot) = true) :
    ∃ answer ∈ item.declared slot, answer ∈ form.changes setting state (.changed answers) :=
  ((isAnyDue_passAfter hqueue).1 h).resolve_left fun h => by cases h.1

/-- An item whose slot a pass after an edit may fill anew: the item is in no cycle that the pass
reports, and its rules for the slot declare an answer that changes in the pass. -/
def Touches (form : Form) (setting : Setting) (state : State) (answers : List String) (slot : Slot)
    (item : Item) : Prop :=
  item ∈ form.items ∧
    (∀ cycle ∈ (form.runPass setting state (.changed answers)).2.cycles, item.id ∉ cycle) ∧
    ∃ answer ∈ item.declared slot, answer ∈ form.changes setting state (.changed answers)

theorem touches_of_due {before after : List Item}
    (hqueue : form.queue (.changed answers) = before ++ item :: after)
    (hfree : form.freezes (.changed answers) item = false)
    (h : (form.passAfter setting state (.changed answers) before).isAnyDue false (item.rulesOf slot) = true) :
    form.Touches setting state answers slot item :=
  ⟨mem_items_of_queue hqueue, (freezes_eq_false_iff (mem_items_of_queue hqueue)).1 hfree,
    exists_declared hqueue h⟩

theorem exists_of_choices_ne
    (h : (form.runPass setting state (.changed answers)).1.choices.get? name ≠ state.choices.get? name) :
    ∃ item, item.id = name ∧ item.hasChoiceRules = true ∧
      form.Touches setting state answers .choices item := by
  obtain ⟨before, item, after, hqueue, hne⟩ := exists_step_ne (fun state => state.choices.get? name) h
  obtain ⟨hid, hfree, hdue⟩ := Pass.of_step_choices_ne (mem_items_of_queue hqueue) hne
  have hrules := (Pass.offersDue_iff.1 hdue).resolve_left fun h => by cases h.1
  exact ⟨item, hid, Item.hasChoiceRules_iff.2 (Pass.rulesOf_ne_nil_of_due hrules),
    touches_of_due hqueue hfree hrules⟩

theorem exists_of_mem_changedAnswers
    (h : answer ∈ (form.runPass setting state (.changed answers)).2.changedAnswers) :
    ∃ item, item.answer? = some answer ∧
      (form.Touches setting state answers .value item ∨
        form.Touches setting state answers .choices item) := by
  obtain ⟨before, item, after, hqueue, hfree, hanswer, hdue⟩ := exists_writer h
  exact ⟨item, hanswer, hdue.imp (touches_of_due hqueue hfree) (touches_of_due hqueue hfree)⟩

theorem notMem_changedAnswers_of_frozen (hitem : item ∈ form.items)
    (hfrozen : form.freezes trigger item = true) (hanswer : item.answer? = some answer) :
    answer ∉ (form.runPass setting state trigger).2.changedAnswers := by
  intro h
  obtain ⟨before, other, after, hqueue, hfree, hother, -⟩ := exists_writer h
  rw [item_ext_answer (mem_items_of_queue hqueue) hitem hother hanswer, hfrozen] at hfree
  cases hfree

theorem choices_of_frozen (hitem : item ∈ form.items) (hfrozen : form.freezes trigger item = true) :
    (form.runPass setting state trigger).1.choices.get? item.id = state.choices.get? item.id := by
  by_contra hne
  obtain ⟨before, other, after, hqueue, hstep⟩ :=
    exists_step_ne (fun state => state.choices.get? item.id) hne
  obtain ⟨hid, hfree, -⟩ := Pass.of_step_choices_ne (mem_items_of_queue hqueue) hstep
  rw [item_ext_id (mem_items_of_queue hqueue) hitem hid] at hfree
  rw [freezes, hfree] at hfrozen; cases hfrozen

/-- What a pass after an edit may change. A flag changes only where its rule declares a change of the
pass, choices only where rules for them do, and an answer only where it is listed and a rule for it
does, each of an item in no cycle; nothing else changes. A pass over all rules leaves the answers and
choices of the items in a cycle alone. -/
theorem runPass_frame (form : Form) (setting : Setting) (state : State) :
    (∀ answers,
      let done := form.runPass setting state (.changed answers)
      (∀ name, done.1.visibility.get? name ≠ state.visibility.get? name →
        ∃ item, item.id = name ∧ form.Touches setting state answers .visible item) ∧
      (∀ name, done.1.readOnly.get? name ≠ state.readOnly.get? name →
        ∃ item, item.id = name ∧ form.Touches setting state answers .readOnly item) ∧
      (∀ name, done.1.choices.get? name ≠ state.choices.get? name →
        ∃ item, item.id = name ∧ item.hasChoiceRules = true ∧
          form.Touches setting state answers .choices item) ∧
      (∀ answer, done.1.value? answer ≠ state.value? answer → answer ∈ done.2.changedAnswers) ∧
      (∀ answer ∈ done.2.changedAnswers, ∃ item, item.answer? = some answer ∧
        (form.Touches setting state answers .value item ∨
          form.Touches setting state answers .choices item)) ∧
      done.1.errors = state.errors ∧ done.1.formErrors = state.formErrors ∧
      done.1.currentView = state.currentView ∧ done.1.completedViews = state.completedViews ∧
      done.1.revision = state.revision) ∧
    ∀ item ∈ form.items,
      let done := form.runPass setting state .full
      (∃ cycle ∈ done.2.cycles, item.id ∈ cycle) →
        done.1.choices.get? item.id = state.choices.get? item.id ∧
        ∀ answer, item.answer? = some answer → done.1.value? answer = state.value? answer := by
  refine ⟨fun answers => ⟨fun name h => ?_, fun name h => ?_, fun name h => exists_of_choices_ne h,
    fun answer h => ?_, fun answer h => exists_of_mem_changedAnswers h, ?_⟩, fun item hitem => ?_⟩
  · obtain ⟨before, item, after, hqueue, hne⟩ := exists_step_ne (fun state => state.visibility.get? name) h
    obtain ⟨hid, hrun⟩ := Pass.of_step_visibility_ne (mem_items_of_queue hqueue) hne
    obtain ⟨hfree, hdue⟩ := hrun.resolve_left (by simp [Trigger.isFull])
    exact ⟨item, hid, touches_of_due hqueue hfree hdue⟩
  · obtain ⟨before, item, after, hqueue, hne⟩ := exists_step_ne (fun state => state.readOnly.get? name) h
    obtain ⟨hid, hrun⟩ := Pass.of_step_readOnly_ne (mem_items_of_queue hqueue) hne
    obtain ⟨hfree, hdue⟩ := hrun.resolve_left (by simp [Trigger.isFull])
    exact ⟨item, hid, touches_of_due hqueue hfree hdue⟩
  · by_contra hlisted
    exact h (value?_of_notMem_changedAnswers hlisted)
  · have haside := (runPass_writes form setting state (.changed answers)).1.aside
    exact ⟨(congrArg State.errors haside :), (congrArg State.formErrors haside :),
      (congrArg State.currentView haside :), (congrArg State.completedViews haside :),
      (congrArg State.revision haside :)⟩
  · rintro done ⟨cycle, hcycle, hid⟩
    have hfrozen : form.freezes .full item = true := by
      by_contra hfree
      exact (freezes_eq_false_iff hitem).1 (Bool.eq_false_iff.2 hfree) cycle hcycle hid
    exact ⟨choices_of_frozen hitem hfrozen, fun answer hanswer =>
      value?_of_notMem_changedAnswers (notMem_changedAnswers_of_frozen hitem hfrozen hanswer)⟩

/-- An edit of `a` hides or shows `c`, whose rule declares a change. -/
theorem runPass_frame_echo :
    let done := echo.runPass {} echoState (.changed ["a"])
    done.1.visibility.get? "c" ≠ echoState.visibility.get? "c" ∧
    (∃ item, item.id = "c" ∧ echo.Touches {} echoState ["a"] .visible item) ∧
    done.1.errors = echoState.errors := by
  have hframe := (runPass_frame echo {} echoState).1 ["a"]
  have hshown : (echo.runPass {} echoState (.changed ["a"])).1.visibility.get? "c" ≠
      echoState.visibility.get? "c" := by decide +kernel
  exact ⟨hshown, hframe.1 "c" hshown, hframe.2.2.2.2.2.1⟩

end Form

end Formwork
