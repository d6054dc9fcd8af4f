import Formwork.Proofs.Pass.Slot

/-!
# What the step of an item does to a pass

The slots of an item run one after another, but no slot makes another due or not due: an item writes
only its own answer, which its rules do not depend on (`isAnyDue_beforeSlot`). So what a step does is
known from the pass it starts from (`runItem_writes`, `runItem_state` and the like).
-/

namespace Formwork.Pass

open Definition (Slot)

variable {form : Form} {setting : Setting} {full : Bool} {schedule : Schedule} {pass : Pass}
  {item : Form.Item} {slot : Slot} {answer : String}

/-- Runs the rules of one slot of an item. The other slots do not run in a pass. -/
def runSlot (setting : Setting) (full : Bool) (item : Form.Item) : Slot → Pass → Pass
  | .visible, pass => runVisible setting full pass item
  | .readOnly, pass => runReadOnly setting full pass item
  | .value, pass => runValue setting full pass item
  | .choices, pass => runChoices setting full pass item
  | .validation, pass | .nextView, pass => pass

/-- The pass after the flags of an item have been set. -/
def flagged (setting : Setting) (full : Bool) (pass : Pass) (item : Form.Item) : Pass :=
  runReadOnly setting full (runVisible setting full pass item) item

/-- The pass in which a slot of an item runs, where the item runs in the given one. -/
def beforeSlot (setting : Setting) (full : Bool) (pass : Pass) (item : Form.Item) : Slot → Pass
  | .visible => pass
  | .readOnly => runVisible setting full pass item
  | .value => flagged setting full pass item
  | .choices => runValue setting full (flagged setting full pass item) item
  | .validation | .nextView => pass

theorem runItem_eq : runItem setting full pass item =
    let after := runSlot setting full item .choices (beforeSlot setting full pass item .choices)
    if pass.isAnyDue full item.derivedRules then after.noteItem item else after := rfl

/-- When answers change, a slot that is not due does nothing. -/
theorem runSlot_of_not_due (h : pass.isAnyDue false (item.rulesOf slot) = false) :
    runSlot setting false item slot pass = pass := by
  cases slot with
  | visible =>
    rw [Form.Item.rulesOf] at h
    rw [runSlot, runVisible, flag?_eq, h]; rfl
  | readOnly =>
    rw [Form.Item.rulesOf] at h
    rw [runSlot, runReadOnly, flag?_eq, h]; rfl
  | value => exact runValue_of_not_due h
  | choices =>
    refine runChoices_of_not_due (Bool.eq_false_iff.2 fun hdue => ?_)
    rcases offersDue_iff.1 hdue with ⟨hfull, -⟩ | hdue
    · cases hfull
    · rw [h] at hdue; cases hdue
  | validation | nextView => rfl

/-! ### What is written -/

/-- Whether the rules of an item that can write its answer are due. -/
def Decides (full : Bool) (pass : Pass) (item : Form.Item) : Prop :=
  pass.isAnyDue full (item.rulesOf .value) = true ∨ pass.isAnyDue full (item.rulesOf .choices) = true

theorem Writes.isAnyDue_own {answers : List String} {after : Pass} (hitem : item ∈ form.items)
    (h : Writes answers pass after) (hown : ∀ a ∈ answers, item.answer? = some a) :
    after.isAnyDue full (item.rulesOf slot) = pass.isAnyDue full (item.rulesOf slot) :=
  h.isAnyDue_eq fun a ha hdeclared =>
    Form.answer_notMem_derivedDependencies hitem (hown a ha)
      (Form.Item.mem_derivedDependencies.2 ⟨slot, hdeclared⟩)

theorem flagged_writes : Writes [] pass (flagged setting full pass item) :=
  runVisible_writes.trans runReadOnly_writes

theorem beforeSlot_writes (setting : Setting) (full : Bool) (pass : Pass) (hitem : item ∈ form.items)
    (slot : Slot) :
    ∃ answers, Writes answers pass (beforeSlot setting full pass item slot) ∧
      ∀ a ∈ answers, item.answer? = some a ∧ pass.isAnyDue full (item.rulesOf .value) = true := by
  cases slot with
  | visible | validation | nextView => exact ⟨[], .refl pass, by simp⟩
  | readOnly => exact ⟨[], runVisible_writes, by simp⟩
  | value => exact ⟨[], flagged_writes, by simp⟩
  | choices =>
    obtain ⟨answers, hwrites, hall⟩ := runValue_writes setting full
      (flagged setting full pass item) item
    rw [flagged_writes.isAnyDue_own hitem (by simp)] at hall
    exact ⟨answers, flagged_writes.trans hwrites, hall⟩

/-- A slot is due where it runs if and only if it is due where the item runs. -/
theorem isAnyDue_beforeSlot (hitem : item ∈ form.items) {other : Slot} :
    (beforeSlot setting full pass item other).isAnyDue full (item.rulesOf slot) =
      pass.isAnyDue full (item.rulesOf slot) := by
  obtain ⟨answers, hwrites, hall⟩ := beforeSlot_writes setting full pass hitem other
  exact hwrites.isAnyDue_own hitem fun a ha => (hall a ha).1

theorem runItem_writes (setting : Setting) (full : Bool) (pass : Pass) (hitem : item ∈ form.items) :
    ∃ answers, Writes answers pass (runItem setting full pass item) ∧
      ∀ a ∈ answers, item.answer? = some a ∧ Decides full pass item := by
  obtain ⟨early, hearly, hvalue⟩ := beforeSlot_writes setting full pass hitem .choices
  obtain ⟨late, hlate, hchoices⟩ := runChoices_writes setting full
    (beforeSlot setting full pass item .choices) item
  rw [isAnyDue_beforeSlot hitem] at hchoices
  have hall : ∀ a ∈ early ++ late, item.answer? = some a ∧ Decides full pass item := by
    intro a ha
    rcases List.mem_append.1 ha with ha | ha
    · exact (hvalue a ha).imp_right .inl
    · exact (hchoices a ha).imp_right .inr
  rw [runItem_eq]
  by_cases hnote : pass.isAnyDue full item.derivedRules
  · refine ⟨(early ++ late) ++ [], ?_, by simpa using hall⟩
    simp only [hnote, if_true]; exact (hearly.trans hlate).trans noteItem_writes
  · refine ⟨early ++ late, ?_, hall⟩
    simp only [hnote]; exact hearly.trans hlate

theorem runFrozen_writes : Writes [] pass (runFrozen setting full pass item) := by
  rw [runFrozen]
  split
  · split
    · exact flagged_writes
    · exact flagged_writes.trans noteItem_writes
  · exact .refl pass

/-- A step writes at most the answer of its item, and only where the item is not frozen and the rules
for the answer are due. -/
theorem step_writes (setting : Setting) (full : Bool) (schedule : Schedule) (pass : Pass)
    (hitem : item ∈ form.items) :
    ∃ answers, Writes answers pass (step setting full schedule pass item) ∧ ∀ a ∈ answers,
      schedule.freezes item.index = false ∧ item.answer? = some a ∧ Decides full pass item := by
  rw [step]
  split
  · exact ⟨[], runFrozen_writes, by simp⟩
  · rename_i hfree
    obtain ⟨answers, hwrites, hall⟩ := runItem_writes setting full pass hitem
    exact ⟨answers, hwrites, fun a ha => ⟨by simpa using hfree, hall a ha⟩⟩

/-! ### Flags, choices and the answer -/

theorem flagged_state : (flagged setting full pass item).state =
    { pass.state with
      visibility := if full || pass.isAnyDue full (item.rulesOf .visible) then
        pass.state.visibility.insert item.id (item.shownIn setting pass.state.values)
        else pass.state.visibility
      readOnly := if full || pass.isAnyDue full (item.rulesOf .readOnly) then
        pass.state.readOnly.insert item.id (item.lockedIn setting pass.state.values)
        else pass.state.readOnly } := by
  have hdue : (runVisible setting full pass item).isAnyDue full (item.rulesOf .readOnly) =
      pass.isAnyDue full (item.rulesOf .readOnly) := runVisible_writes.isAnyDue_eq (by simp)
  rw [flagged, runReadOnly_state, hdue, runVisible_state]

theorem offersDue_beforeSlot (hitem : item ∈ form.items) :
    (beforeSlot setting full pass item slot).offersDue full item = pass.offersDue full item := by
  rw [Bool.eq_iff_iff, offersDue_iff, offersDue_iff, isAnyDue_beforeSlot hitem]

theorem flagged_values : (flagged setting full pass item).state.values = pass.state.values := by
  rw [flagged_state]

theorem runItem_state_eq : (runItem setting full pass item).state =
    (runChoices setting full (beforeSlot setting full pass item .choices) item).state := by
  rw [runItem_eq]
  by_cases h : pass.isAnyDue full item.derivedRules
  · simp only [h, if_true]; rfl
  · simp only [h]; rfl

theorem runItem_state (hitem : item ∈ form.items) : (runItem setting full pass item).state =
    { (flagged setting full pass item).state with
      values := (runItem setting full pass item).state.values
      choices := if pass.offersDue full item then
        pass.state.choices.insert item.id
          (item.offersIn setting (beforeSlot setting full pass item .choices).state.values)
        else pass.state.choices } := by
  rw [runItem_state_eq, runChoices_state, offersDue_beforeSlot hitem, beforeSlot, runValue_state,
    flagged_state]

theorem runFrozen_state : (runFrozen setting full pass item).state =
    if full then (flagged setting full pass item).state else pass.state := by
  cases full with
  | false => rfl
  | true =>
    rw [runFrozen]
    by_cases h : item.flagRules.isEmpty
    · simp only [h, if_true]; rfl
    · simp only [h]; rfl

theorem runItem_value?_of_value (hitem : item ∈ form.items) (hanswer : item.answer? = some answer)
    (hchoices : item.choiceRules = []) : (runItem setting full pass item).state.value? answer =
      if pass.isAnyDue full (item.rulesOf .value) then
        overwrite (pass.state.value? answer) (item.ruledIn? setting pass.state.values)
      else pass.state.value? answer := by
  have hflagged : (flagged setting full pass item).state.value? answer = pass.state.value? answer :=
    flagged_writes.kept answer (by simp)
  have hlast : (runItem setting full pass item).state.value? answer =
      (runValue setting full (flagged setting full pass item) item).state.value? answer := by
    obtain ⟨answers, hwrites, hall⟩ := runChoices_writes setting full
      (beforeSlot setting full pass item .choices) item
    rw [runItem_state_eq]
    exact hwrites.kept answer fun ha => rulesOf_ne_nil_of_due (hall answer ha).2 hchoices
  have hdue : (flagged setting full pass item).isAnyDue full (item.rulesOf .value) =
      pass.isAnyDue full (item.rulesOf .value) := flagged_writes.isAnyDue_own hitem (by simp)
  rw [hlast]
  by_cases h : pass.isAnyDue full (item.rulesOf .value) = true
  · rw [if_pos h, runValue_value? (hdue.trans h) hanswer, hflagged, flagged_values]
  · rw [if_neg h, runValue_of_not_due (hdue.trans (by simpa using h)), hflagged]

theorem runItem_value?_of_choices (hitem : item ∈ form.items) (hanswer : item.answer? = some answer)
    (hvalue : item.value = none) : (runItem setting full pass item).state.value? answer =
      if pass.isAnyDue full (item.rulesOf .choices) then
        overwrite (pass.state.value? answer) ((pass.state.value? answer).bind
          (Offer.replacement? (item.offersIn setting pass.state.values)))
      else pass.state.value? answer := by
  have hbefore : beforeSlot setting full pass item .choices = flagged setting full pass item := by
    refine runValue_of_not_due ?_
    rw [Form.Item.rulesOf, hvalue]; rfl
  have hflagged : (flagged setting full pass item).state.value? answer = pass.state.value? answer :=
    flagged_writes.kept answer (by simp)
  have hdue : (flagged setting full pass item).isAnyDue full (item.rulesOf .choices) =
      pass.isAnyDue full (item.rulesOf .choices) := flagged_writes.isAnyDue_own hitem (by simp)
  rw [runItem_state_eq, hbefore]
  by_cases h : pass.isAnyDue full (item.rulesOf .choices) = true
  · rw [if_pos h, runChoices_value? (hdue.trans h) hanswer, hflagged, flagged_values]
  · rw [if_neg h]
    obtain ⟨answers, hwrites, hall⟩ := runChoices_writes setting full
      (flagged setting full pass item) item
    rw [hwrites.kept answer fun ha => h (hdue ▸ (hall answer ha).2), hflagged]

/-! ### What a step leaves alone -/

theorem step_of_frozen (h : schedule.freezes item.index = true) :
    (step setting full schedule pass item).state =
      if full then (flagged setting full pass item).state else pass.state := by
  rw [step, if_pos h, runFrozen_state]

theorem step_of_free (h : schedule.freezes item.index = false) :
    step setting full schedule pass item = runItem setting full pass item := by
  rw [step, if_neg (by simp [h])]

theorem eq_of_get?_insert_ne {α : Type} {map : NameMap α} {due : Bool} {id name : String} {value : α}
    (h : (if due then map.insert id value else map).get? name ≠ map.get? name) :
    id = name ∧ due = true := by
  cases due with
  | false => exact absurd rfl h
  | true =>
    refine ⟨?_, rfl⟩
    by_contra hne
    rw [if_pos rfl, NameMap.get?_insert, if_neg fun heq => hne heq.symm] at h
    exact h rfl

theorem of_step_visibility_ne {name : String} (hitem : item ∈ form.items)
    (h : (step setting full schedule pass item).state.visibility.get? name ≠
      pass.state.visibility.get? name) :
    item.id = name ∧ (full = true ∨ schedule.freezes item.index = false ∧
      pass.isAnyDue full (item.rulesOf .visible) = true) := by
  cases hfree : schedule.freezes item.index with
  | true =>
    rw [step_of_frozen hfree, flagged_state] at h
    cases full with
    | false => exact absurd rfl h
    | true => exact ⟨(eq_of_get?_insert_ne h).1, .inl rfl⟩
  | false =>
    rw [step_of_free hfree, runItem_state hitem, flagged_state] at h
    obtain ⟨hid, hdue⟩ := eq_of_get?_insert_ne h
    exact ⟨hid, (Bool.or_eq_true _ _ ▸ hdue).imp_right fun hdue => ⟨rfl, hdue⟩⟩

theorem of_step_readOnly_ne {name : String} (hitem : item ∈ form.items)
    (h : (step setting full schedule pass item).state.readOnly.get? name ≠
      pass.state.readOnly.get? name) :
    item.id = name ∧ (full = true ∨ schedule.freezes item.index = false ∧
      pass.isAnyDue full (item.rulesOf .readOnly) = true) := by
  cases hfree : schedule.freezes item.index with
  | true =>
    rw [step_of_frozen hfree, flagged_state] at h
    cases full with
    | false => exact absurd rfl h
    | true => exact ⟨(eq_of_get?_insert_ne h).1, .inl rfl⟩
  | false =>
    rw [step_of_free hfree, runItem_state hitem, flagged_state] at h
    obtain ⟨hid, hdue⟩ := eq_of_get?_insert_ne h
    exact ⟨hid, (Bool.or_eq_true _ _ ▸ hdue).imp_right fun hdue => ⟨rfl, hdue⟩⟩

/-- A step resolves only the choices of its own item, and not if it is frozen. -/
theorem of_step_choices_ne {name : String} (hitem : item ∈ form.items)
    (h : (step setting full schedule pass item).state.choices.get? name ≠
      pass.state.choices.get? name) :
    item.id = name ∧ schedule.freezes item.index = false ∧ pass.offersDue full item = true := by
  cases hfree : schedule.freezes item.index with
  | true =>
    rw [step_of_frozen hfree, flagged_state] at h
    cases full <;> exact absurd rfl h
  | false =>
    rw [step_of_free hfree, runItem_state hitem] at h
    obtain ⟨hid, hdue⟩ := eq_of_get?_insert_ne h
    exact ⟨hid, rfl, hdue⟩

theorem of_step_value?_ne (hitem : item ∈ form.items)
    (h : (step setting full schedule pass item).state.value? answer ≠ pass.state.value? answer) :
    item.answer? = some answer := by
  obtain ⟨answers, hwrites, hall⟩ := step_writes setting full schedule
    pass hitem
  by_contra hne
  exact h (hwrites.kept answer fun ha => hne (hall answer ha).2.1)

end Formwork.Pass
