import Formwork.Proofs.Pass.Keys
import Formwork.Proofs.Pass.Outcome

/-!
# What a pass over all rules decides

With local rules, a pass over all rules leaves each item with the flags that its rules have for the
final answers, and with the answer that they make of its first answer and the final ones
(`Form.answer_decided`). To decide an answer once more comes to the same (`Form.Item.decidedIn_idem`).
An item without rules of both kinds writes its answer at most once (`Pass.Sets`).
-/

namespace Formwork

open Definition (Slot)

/-! ### Steps that write at most once -/

/-- A step writes at most the given answer, once, and not if the same is there. -/
inductive Pass.Sets (answer? : Option String) (before after : Pass) : Prop
  | kept : after.state.values = before.state.values →
    after.report.changedAnswers = before.report.changedAnswers → Sets answer? before after
  | set (answer : String) (value : Json) : answer? = some answer →
    (before.state.value? answer).any (· == value) = false →
    after.state.values = Fields.set before.state.values answer value →
    after.report.changedAnswers = before.report.changedAnswers ++ [answer] → Sets answer? before after

namespace Pass

variable {form : Form} {setting : Setting} {full : Bool} {schedule : Schedule} {pass before after last : Pass}
  {item : Form.Item} {answer? : Option String} {answer : String} {value : Json}

theorem sets_setAnswer (pass : Pass) (value : Json) (hanswer : answer? = some answer) :
    Sets answer? pass (pass.setAnswer answer value) := by
  rw [setAnswer]
  split
  · exact .kept rfl rfl
  · rename_i hother
    exact .set answer value hanswer (Bool.eq_false_iff.2 hother) rfl rfl

theorem Sets.of_before (hvalues : pass.state.values = before.state.values)
    (hchanged : pass.report.changedAnswers = before.report.changedAnswers) (h : Sets answer? pass after) :
    Sets answer? before after := by
  cases h with
  | kept hkept hlisted => exact .kept (hkept.trans hvalues) (hlisted.trans hchanged)
  | set answer value hanswer hother hset hlisted =>
    rw [State.value?, hvalues] at hother
    exact .set answer value hanswer hother (by rw [hset, hvalues]) (by rw [hlisted, hchanged])

theorem Sets.of_after (h : Sets answer? before after) (hvalues : last.state.values = after.state.values)
    (hchanged : last.report.changedAnswers = after.report.changedAnswers) : Sets answer? before last := by
  cases h with
  | kept hkept hlisted => exact .kept (hvalues.trans hkept) (hchanged.trans hlisted)
  | set answer value hanswer hother hset hlisted =>
    exact .set answer value hanswer hother (hvalues.trans hset) (hchanged.trans hlisted)

theorem changedAnswers_of_writes (h : Writes [] before after) :
    after.report.changedAnswers = before.report.changedAnswers := by
  rw [h.listed, List.append_nil]

theorem sets_runValue : Sets item.answer? pass (runValue setting full pass item) := by
  by_cases h : pass.isAnyDue full (item.rulesOf .value) = true
  · obtain ⟨rule, -, hrun⟩ := runValue_of_due setting h
    rw [hrun]
    split
    · rename_i value answer hvalue hanswer
      have hset := sets_setAnswer (pass.countFailures setting [rule]) value hanswer
      refine hset.of_before ?_ ?_
      · rfl
      · rfl
    · exact .kept rfl rfl
  · rw [runValue_of_not_due (Bool.eq_false_iff.2 h)]
    exact .kept rfl rfl

theorem sets_dropUnoffered (offers : List Offer) : Sets item.answer? pass (pass.dropUnoffered item offers) := by
  rw [dropUnoffered]
  split
  · rename_i answer hanswer
    split
    · exact sets_setAnswer pass _ hanswer
    · exact .kept rfl rfl
  · exact .kept rfl rfl

theorem sets_runChoices : Sets item.answer? pass (runChoices setting full pass item) := by
  by_cases h : pass.offersDue full item = true
  · obtain ⟨counted, hcounted, hstate, hrun⟩ := runChoices_of_due setting h
    rw [hrun]
    have hvalues : counted.state.values = pass.state.values := by rw [hstate]
    have hchanged := changedAnswers_of_writes hcounted
    by_cases hrules : item.hasChoiceRules = true
    · simp only [hrules, if_true]
      exact ((sets_dropUnoffered _).of_before hvalues hchanged).of_after rfl rfl
    · simp only [hrules]
      exact .kept hvalues hchanged
  · rw [runChoices_of_not_due (Bool.eq_false_iff.2 h)]
    exact .kept rfl rfl

theorem runChoices_values (setting : Setting) (full : Bool) (pass : Pass)
    (hrules : item.hasChoiceRules = false) :
    (runChoices setting full pass item).state.values = pass.state.values ∧
      (runChoices setting full pass item).report.changedAnswers = pass.report.changedAnswers := by
  by_cases h : pass.offersDue full item = true
  · obtain ⟨counted, hcounted, hstate, hrun⟩ := runChoices_of_due setting h
    rw [hrun]
    simp only [hrules, Bool.false_eq_true, if_false, hstate, true_and]
    exact changedAnswers_of_writes hcounted
  · rw [runChoices_of_not_due (Bool.eq_false_iff.2 h)]
    exact ⟨rfl, rfl⟩

theorem sets_runItem (setting : Setting) (full : Bool) (pass : Pass)
    (hsingle : item.value = none ∨ item.hasChoiceRules = false) :
    Sets item.answer? pass (runItem setting full pass item) := by
  have hflagged : (flagged setting full pass item).report.changedAnswers = pass.report.changedAnswers :=
    changedAnswers_of_writes flagged_writes
  have hslots : Sets item.answer? pass
      (runChoices setting full (beforeSlot setting full pass item .choices) item) := by
    rcases hsingle with hvalue | hrules
    · have hbefore : beforeSlot setting full pass item .choices = flagged setting full pass item := by
        refine runValue_of_not_due ?_
        rw [Form.Item.rulesOf, hvalue]; rfl
      rw [hbefore]
      exact sets_runChoices.of_before flagged_values hflagged
    · obtain ⟨hvalues, hchanged⟩ := runChoices_values setting full
        (beforeSlot setting full pass item .choices) hrules
      exact (sets_runValue.of_before flagged_values hflagged).of_after hvalues hchanged
  rw [runItem_eq]
  by_cases hnote : pass.isAnyDue full item.derivedRules
  · simp only [hnote, if_true]
    exact hslots.of_after rfl rfl
  · simp only [hnote]
    exact hslots

theorem sets_step (setting : Setting) (full : Bool) (schedule : Schedule) (pass : Pass)
    (hsingle : item.value = none ∨ item.hasChoiceRules = false) :
    Sets item.answer? pass (step setting full schedule pass item) := by
  rw [step]
  split
  · refine .kept ?_ (changedAnswers_of_writes runFrozen_writes)
    rw [runFrozen_state]
    split
    · exact flagged_values
    · rfl
  · exact sets_runItem setting full pass hsingle

end Pass

/-! ### What is decided stays decided -/

theorem Offer.replacement?_replaced {offers : List Offer} {value new : Json}
    (h : replacement? offers value = some new) : replacement? offers new = none := by
  unfold replacement? at h
  split at h
  · cases h
  · rename_i selected
    simp only [Option.ite_none_left_eq_some, Option.some.injEq] at h
    obtain ⟨-, rfl⟩ := h
    have hall : (selected.filter (isOffered offers)).filter (isOffered offers) =
        selected.filter (isOffered offers) := by simp
    simp only [replacement?, hall, if_true]
  · simp only [Option.ite_none_left_eq_some, Option.some.injEq] at h
    rw [← h.2]; rfl

theorem overwrite_idem (current new : Option Json) :
    overwrite (overwrite current new) new = overwrite current new := by
  cases new with
  | none => rfl
  | some value =>
    by_cases hsame : current.any (· == value) = true
    · simp only [overwrite, if_pos hsame]
    · simp only [overwrite, if_neg hsame, ite_self]

namespace Form

variable {form : Form} {setting : Setting} {start state : State} {item : Item}
  {before after : List Item} {answer name : String}

theorem Item.decidedIn_idem (item : Item) (setting : Setting) (current : Option Json) (values : Fields Json) :
    item.decidedIn setting (item.decidedIn setting current values) values =
      item.decidedIn setting current values := by
  by_cases hrules : item.hasChoiceRules = true
  · simp only [decidedIn, if_pos hrules]
    cases current with
    | none => rfl
    | some value =>
      simp only [Option.bind_some]
      cases hreplaced : Offer.replacement? (item.offersIn setting values) value with
      | none => simp only [overwrite, Option.bind_some, hreplaced]
      | some new =>
        by_cases hsame : (some value : Option Json).any (· == new) = true
        · simp only [overwrite, if_pos hsame, Option.bind_some, hreplaced]
        · simp only [overwrite, if_neg hsame, Option.bind_some, Offer.replacement?_replaced hreplaced]
  · simp only [decidedIn, if_neg hrules]
    exact overwrite_idem current _

/-! ### What a pass over all rules decides -/

section
variable {β : Type} (get : State → β) (start : State)

/-- What only the step of an item touches, and what that step makes of it, is made of the final answers. -/
theorem decided_runPass {slot : Slot} (make : β → Fields Json → β) (hitem : item ∈ form.items)
    (hspares : ∀ other ∈ form.items, other ≠ item → form.Spares setting .full get other)
    (hown : ∀ pass, get (Pass.step setting true (form.schedule .full) pass item).state =
      make (get pass.state) pass.state.values)
    (hmake : ∀ current values others, Agree (item.declared slot) values others →
      make current values = make current others) :
    get (form.runPass setting start .full).1 = make (get start) (form.runPass setting start .full).1.values := by
  obtain ⟨before, after, hqueue⟩ := List.append_of_mem (mem_queue.2 ⟨hitem, mem_candidates_full hitem⟩)
  obtain ⟨hstart, hdone⟩ := get_runPass get start hqueue hspares
  have hagree : Agree (item.declared slot) (form.passAfter setting start .full before).state.values
      (form.runPass setting start .full).1.values := fun answer hanswer =>
    value?_passAfter hqueue (Item.mem_derivedDependencies.2 ⟨slot, hanswer⟩)
  calc get (form.runPass setting start .full).1
      = get (Pass.step setting true (form.schedule .full)
          (form.passAfter setting start .full before) item).state := hdone
    _ = make (get start) (form.passAfter setting start .full before).state.values := by rw [hown, hstart]
    _ = make (get start) (form.runPass setting start .full).1.values := hmake _ _ _ hagree

end

/-- In a pass over all rules, an item that runs decides its answer. -/
theorem runItem_decides (pass : Pass) (hitem : item ∈ form.items) (hanswer : item.answer? = some answer)
    (hsingle : item.value = none ∨ item.hasChoiceRules = false) :
    (Pass.runItem setting true pass item).state.value? answer =
      item.decidedIn setting (pass.state.value? answer) pass.state.values := by
  by_cases hrules : item.hasChoiceRules = true
  · have hvalue := hsingle.resolve_right (by simp [hrules])
    have hdue : pass.isAnyDue true (item.rulesOf .choices) = true :=
      Pass.isAnyDue_iff.2 (.inl ⟨rfl, Item.hasChoiceRules_iff.1 hrules⟩)
    rw [Pass.runItem_value?_of_choices hitem hanswer hvalue, if_pos hdue, Item.decidedIn, if_pos hrules]
  · have hchoices : item.choiceRules = [] := by
      by_contra hne; exact hrules (Item.hasChoiceRules_iff.2 hne)
    rw [Pass.runItem_value?_of_value hitem hanswer hchoices, Item.decidedIn, if_neg hrules]
    split
    · rfl
    · -- without a rule there is no value to write
      rename_i hdue
      have hnone : item.value = none := by
        by_contra hvalue
        refine hdue (Pass.isAnyDue_iff.2 (.inl ⟨rfl, ?_⟩))
        rw [Item.rulesOf]
        cases hrule : item.value <;> simp [hrule] at hvalue ⊢
      rw [Item.ruledIn?, hnone]; rfl

theorem step_flags_of_full (setting : Setting) (schedule : Schedule) (pass : Pass) (hitem : item ∈ form.items) :
    (Pass.step setting true schedule pass item).state.visibility =
        (Pass.flagged setting true pass item).state.visibility ∧
      (Pass.step setting true schedule pass item).state.readOnly =
        (Pass.flagged setting true pass item).state.readOnly :=
  (step_flags hitem).resolve_left fun h => nomatch h.1

section
variable (start : State) (hitem : item ∈ form.items) (hlocal : item.IsLocal setting)
include hitem hlocal

theorem answer_decided (hfree : form.freezes .full item = false) (hanswer : item.answer? = some answer)
    (hsingle : item.value = none ∨ item.hasChoiceRules = false) :
    (form.runPass setting start .full).1.value? answer = item.decidedIn setting (start.value? answer)
      (form.runPass setting start .full).1.values := by
  refine decided_runPass (fun state => state.value? answer) start
    (fun current values => item.decidedIn setting current values) hitem (fun other hother hne pass => ?_)
    (fun pass => ?_) fun _ _ _ hagree => hlocal.decidedIn_eq hagree
  · by_contra h
    exact hne (item_ext_answer hother hitem (Pass.of_step_value?_ne hother h) hanswer)
  · rw [Pass.step_of_free hfree]
    exact runItem_decides pass hitem hanswer hsingle

theorem visibility_decided : (form.runPass setting start .full).1.visibility.get? item.id =
    some (item.shownIn setting (form.runPass setting start .full).1.values) := by
  refine decided_runPass (fun state => state.visibility.get? item.id) start
    (fun _ values => some (item.shownIn setting values)) hitem (fun other hother hne pass => ?_)
    (fun pass => ?_) fun _ _ _ hagree => by rw [hlocal.shownIn_eq hagree]
  · by_contra h
    exact hne (item_ext_id hother hitem (Pass.of_step_visibility_ne hother h).1)
  · obtain ⟨hflags, -⟩ := step_flags_of_full setting (form.schedule .full) pass hitem
    simp only [hflags, Pass.flagged_state, Bool.true_or, if_true, NameMap.get?_insert]

theorem readOnly_decided : (form.runPass setting start .full).1.readOnly.get? item.id =
    some (item.lockedIn setting (form.runPass setting start .full).1.values) := by
  refine decided_runPass (fun state => state.readOnly.get? item.id) start
    (fun _ values => some (item.lockedIn setting values)) hitem (fun other hother hne pass => ?_)
    (fun pass => ?_) fun _ _ _ hagree => by rw [hlocal.lockedIn_eq hagree]
  · by_contra h
    exact hne (item_ext_id hother hitem (Pass.of_step_readOnly_ne hother h).1)
  · obtain ⟨-, hflags⟩ := step_flags_of_full setting (form.schedule .full) pass hitem
    simp only [hflags, Pass.flagged_state, Bool.true_or, if_true, NameMap.get?_insert]

end

end Form
end Formwork
