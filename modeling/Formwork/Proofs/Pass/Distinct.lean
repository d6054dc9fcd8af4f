import Formwork.Proofs.Expr.Distinct
import Formwork.Proofs.Pass.Order
import Formwork.Proofs.Pass.Step

/-!
# Answers without repeated names

A rule writes a value that it makes of what it reads, or what is left of an answer. So where no object that a
pass can read names a field twice, none that it writes does (`Form.distinct_runPass`), and none that it offers,
if it lists none (`Form.distinct_offersIn`).
-/

namespace Formwork

variable {form : Form} {setting : Setting} {item : Form.Item} {values : Fields Json}

/-! ### What rules make -/

namespace Form

theorem exists_source_of_value {rule : Rule} (hitem : item ∈ form.items) (hrule : item.value = some rule) :
    ∃ source, rule.expression = Expression.parse source := by
  rw [(getElem?_items (getElem?_index hitem)).2, Item.ofDefinition] at hrule
  obtain ⟨source, -, rfl⟩ := Option.map_eq_some_iff.1 hrule
  exact ⟨source.expr, rfl⟩

theorem exists_source_of_choices {rule : Rule} (hitem : item ∈ form.items) (hrule : item.choices = some rule) :
    ∃ source, rule.expression = Expression.parse source := by
  rw [(getElem?_items (getElem?_index hitem)).2, Item.ofDefinition] at hrule
  obtain ⟨source, -, rfl⟩ := Option.map_eq_some_iff.1 hrule
  exact ⟨source.expr, rfl⟩

theorem distinct_ask? {source : String} {value : Json}
    (hctx : Context.Distinct ⟨values, setting.user, setting.task⟩)
    (h : setting.ask? values (.parse source) = some value) : value.Distinct := by
  rw [Setting.ask?] at h
  cases hvalue : (Expression.parse source).evaluate setting.limits (setting.clock (.parse source))
      ⟨values, setting.user, setting.task⟩ with
  | error error => rw [hvalue] at h; cases h
  | ok value =>
    rw [hvalue] at h
    cases h
    exact Expression.distinct_of_evaluate hctx hvalue

theorem distinct_ruledIn? {value : Json} (hitem : item ∈ form.items)
    (hctx : Context.Distinct ⟨values, setting.user, setting.task⟩)
    (h : item.ruledIn? setting values = some value) : value.Distinct := by
  rw [Item.ruledIn?] at h
  obtain ⟨hasked, -⟩ := Option.filter_eq_some_iff.1 h
  obtain ⟨rule, hrule, hasked⟩ := Option.bind_eq_some_iff.1 hasked
  obtain ⟨source, hsource⟩ := exists_source_of_value hitem hrule
  rw [hsource] at hasked
  exact distinct_ask? hctx hasked

theorem distinct_replacement? {offers : List Offer} {value new : Json} (hvalue : value.Distinct)
    (h : Offer.replacement? offers value = some new) : new.Distinct := by
  unfold Offer.replacement? at h
  split at h
  · cases h
  · rename_i selected
    simp only [Option.ite_none_left_eq_some, Option.some.injEq] at h
    obtain ⟨-, rfl⟩ := h
    exact Json.distinctItems_iff.2 fun item hitem =>
      Json.distinctItems_iff.1 hvalue item (List.mem_filter.1 hitem).1
  · simp only [Option.ite_none_left_eq_some, Option.some.injEq] at h
    rw [← h.2]; trivial

theorem distinct_entryChoice? {entry : Json} {found : Json × String} (hentry : entry.Distinct)
    (h : Item.entryChoice? entry = some found) : found.1.Distinct := by
  unfold Item.entryChoice? at h
  split at h
  · cases h
  · obtain ⟨value, hvalue, h⟩ := Option.bind_eq_some_iff.1 h
    cases h
    exact Json.distinct_of_get? hentry.2 hvalue
  · cases h
    exact hentry

/-- An item offers values that it lists, or that its rule for choices makes. -/
theorem distinct_offersIn (hitem : item ∈ form.items) (hoptions : ∀ choice ∈ item.options, choice.value.Distinct)
    (hctx : Context.Distinct ⟨values, setting.user, setting.task⟩) :
    ∀ offer ∈ item.offersIn setting values, offer.value.Distinct := by
  intro offer hoffer
  obtain ⟨candidate, hcandidate, rfl⟩ := List.mem_map.1 hoffer
  rw [Item.candidates] at hcandidate
  cases hfound : item.candidatesOf? (item.choices.bind fun rule => setting.ask? values rule.expression) with
  | none =>
    rw [hfound] at hcandidate
    obtain ⟨choice, hchoice, rfl⟩ := List.mem_map.1 hcandidate
    exact hoptions choice hchoice
  | some candidates =>
    rw [hfound, Option.getD_some] at hcandidate
    unfold Item.candidatesOf? at hfound
    split at hfound
    · rename_i entries hasked
      cases hfound
      obtain ⟨rule, hrule, hasked⟩ := Option.bind_eq_some_iff.1 hasked
      obtain ⟨source, hsource⟩ := exists_source_of_choices hitem hrule
      rw [hsource] at hasked
      obtain ⟨found, hfound, rfl⟩ := List.mem_map.1 hcandidate
      obtain ⟨entry, hentry, hfound⟩ := List.mem_filterMap.1 hfound
      exact distinct_entryChoice? (Json.distinctItems_iff.1 (distinct_ask? hctx hasked) entry hentry) hfound
    · cases hfound

end Form

/-! ### What passes write -/

variable (huser : setting.user.Distinct) (htask : setting.task.Distinct)

namespace Pass

variable {full : Bool} {schedule : Schedule} {pass : Pass}

theorem distinct_setAnswer {answer : String} {value : Json} (h : (Json.obj pass.state.values).Distinct)
    (hvalue : value.Distinct) : (Json.obj (pass.setAnswer answer value).state.values).Distinct := by
  rw [setAnswer]
  split
  · exact h
  · exact Json.distinct_set h hvalue

theorem distinct_dropUnoffered {offers : List Offer} (h : (Json.obj pass.state.values).Distinct) :
    (Json.obj (pass.dropUnoffered item offers).state.values).Distinct := by
  rw [dropUnoffered]
  split
  · split
    · rename_i value hvalue
      obtain ⟨old, hold, hreplaced⟩ := Option.bind_eq_some_iff.1 hvalue
      exact distinct_setAnswer h (Form.distinct_replacement? (Json.distinct_of_get? h.2 hold) hreplaced)
    · exact h
  · exact h

theorem distinct_runChoices (h : (Json.obj pass.state.values).Distinct) :
    (Json.obj (runChoices setting full pass item).state.values).Distinct := by
  by_cases hdue : pass.offersDue full item = true
  · obtain ⟨counted, -, hstate, hrun⟩ := runChoices_of_due setting hdue
    have hcounted : (Json.obj counted.state.values).Distinct := by rw [hstate]; exact h
    rw [hrun]
    dsimp only
    split
    · exact distinct_dropUnoffered hcounted
    · exact hcounted
  · rw [runChoices_of_not_due (by simpa using hdue)]
    exact h

section
include huser htask

theorem distinct_runValue (hitem : item ∈ form.items) (h : (Json.obj pass.state.values).Distinct) :
    (Json.obj (runValue setting full pass item).state.values).Distinct := by
  by_cases hdue : pass.isAnyDue full (item.rulesOf .value) = true
  · obtain ⟨rule, -, hrun⟩ := runValue_of_due setting hdue
    rw [hrun]
    split
    · rename_i value answer hvalue hanswer
      exact distinct_setAnswer h (Form.distinct_ruledIn? hitem ⟨h, huser, htask⟩ hvalue)
    · exact h
  · rw [runValue_of_not_due (by simpa using hdue)]
    exact h

/-- Where the answers name no field twice, those that the choices of an item are resolved on do not. -/
theorem distinct_beforeChoices (hitem : item ∈ form.items) (h : (Json.obj pass.state.values).Distinct) :
    (Json.obj (beforeSlot setting full pass item .choices).state.values).Distinct := by
  refine distinct_runValue huser htask hitem ?_
  rw [flagged_values]
  exact h

theorem distinct_step (hitem : item ∈ form.items) (h : (Json.obj pass.state.values).Distinct) :
    (Json.obj (step setting full schedule pass item).state.values).Distinct := by
  cases hfreezes : schedule.freezes item.index with
  | true =>
    rw [step_of_frozen hfreezes]
    cases full with
    | false => exact h
    | true => rw [if_pos rfl, flagged_values]; exact h
  | false =>
    rw [step_of_free hfreezes, runItem_state_eq]
    exact distinct_runChoices (distinct_beforeChoices huser htask hitem h)

end
end Pass

section
include huser htask

/-- A pass writes no answer in which an object names a field twice, unless it can read one. -/
theorem Form.distinct_runPass {start : State} {trigger : Trigger} (h : (Json.obj start.values).Distinct) :
    (Json.obj (form.runPass setting start trigger).1.values).Distinct :=
  List.foldlRecOn (motive := fun pass : Pass => (Json.obj pass.state.values).Distinct)
    (form.queue trigger) _ h fun _ hpass _ hitem =>
      Pass.distinct_step huser htask (mem_queue.1 hitem).1 hpass

end
end Formwork
