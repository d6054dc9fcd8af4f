import Formwork.Proofs.Pass.Outcome

/-!
# The trace of an item in a pass

Of all that a pass does, each item has its own part: its answer, its flags and choices, and how often it
is reported (`Pass.trace`). Only the step of the item touches that part (`Form.trace_step_of_ne`), and
what the step does to it depends on no more than the part itself and the answers that the rules of the
item declare (`Pass.Alike.step`).
-/

namespace Formwork

open Definition (Slot)

/-- The part of an item in a pass. -/
structure Trace where
  answer : Option Json
  /-- How often the answer was written. -/
  writes : Nat
  shown : Option Bool
  locked : Option Bool
  offers : Option (List Offer)
  /-- How often the item was evaluated. -/
  runs : Nat

namespace Trace

/-- Writes an answer, which is no change if it is the same. -/
def write (trace : Trace) (value : Json) : Trace :=
  if trace.answer.any (· == value) then trace
  else { trace with answer := some value, writes := trace.writes + 1 }

/-- Takes selections that are not offered out of the answer. -/
def dropUnoffered (trace : Trace) (offers : List Offer) : Trace :=
  match trace.answer.bind (Offer.replacement? offers) with
  | some value => trace.write value
  | none => trace

def offer (trace : Trace) (offers : List Offer) : Trace := { trace with offers := some offers }

end Trace

namespace Pass

variable {form : Form} {setting : Setting} {full : Bool} {schedule : Schedule} {p q p' q' : Pass}
  {item other : Form.Item} {slot : Slot} {answer : String} {value : Json}

/-- What a pass has made of an item so far. -/
def trace (pass : Pass) (item : Form.Item) : Trace where
  answer := item.answer?.bind pass.state.value?
  writes := item.answer?.elim 0 pass.report.changedAnswers.count
  shown := pass.state.visibility.get? item.id
  locked := pass.state.readOnly.get? item.id
  offers := pass.state.choices.get? item.id
  runs := pass.report.evaluatedItems.count item.id

/-! ### What the slots do to the trace of their item -/

theorem trace_setAnswer (p : Pass) (value : Json) (hanswer : item.answer? = some answer) :
    (p.setAnswer answer value).trace item = (p.trace item).write value := by
  have hhere : (p.trace item).answer = p.state.value? answer := by rw [trace, hanswer]; rfl
  rw [setAnswer, Trace.write, hhere]
  split
  · rfl
  · simp only [trace, hanswer, Option.bind_some, State.value?, State.setValue, Fields.get?_set, if_true,
      Option.elim_some, List.count_append, List.count_singleton_self]

theorem trace_runVisible : (runVisible setting full p item).trace item =
    if full || p.isAnyDue full (item.rulesOf .visible) then
      { p.trace item with shown := some (item.shownIn setting p.state.values) } else p.trace item := by
  rw [runVisible, flag?_eq, Form.Item.rulesOf, Form.Item.shownIn]
  by_cases h : full || p.isAnyDue full item.visible.toList
  · rw [if_pos h, if_pos h]
    simp only [trace, countRule, countFailures, NameMap.get?_insert, if_true]
    cases item.visible <;> rfl
  · rw [if_neg h, if_neg h]

theorem trace_runReadOnly : (runReadOnly setting full p item).trace item =
    if full || p.isAnyDue full (item.rulesOf .readOnly) then
      { p.trace item with locked := some (item.lockedIn setting p.state.values) } else p.trace item := by
  rw [runReadOnly, flag?_eq, Form.Item.rulesOf, Form.Item.lockedIn]
  by_cases h : full || p.isAnyDue full item.readOnly.toList
  · rw [if_pos h, if_pos h]
    simp only [trace, countRule, countFailures, NameMap.get?_insert, if_true]
    cases item.readOnly <;> rfl
  · rw [if_neg h, if_neg h]

theorem trace_runValue : (runValue setting full p item).trace item =
    if p.isAnyDue full (item.rulesOf .value) then
      match item.ruledIn? setting p.state.values, item.answer? with
      | some value, some _ => (p.trace item).write value
      | _, _ => p.trace item
    else p.trace item := by
  by_cases h : p.isAnyDue full (item.rulesOf .value) = true
  · obtain ⟨rule, -, hrun⟩ := runValue_of_due setting h
    rw [hrun, if_pos h]
    cases item.ruledIn? setting p.state.values with
    | none => rfl
    | some value =>
      cases hanswer : item.answer? with
      | none => rfl
      | some answer => exact trace_setAnswer (p.countFailures setting [rule]) value hanswer
  · rw [if_neg h, runValue_of_not_due (Bool.eq_false_iff.2 h)]

theorem trace_dropUnoffered (p : Pass) (item : Form.Item) (offers : List Offer) :
    (p.dropUnoffered item offers).trace item = (p.trace item).dropUnoffered offers := by
  cases hanswer : item.answer? with
  | none => simp only [dropUnoffered, Trace.dropUnoffered, trace, hanswer, Option.bind_none]
  | some answer =>
    have hhere : (p.trace item).answer = p.state.value? answer := by rw [trace, hanswer]; rfl
    rw [Trace.dropUnoffered, hhere]
    simp only [dropUnoffered, hanswer]
    cases (p.state.value? answer).bind (Offer.replacement? offers) with
    | none => rfl
    | some value => exact trace_setAnswer p value hanswer

theorem trace_insert (p : Pass) (item : Form.Item) (offers : List Offer) :
    ({ p with state := { p.state with choices := p.state.choices.insert item.id offers } } : Pass).trace item =
      (p.trace item).offer offers := by
  simp only [trace, NameMap.get?_insert, if_true]; rfl

theorem trace_runChoices : (runChoices setting full p item).trace item =
    if p.offersDue full item then
      (if item.hasChoiceRules then (p.trace item).dropUnoffered (item.offersIn setting p.state.values)
        else p.trace item).offer (item.offersIn setting p.state.values)
    else p.trace item := by
  by_cases h : p.offersDue full item = true
  · rw [if_pos h]
    rw [offersDue] at h
    rw [runChoices, if_pos h]
    let counted := p.countFailures setting
      (item.choices.toList ++ (item.candidates setting p.state.values).flatMap (·.rules))
    by_cases hrules : item.hasChoiceRules = true
    · simp only [hrules, if_true]
      exact (trace_insert _ item _).trans (congrArg (Trace.offer · _) (trace_dropUnoffered counted item _))
    · simp only [hrules]
      exact trace_insert counted item _
  · rw [if_neg h, runChoices_of_not_due (Bool.eq_false_iff.2 h)]

theorem trace_noteItem : (p.noteItem item).trace item =
    { p.trace item with runs := (p.trace item).runs + 1 } := by
  simp only [trace, noteItem, List.count_append, List.count_singleton_self]

/-! ### Passes that are alike for an item -/

/-- Two passes have the same part for an item, and the same for the answers that its rules declare. -/
structure Alike (item : Form.Item) (p q : Pass) : Prop where
  trace : p.trace item = q.trace item
  values : ∀ answer ∈ item.derivedDependencies, p.state.value? answer = q.state.value? answer
  changed : ∀ answer ∈ item.derivedDependencies,
    (p.changed.has answer = true ↔ q.changed.has answer = true)

namespace Alike

theorem agree (h : Alike item p q) (slot : Slot) :
    Form.Agree (item.declared slot) p.state.values q.state.values := fun answer hanswer =>
  h.values answer (Form.Item.mem_derivedDependencies.2 ⟨slot, hanswer⟩)

theorem isAnyDue_eq (h : Alike item p q) (full : Bool) (slot : Slot) :
    p.isAnyDue full (item.rulesOf slot) = q.isAnyDue full (item.rulesOf slot) := by
  rw [Bool.eq_iff_iff, isAnyDue_iff, isAnyDue_iff]
  refine or_congr_right (exists_congr fun answer => and_congr_right fun hanswer => ?_)
  exact h.changed answer (Form.Item.mem_derivedDependencies.2 ⟨slot, hanswer⟩)

theorem offersDue_eq (h : Alike item p q) (full : Bool) : p.offersDue full item = q.offersDue full item := by
  rw [Bool.eq_iff_iff, offersDue_iff, offersDue_iff, h.isAnyDue_eq]

theorem isAnyDue_derived_eq (h : Alike item p q) (full : Bool) :
    p.isAnyDue full item.derivedRules = q.isAnyDue full item.derivedRules := by
  have hall : ∀ pass : Pass, pass.isAnyDue full item.derivedRules = true ↔
      ∃ slot, pass.isAnyDue full (item.rulesOf slot) = true := by
    intro pass
    simp only [isAnyDue, List.any_eq_true, Form.Item.mem_derivedRules]
    constructor
    · rintro ⟨rule, ⟨slot, hrule⟩, hdue⟩
      exact ⟨slot, rule, hrule, hdue⟩
    · rintro ⟨slot, rule, hrule, hdue⟩
      exact ⟨rule, ⟨slot, hrule⟩, hdue⟩
  rw [Bool.eq_iff_iff, hall, hall]
  exact exists_congr fun slot => by rw [h.isAnyDue_eq]

/-- Passes stay alike where they write at most the answer of the item and its part stays the same. -/
theorem of_writes {answers others : List String} (hitem : item ∈ form.items) (h : Alike item p q)
    (hp : Writes answers p p') (hq : Writes others q q') (hown : ∀ a ∈ answers, item.answer? = some a)
    (hown' : ∀ a ∈ others, item.answer? = some a) (htrace : p'.trace item = q'.trace item) :
    Alike item p' q' := by
  have hapart : ∀ {answers : List String}, (∀ a ∈ answers, item.answer? = some a) →
      ∀ a ∈ item.derivedDependencies, a ∉ answers := fun hown a hdep ha =>
    Form.answer_notMem_derivedDependencies hitem (hown a ha) hdep
  refine ⟨htrace, fun a hdep => ?_, fun a hdep => ?_⟩
  · rw [hp.kept a (hapart hown a hdep), hq.kept a (hapart hown' a hdep), h.values a hdep]
  · rw [hp.changed, hq.changed, or_iff_left (hapart hown a hdep), or_iff_left (hapart hown' a hdep)]
    exact h.changed a hdep

section
variable (full : Bool) (hitem : item ∈ form.items) (hlocal : item.IsLocal setting) (h : Alike item p q)
include hitem hlocal h

theorem runVisible : Alike item (runVisible setting full p item) (runVisible setting full q item) := by
  refine of_writes hitem h runVisible_writes runVisible_writes (by simp) (by simp) ?_
  rw [trace_runVisible, trace_runVisible, h.isAnyDue_eq, h.trace, hlocal.shownIn_eq (h.agree .visible)]

theorem runReadOnly : Alike item (runReadOnly setting full p item) (runReadOnly setting full q item) := by
  refine of_writes hitem h runReadOnly_writes runReadOnly_writes (by simp) (by simp) ?_
  rw [trace_runReadOnly, trace_runReadOnly, h.isAnyDue_eq, h.trace, hlocal.lockedIn_eq (h.agree .readOnly)]

theorem runValue : Alike item (runValue setting full p item) (runValue setting full q item) := by
  obtain ⟨answers, hp, hown⟩ := runValue_writes setting full p item
  obtain ⟨others, hq, hown'⟩ := runValue_writes setting full q item
  refine of_writes hitem h hp hq (fun a ha => (hown a ha).1) (fun a ha => (hown' a ha).1) ?_
  rw [trace_runValue, trace_runValue, h.isAnyDue_eq, h.trace, hlocal.ruledIn?_eq (h.agree .value)]

theorem runChoices : Alike item (runChoices setting full p item) (runChoices setting full q item) := by
  obtain ⟨answers, hp, hown⟩ := runChoices_writes setting full p item
  obtain ⟨others, hq, hown'⟩ := runChoices_writes setting full q item
  refine of_writes hitem h hp hq (fun a ha => (hown a ha).1) (fun a ha => (hown' a ha).1) ?_
  rw [trace_runChoices, trace_runChoices, h.offersDue_eq, h.trace, hlocal.offersIn_eq (h.agree .choices)]

theorem flagged : Alike item (flagged setting full p item) (flagged setting full q item) :=
  runReadOnly full hitem hlocal (runVisible full hitem hlocal h)

theorem runItem : (runItem setting full p item).trace item = (runItem setting full q item).trace item := by
  have hslots := runChoices full hitem hlocal (runValue full hitem hlocal (flagged full hitem hlocal h))
  have htrace : ∀ pass : Pass, (Pass.runItem setting full pass item).trace item =
      let after := (Pass.runChoices setting full (Pass.runValue setting full
        (Pass.flagged setting full pass item) item) item).trace item
      if pass.isAnyDue full item.derivedRules then { after with runs := after.runs + 1 } else after := by
    intro pass
    rw [runItem_eq]
    by_cases hdue : pass.isAnyDue full item.derivedRules
    · simp only [hdue, if_true]
      exact trace_noteItem
    · simp only [hdue]
      rfl
  rw [htrace, htrace, hslots.trace, h.isAnyDue_derived_eq]

theorem runFrozen :
    (runFrozen setting full p item).trace item = (runFrozen setting full q item).trace item := by
  cases full with
  | false => exact h.trace
  | true =>
    have hflagged := (flagged true hitem hlocal h).trace
    simp only [Pass.runFrozen, if_true]
    by_cases hrules : item.flagRules.isEmpty
    · simp only [hrules, if_true]
      exact hflagged
    · simp only [hrules]
      exact (trace_noteItem (p := Pass.flagged setting true p item)).trans
        ((congrArg (fun trace : Trace => { trace with runs := trace.runs + 1 }) hflagged).trans
          trace_noteItem.symm)

end

end Alike

/-! ### Steps of other items -/

theorem evaluatedItems_setAnswer :
    (p.setAnswer answer value).report.evaluatedItems = p.report.evaluatedItems := by
  rw [setAnswer]
  split <;> rfl

theorem evaluatedItems_flagged :
    (flagged setting full p item).report.evaluatedItems = p.report.evaluatedItems := by
  have hvisible : ∀ pass : Pass,
      (runVisible setting full pass item).report.evaluatedItems = pass.report.evaluatedItems := fun pass => by
    rw [runVisible]
    split <;> rfl
  have hreadOnly : ∀ pass : Pass,
      (runReadOnly setting full pass item).report.evaluatedItems = pass.report.evaluatedItems := fun pass => by
    rw [runReadOnly]
    split <;> rfl
  rw [flagged, hreadOnly, hvisible]

theorem evaluatedItems_runValue :
    (runValue setting full p item).report.evaluatedItems = p.report.evaluatedItems := by
  by_cases h : p.isAnyDue full (item.rulesOf .value) = true
  · obtain ⟨rule, -, hrun⟩ := runValue_of_due setting h
    rw [hrun]
    split
    · exact evaluatedItems_setAnswer
    · rfl
  · rw [runValue_of_not_due (Bool.eq_false_iff.2 h)]

theorem evaluatedItems_dropUnoffered (offers : List Offer) :
    (p.dropUnoffered item offers).report.evaluatedItems = p.report.evaluatedItems := by
  rw [dropUnoffered]
  split
  · split
    · exact evaluatedItems_setAnswer
    · rfl
  · rfl

theorem evaluatedItems_runChoices :
    (runChoices setting full p item).report.evaluatedItems = p.report.evaluatedItems := by
  rw [runChoices]
  split
  · by_cases hrules : item.hasChoiceRules = true
    · simp only [hrules, if_true]
      exact evaluatedItems_dropUnoffered _
    · simp only [hrules]
      rfl
  · rfl

theorem count_evaluatedItems_step {id : String} (hid : item.id ≠ id) :
    (step setting full schedule p item).report.evaluatedItems.count id =
      p.report.evaluatedItems.count id := by
  have hnote : ∀ pass : Pass, (pass.noteItem item).report.evaluatedItems.count id =
      pass.report.evaluatedItems.count id := fun pass => by
    simp only [noteItem, List.count_append, List.count_singleton, beq_eq_false_iff_ne.2 hid]
    rfl
  rw [step]
  split
  · rw [runFrozen]
    split
    · by_cases hrules : item.flagRules.isEmpty
      · simp only [hrules, if_true]
        exact congrArg (List.count id) evaluatedItems_flagged
      · simp only [hrules]
        exact (hnote _).trans (congrArg (List.count id) evaluatedItems_flagged)
    · rfl
  · have hslots : (runChoices setting full (runValue setting full (flagged setting full p item) item)
        item).report.evaluatedItems = p.report.evaluatedItems := by
      rw [evaluatedItems_runChoices, evaluatedItems_runValue, evaluatedItems_flagged]
    rw [runItem_eq]
    by_cases hdue : p.isAnyDue full item.derivedRules
    · simp only [hdue, if_true]
      exact (hnote _).trans (congrArg (List.count id) hslots)
    · simp only [hdue]
      exact congrArg (List.count id) hslots

theorem count_changedAnswers_step (hitem : item ∈ form.items) (hanswer : item.answer? ≠ some answer) :
    (step setting full schedule p item).report.changedAnswers.count answer =
      p.report.changedAnswers.count answer := by
  obtain ⟨answers, hwrites, hall⟩ := step_writes setting full schedule p hitem
  have hnone : answers.count answer = 0 :=
    List.count_eq_zero.2 fun ha => hanswer (hall answer ha).2.1
  rw [hwrites.listed, List.count_append, hnone, Nat.add_zero]

/-- The step of an item leaves the parts of the others alone. -/
theorem trace_step_of_ne (hitem : item ∈ form.items) (hother : other ∈ form.items) (hne : other ≠ item) :
    (step setting full schedule p other).trace item = p.trace item := by
  have hid : other.id ≠ item.id := fun heq => hne (Form.item_ext_id hother hitem heq)
  have hanswer : ∀ answer, item.answer? = some answer → other.answer? ≠ some answer :=
    fun answer hitem' hother' => hne (Form.item_ext_answer hother hitem hother' hitem')
  have hshown : (step setting full schedule p other).state.visibility.get? item.id =
      p.state.visibility.get? item.id := by
    by_contra h
    exact hid (of_step_visibility_ne hother h).1
  have hlocked : (step setting full schedule p other).state.readOnly.get? item.id =
      p.state.readOnly.get? item.id := by
    by_contra h
    exact hid (of_step_readOnly_ne hother h).1
  have hoffers : (step setting full schedule p other).state.choices.get? item.id =
      p.state.choices.get? item.id := by
    by_contra h
    exact hid (of_step_choices_ne hother h).1
  simp only [trace, hshown, hlocked, hoffers, count_evaluatedItems_step hid]
  cases hown : item.answer? with
  | none => rfl
  | some answer =>
    have hvalue : (step setting full schedule p other).state.value? answer = p.state.value? answer := by
      by_contra h
      exact hanswer answer hown (of_step_value?_ne hother h)
    simp only [Option.bind_some, Option.elim_some, hvalue,
      count_changedAnswers_step hother (hanswer answer hown)]

end Pass
end Formwork
