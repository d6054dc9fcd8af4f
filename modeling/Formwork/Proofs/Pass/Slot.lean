import Formwork.Pass.Basic
import Formwork.Proofs.Form.Items

/-!
# What the rules of an item do to a pass

Each slot fills one part of the state: the flags and the choices of the item by its id, and its
answer. What goes there is a function of the answers of the moment (`Item.shownIn`, `Item.lockedIn`,
`Item.offersIn`, `overwrite`). `Pass.Writes` says which answers a run has written, and that it leaves
everything else alone but flags and choices.
-/

namespace Formwork

open Definition (Slot)

/-! ### What goes into a slot -/

namespace Form.Item

/-- Whether an item is shown where some answers are given. -/
def shownIn (item : Item) (setting : Setting) (values : Fields Json) : Bool :=
  item.visible.all (setting.confirms values ·.expression)

/-- Whether an item cannot be edited where some answers are given. -/
def lockedIn (item : Item) (setting : Setting) (values : Fields Json) : Bool :=
  item.readOnly.any (setting.confirms values ·.expression)

/-- The value that the rule of an item has for its answer. -/
def ruledIn? (item : Item) (setting : Setting) (values : Fields Json) : Option Json :=
  (item.value.bind (setting.ask? values ·.expression)).filter (!·.isNull)

/-- What an item offers where some answers are given. -/
def offersIn (item : Item) (setting : Setting) (values : Fields Json) : List Offer :=
  (item.candidates setting values).map (·.offer setting values)

theorem hasChoiceRules_iff {item : Item} : item.hasChoiceRules = true ↔ item.choiceRules ≠ [] := by
  simp [hasChoiceRules]

end Form.Item

/-- What becomes of an answer when another value is written, if there is one. -/
def overwrite (current new : Option Json) : Option Json :=
  match new with
  | some value => if current.any (· == value) then current else some value
  | none => current

namespace Pass

variable {setting : Setting} {full : Bool} {pass before middle after : Pass} {item : Form.Item}
  {answer other : String} {value : Json}

/-! ### What is due -/

theorem isAnyDue_iff {slot : Slot} : pass.isAnyDue full (item.rulesOf slot) = true ↔
    full = true ∧ item.rulesOf slot ≠ [] ∨ ∃ answer ∈ item.declared slot, pass.changed.has answer = true := by
  simp only [isAnyDue, isDue, List.any_eq_true, Bool.or_eq_true, Form.Item.mem_declared]
  constructor
  · rintro ⟨rule, hrule, hfull | ⟨answer, hanswer, hhas⟩⟩
    · exact .inl ⟨hfull, List.ne_nil_of_mem hrule⟩
    · exact .inr ⟨answer, ⟨rule, hrule, hanswer⟩, hhas⟩
  · rintro (⟨hfull, hne⟩ | ⟨answer, ⟨rule, hrule, hanswer⟩, hhas⟩)
    · obtain ⟨rule, hrule⟩ := List.exists_mem_of_ne_nil _ hne
      exact ⟨rule, hrule, .inl hfull⟩
    · exact ⟨rule, hrule, .inr ⟨answer, hanswer, hhas⟩⟩

theorem rulesOf_ne_nil_of_due {slot : Slot} (h : pass.isAnyDue full (item.rulesOf slot) = true) :
    item.rulesOf slot ≠ [] := by
  obtain ⟨rule, hrule, -⟩ := List.any_eq_true.1 h
  exact List.ne_nil_of_mem hrule

/-- Whether a pass resolves the choices of an item. -/
def offersDue (pass : Pass) (full : Bool) (item : Form.Item) : Bool :=
  pass.isDue full item.choiceDependencies && (item.hasChoiceRules || !item.options.isEmpty)

theorem offersDue_iff : pass.offersDue full item = true ↔
    full = true ∧ item.options ≠ [] ∨ pass.isAnyDue full (item.rulesOf .choices) = true := by
  have hdeclared : item.choiceDependencies = item.declared .choices := rfl
  rw [isAnyDue_iff, offersDue, isDue, hdeclared]
  simp only [Bool.and_eq_true, Bool.or_eq_true, List.any_eq_true, Form.Item.hasChoiceRules_iff,
    Bool.not_eq_true', List.isEmpty_eq_false_iff]
  constructor
  · rintro ⟨hfull | hhas, hne⟩
    · rcases hne with hne | hne
      · exact .inr (.inl ⟨hfull, hne⟩)
      · exact .inl ⟨hfull, hne⟩
    · exact .inr (.inr hhas)
  · rintro (⟨hfull, hne⟩ | ⟨hfull, hne⟩ | ⟨answer, hanswer, hhas⟩)
    · exact ⟨.inl hfull, .inr hne⟩
    · exact ⟨.inl hfull, .inl hne⟩
    · exact ⟨.inr ⟨answer, hanswer, hhas⟩, .inl (Form.Item.rulesOf_ne_nil_of_declared hanswer)⟩

/-! ### What is written -/

/-- One pass goes on from another by writing some answers, in order. The answers, the messages and
the way through the form are otherwise the same. -/
structure Writes (answers : List String) (before after : Pass) : Prop where
  listed : after.report.changedAnswers = before.report.changedAnswers ++ answers
  changed : ∀ a, after.changed.has a = true ↔ before.changed.has a = true ∨ a ∈ answers
  kept : ∀ a, a ∉ answers → after.state.value? a = before.state.value? a
  cycles : after.report.cycles = before.report.cycles
  aside : ({ after.state with
      values := [], visibility := .empty, readOnly := .empty, choices := .empty } : State) =
    { before.state with values := [], visibility := .empty, readOnly := .empty, choices := .empty }

namespace Writes

variable {answers more : List String}

theorem refl (pass : Pass) : Writes [] pass pass :=
  ⟨by simp, by simp, fun _ _ => rfl, rfl, rfl⟩

theorem trans (h : Writes answers before middle) (h' : Writes more middle after) :
    Writes (answers ++ more) before after := by
  refine ⟨?_, fun a => ?_, fun a ha => ?_, h'.cycles.trans h.cycles, h'.aside.trans h.aside⟩
  · rw [h'.listed, h.listed, List.append_assoc]
  · rw [h'.changed, h.changed, List.mem_append, or_assoc]
  · simp only [List.mem_append, not_or] at ha
    rw [h'.kept a ha.2, h.kept a ha.1]

theorem isAnyDue_eq (h : Writes answers before after) {slot : Slot}
    (hnone : ∀ a ∈ answers, a ∉ item.declared slot) :
    after.isAnyDue full (item.rulesOf slot) = before.isAnyDue full (item.rulesOf slot) := by
  rw [Bool.eq_iff_iff, isAnyDue_iff, isAnyDue_iff]
  refine or_congr_right (exists_congr fun a => and_congr_right fun ha => ?_)
  rw [h.changed]
  exact or_iff_left fun hmem => hnone a hmem ha

end Writes

theorem countFailures_writes (setting : Setting) (rules : List Form.Rule) :
    Writes [] pass (pass.countFailures setting rules) :=
  ⟨by simp [countFailures], by simp [countFailures], fun _ _ => rfl, rfl, rfl⟩

theorem noteItem_writes : Writes [] pass (pass.noteItem item) :=
  ⟨by simp [noteItem], by simp [noteItem], fun _ _ => rfl, rfl, rfl⟩

theorem setAnswer_value? : (pass.setAnswer answer value).state.value? other =
    if other = answer then overwrite (pass.state.value? answer) (some value)
    else pass.state.value? other := by
  rw [setAnswer, overwrite]
  split
  · split
    · rename_i h; rw [h]
    · rfl
  · rw [State.value?, State.setValue, Fields.get?_set]; rfl

theorem setAnswer_writes (pass : Pass) (answer : String) (value : Json) :
    ∃ answers, Writes answers pass (pass.setAnswer answer value) ∧ ∀ a ∈ answers, a = answer := by
  rw [setAnswer]
  split
  · exact ⟨[], .refl pass, by simp⟩
  · refine ⟨[answer], ⟨rfl, fun a => ?_, fun a ha => ?_, rfl, rfl⟩, by simp⟩
    · rw [NameSet.has_add, List.mem_singleton, or_comm]
    · rw [State.value?, State.setValue, Fields.get?_set, if_neg (by simpa using ha)]; rfl

theorem setAnswer_state :
    (pass.setAnswer answer value).state =
      { pass.state with values := (pass.setAnswer answer value).state.values } := by
  rw [setAnswer]; split <;> rfl

/-! ### Visible and read-only -/

theorem flag?_eq (rule : Option Form.Rule) (unruled : Bool) : pass.flag? setting full rule unruled =
    if full || pass.isAnyDue full rule.toList then
      some (rule.elim unruled (setting.confirms pass.state.values ·.expression))
    else none := by
  rw [flag?.eq_def, isAnyDue]
  cases rule with
  | none => simp
  | some rule => cases full <;> simp [isDue]

theorem runVisible_state : (runVisible setting full pass item).state =
    { pass.state with
      visibility := if full || pass.isAnyDue full (item.rulesOf .visible) then
        pass.state.visibility.insert item.id (item.shownIn setting pass.state.values)
        else pass.state.visibility } := by
  rw [runVisible, flag?_eq, Form.Item.rulesOf, Form.Item.shownIn]
  by_cases h : full || pass.isAnyDue full item.visible.toList
  · rw [if_pos h, if_pos h]; cases item.visible <;> rfl
  · rw [if_neg h, if_neg h]

theorem runReadOnly_state : (runReadOnly setting full pass item).state =
    { pass.state with
      readOnly := if full || pass.isAnyDue full (item.rulesOf .readOnly) then
        pass.state.readOnly.insert item.id (item.lockedIn setting pass.state.values)
        else pass.state.readOnly } := by
  rw [runReadOnly, flag?_eq, Form.Item.rulesOf, Form.Item.lockedIn]
  by_cases h : full || pass.isAnyDue full item.readOnly.toList
  · rw [if_pos h, if_pos h]; cases item.readOnly <;> rfl
  · rw [if_neg h, if_neg h]

theorem runVisible_writes : Writes [] pass (runVisible setting full pass item) := by
  rw [runVisible]
  split
  · exact ⟨by simp [countRule, countFailures], by simp [countRule, countFailures], fun _ _ => rfl, rfl, rfl⟩
  · exact .refl pass

theorem runReadOnly_writes : Writes [] pass (runReadOnly setting full pass item) := by
  rw [runReadOnly]
  split
  · exact ⟨by simp [countRule, countFailures], by simp [countRule, countFailures], fun _ _ => rfl, rfl, rfl⟩
  · exact .refl pass

/-! ### Value -/

theorem runValue_of_not_due (h : pass.isAnyDue full (item.rulesOf .value) = false) :
    runValue setting full pass item = pass := by
  rw [Form.Item.rulesOf, isAnyDue] at h
  rw [runValue]
  cases hrule : item.value with
  | none => rfl
  | some rule =>
    have hdue : pass.isDue full rule.dependsOn = false := by simpa [hrule] using h
    simp [hdue]

/-- A value rule that is due writes the answer of its item, if it has a value for it. -/
theorem runValue_of_due (setting : Setting) (h : pass.isAnyDue full (item.rulesOf .value) = true) :
    ∃ rule, item.value = some rule ∧ runValue setting full pass item =
      match item.ruledIn? setting pass.state.values, item.answer? with
      | some value, some answer => (pass.countFailures setting [rule]).setAnswer answer value
      | _, _ => pass.countFailures setting [rule] := by
  rw [Form.Item.rulesOf, isAnyDue] at h
  cases hrule : item.value with
  | none => rw [hrule] at h; cases h
  | some rule =>
    have hdue : pass.isDue full rule.dependsOn = true := by simpa [hrule] using h
    refine ⟨rule, rfl, ?_⟩
    rw [runValue, Form.Item.ruledIn?, hrule]
    simp only [hdue, if_true]; rfl

theorem runValue_writes (setting : Setting) (full : Bool) (pass : Pass) (item : Form.Item) :
    ∃ answers, Writes answers pass (runValue setting full pass item) ∧
    ∀ a ∈ answers, item.answer? = some a ∧ pass.isAnyDue full (item.rulesOf .value) = true := by
  by_cases h : pass.isAnyDue full (item.rulesOf .value) = true
  · obtain ⟨rule, -, hrun⟩ := runValue_of_due setting h
    rw [hrun]
    split
    · rename_i value answer hvalue hanswer
      obtain ⟨answers, hwrites, hall⟩ :=
        setAnswer_writes (pass.countFailures setting [rule]) answer value
      exact ⟨answers, (countFailures_writes setting [rule]).trans hwrites,
        fun a ha => ⟨hall a ha ▸ hanswer, h⟩⟩
    · exact ⟨[], countFailures_writes setting [rule], by simp⟩
  · rw [runValue_of_not_due (by simpa using h)]
    exact ⟨[], .refl pass, by simp⟩

theorem runValue_state : (runValue setting full pass item).state =
    { pass.state with values := (runValue setting full pass item).state.values } := by
  by_cases h : pass.isAnyDue full (item.rulesOf .value) = true
  · obtain ⟨rule, -, hrun⟩ := runValue_of_due setting h
    rw [hrun]
    split
    · rw [setAnswer_state]; rfl
    · rfl
  · rw [runValue_of_not_due (by simpa using h)]

theorem runValue_value? (h : pass.isAnyDue full (item.rulesOf .value) = true)
    (hanswer : item.answer? = some answer) : (runValue setting full pass item).state.value? answer =
      overwrite (pass.state.value? answer) (item.ruledIn? setting pass.state.values) := by
  obtain ⟨rule, -, hrun⟩ := runValue_of_due setting h
  rw [hrun, hanswer]
  cases item.ruledIn? setting pass.state.values with
  | none => rfl
  | some value => rw [setAnswer_value?, if_pos rfl]; rfl

/-! ### Choices -/

theorem dropUnoffered_writes (pass : Pass) (item : Form.Item) (offers : List Offer) :
    ∃ answers, Writes answers pass (pass.dropUnoffered item offers) ∧
      ∀ a ∈ answers, item.answer? = some a := by
  rw [dropUnoffered]
  split
  · rename_i answer hanswer
    split
    · rename_i value _
      obtain ⟨answers, hwrites, hall⟩ := setAnswer_writes pass answer value
      exact ⟨answers, hwrites, fun a ha => hall a ha ▸ hanswer⟩
    · exact ⟨[], .refl pass, by simp⟩
  · exact ⟨[], .refl pass, by simp⟩

theorem dropUnoffered_state (offers : List Offer) : (pass.dropUnoffered item offers).state =
    { pass.state with values := (pass.dropUnoffered item offers).state.values } := by
  rw [dropUnoffered]
  split
  · split
    · exact setAnswer_state
    · rfl
  · rfl

theorem dropUnoffered_value? (offers : List Offer) (hanswer : item.answer? = some answer) :
    (pass.dropUnoffered item offers).state.value? answer =
      overwrite (pass.state.value? answer) ((pass.state.value? answer).bind (Offer.replacement? offers)) := by
  simp only [dropUnoffered, hanswer]
  cases (pass.state.value? answer).bind (Offer.replacement? offers) with
  | none => rfl
  | some value => exact setAnswer_value?.trans (if_pos rfl)

theorem runChoices_of_not_due (h : pass.offersDue full item = false) :
    runChoices setting full pass item = pass := by
  rw [offersDue] at h; rw [runChoices, if_neg (by simp [h])]

/-- The choices of an item that are due are resolved on the answers of the moment, and its answer is
held against them if they depend on rules. -/
theorem runChoices_of_due (setting : Setting) (h : pass.offersDue full item = true) :
    ∃ counted, Writes [] pass counted ∧ counted.state = pass.state ∧
      runChoices setting full pass item =
        let dropped := if item.hasChoiceRules then
          counted.dropUnoffered item (item.offersIn setting pass.state.values) else counted
        { dropped with state := { dropped.state with
          choices := dropped.state.choices.insert item.id (item.offersIn setting pass.state.values) } } := by
  rw [offersDue] at h
  refine ⟨_, countFailures_writes setting (item.choices.toList ++
    (item.candidates setting pass.state.values).flatMap (·.rules)), rfl, ?_⟩
  rw [runChoices, if_pos h]; rfl

theorem isAnyDue_choices_iff : pass.isAnyDue full (item.rulesOf .choices) = true ↔
    pass.offersDue full item = true ∧ item.hasChoiceRules = true := by
  refine ⟨fun h => ⟨offersDue_iff.2 (.inr h), Form.Item.hasChoiceRules_iff.2 (rulesOf_ne_nil_of_due h)⟩,
    fun ⟨h, hrules⟩ => ?_⟩
  rcases offersDue_iff.1 h with ⟨hfull, -⟩ | h
  · exact isAnyDue_iff.2 (.inl ⟨hfull, Form.Item.hasChoiceRules_iff.1 hrules⟩)
  · exact h

theorem runChoices_writes (setting : Setting) (full : Bool) (pass : Pass) (item : Form.Item) :
    ∃ answers, Writes answers pass (runChoices setting full pass item) ∧
    ∀ a ∈ answers, item.answer? = some a ∧ pass.isAnyDue full (item.rulesOf .choices) = true := by
  by_cases h : pass.offersDue full item = true
  · obtain ⟨counted, hcounted, -, hrun⟩ := runChoices_of_due setting h
    rw [hrun]
    have hset : ∀ pass : Pass, ∀ offers : List Offer, Writes [] pass
        { pass with state := { pass.state with choices := pass.state.choices.insert item.id offers } } :=
      fun pass offers => ⟨by simp, by simp, fun _ _ => rfl, rfl, rfl⟩
    by_cases hrules : item.hasChoiceRules = true
    · obtain ⟨answers, hwrites, hall⟩ := dropUnoffered_writes counted item
        (item.offersIn setting pass.state.values)
      refine ⟨answers, ?_, fun a ha => ⟨hall a ha, isAnyDue_choices_iff.2 ⟨h, hrules⟩⟩⟩
      simpa [hrules] using (hcounted.trans hwrites).trans (hset _ _)
    · refine ⟨[], ?_, by simp⟩
      simpa [hrules] using hcounted.trans (hset _ _)
  · rw [runChoices_of_not_due (by simpa using h)]
    exact ⟨[], .refl pass, by simp⟩

theorem runChoices_state : (runChoices setting full pass item).state =
    { pass.state with
      values := (runChoices setting full pass item).state.values
      choices := if pass.offersDue full item then
        pass.state.choices.insert item.id (item.offersIn setting pass.state.values)
        else pass.state.choices } := by
  by_cases h : pass.offersDue full item = true
  · obtain ⟨counted, -, hstate, hrun⟩ := runChoices_of_due setting h
    rw [hrun, if_pos h]
    by_cases hrules : item.hasChoiceRules = true
    · simp only [hrules, if_true]; rw [dropUnoffered_state, hstate]
    · simp only [hrules, Bool.false_eq_true, if_false, hstate]
  · rw [if_neg h, runChoices_of_not_due (by simpa using h)]

theorem runChoices_value? (h : pass.isAnyDue full (item.rulesOf .choices) = true)
    (hanswer : item.answer? = some answer) : (runChoices setting full pass item).state.value? answer =
      overwrite (pass.state.value? answer)
        ((pass.state.value? answer).bind (Offer.replacement? (item.offersIn setting pass.state.values))) := by
  obtain ⟨hdue, hrules⟩ := isAnyDue_choices_iff.1 h
  obtain ⟨counted, -, hstate, hrun⟩ := runChoices_of_due setting hdue
  rw [hrun, ← hstate, ← dropUnoffered_value? _ hanswer]
  simp only [hrules, if_true]; rfl

end Pass

end Formwork
