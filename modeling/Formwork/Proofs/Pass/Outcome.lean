import Formwork.Proofs.Pass.Evaluation

/-!
# What a pass makes of an item

A rule is local if it reads no more than the answers that it declares. With local rules, a slot that
is due in a pass is filled from the final answers, and one that is not due stays as it is (`Renewed`).
It does not matter in which order items run, as each runs once and only its own step fills its slots.
-/

namespace Formwork.Form

open Definition (Slot)

/-! ### Local rules -/

/-- Two sets of answers are the same on the given ids. -/
def Agree (answers : List String) (values others : Fields Json) : Prop :=
  ∀ answer ∈ answers, Fields.get? values answer = Fields.get? others answer

/-- A rule whose outcome depends on no answers but those it declares. -/
def Rule.IsLocal (rule : Rule) (setting : Setting) : Prop :=
  ∀ values others, Agree rule.dependsOn values others →
    setting.ask? values rule.expression = setting.ask? others rule.expression

namespace Item

/-- All derived rules of an item are local. -/
def IsLocal (item : Item) (setting : Setting) : Prop := ∀ rule ∈ item.derivedRules, rule.IsLocal setting

variable {item : Item} {setting : Setting} {slot : Slot} {values others : Fields Json}

theorem IsLocal.ask?_eq (hlocal : item.IsLocal setting) (hagree : Agree (item.declared slot) values others)
    {rule : Rule} (hrule : rule ∈ item.rulesOf slot) :
    setting.ask? values rule.expression = setting.ask? others rule.expression :=
  hlocal rule (mem_derivedRules.2 ⟨slot, hrule⟩) values others fun answer hanswer =>
    hagree answer (mem_declared.2 ⟨rule, hrule, hanswer⟩)

theorem IsLocal.shownIn_eq (hlocal : item.IsLocal setting)
    (hagree : Agree (item.declared .visible) values others) :
    item.shownIn setting values = item.shownIn setting others := by
  rw [shownIn, shownIn]
  cases hrule : item.visible with
  | none => rfl
  | some rule =>
    rw [Option.all_some, Option.all_some, Setting.confirms, Setting.confirms,
      hlocal.ask?_eq hagree (by simp [rulesOf, hrule])]

theorem IsLocal.lockedIn_eq (hlocal : item.IsLocal setting)
    (hagree : Agree (item.declared .readOnly) values others) :
    item.lockedIn setting values = item.lockedIn setting others := by
  rw [lockedIn, lockedIn]
  cases hrule : item.readOnly with
  | none => rfl
  | some rule =>
    rw [Option.any_some, Option.any_some, Setting.confirms, Setting.confirms,
      hlocal.ask?_eq hagree (by simp [rulesOf, hrule])]

theorem IsLocal.ruledIn?_eq (hlocal : item.IsLocal setting)
    (hagree : Agree (item.declared .value) values others) :
    item.ruledIn? setting values = item.ruledIn? setting others := by
  rw [ruledIn?, ruledIn?]
  cases hrule : item.value with
  | none => rfl
  | some rule =>
    rw [Option.bind_some, Option.bind_some, hlocal.ask?_eq hagree (by simp [rulesOf, hrule])]

theorem mem_rulesOf_of_candidate {candidate : Candidate} {choice : Choice} {rule : Rule}
    (hcandidate : candidate ∈ item.candidates setting values) (hlisted : candidate.listed = some choice)
    (hrule : rule ∈ choice.rules) : rule ∈ item.rulesOf .choices := by
  have hchoice : choice ∈ item.options := by
    rw [candidates] at hcandidate
    generalize item.choices.bind (fun rule => setting.ask? values rule.expression) = yielded at hcandidate
    unfold candidatesOf? at hcandidate
    split at hcandidate
    · obtain ⟨⟨value, label⟩, -, rfl⟩ := List.mem_map.1 hcandidate
      exact List.mem_of_find?_eq_some hlisted
    · obtain ⟨other, hother, rfl⟩ := List.mem_map.1 hcandidate
      cases hlisted; exact hother
  exact List.mem_append_right _ (List.mem_flatMap.2 ⟨choice, hchoice, hrule⟩)

theorem IsLocal.offersIn_eq (hlocal : item.IsLocal setting)
    (hagree : Agree (item.declared .choices) values others) :
    item.offersIn setting values = item.offersIn setting others := by
  have hcandidates : item.candidates setting values = item.candidates setting others := by
    rw [candidates, candidates]
    cases hrule : item.choices with
    | none => rfl
    | some rule =>
      have hmem : rule ∈ item.rulesOf .choices := List.mem_append_left _ (by simp [hrule])
      rw [Option.bind_some, Option.bind_some, hlocal.ask?_eq hagree hmem]
  rw [offersIn, offersIn, ← hcandidates]
  refine List.map_congr_left fun candidate hcandidate => ?_
  rw [Candidate.offer, Candidate.offer]
  cases hlisted : candidate.listed with
  | none => rfl
  | some choice =>
    have hrules : ∀ rule ∈ choice.rules, setting.confirms values rule.expression =
        setting.confirms others rule.expression := fun rule hrule => by
      rw [Setting.confirms, Setting.confirms,
        hlocal.ask?_eq hagree (mem_rulesOf_of_candidate hcandidate hlisted hrule)]
    rw [Option.bind_some, Option.bind_some]
    congr 1
    · cases hdisabled : choice.disabled with
      | none => rfl
      | some rule => exact hrules rule (List.mem_append_left _ (by simp [hdisabled]))
    · cases hvisible : choice.visible with
      | none => rfl
      | some rule => exact hrules rule (List.mem_append_right _ (by simp [hvisible]))

end Item

/-! ### What a whole pass does to one slot -/

variable {form : Form} {setting : Setting} {state : State} {trigger : Trigger} {item : Item}
  {before after rest : List Item} {slot : Slot} {answer : String}

/-- Something is made anew where that is due, and else stays. -/
structure Renewed {α : Type} (due : Prop) (old new result : α) : Prop where
  of_due : due → result = new
  of_not_due : ¬ due → result = old

theorem Renewed.congr {α : Type} {due due' : Prop} {old new new' result : α} (h : Renewed due old new result)
    (hdue : due ↔ due') (hnew : due → new = new') : Renewed due' old new' result :=
  ⟨fun h' => (h.of_due (hdue.2 h')).trans (hnew (hdue.2 h')), fun h' => h.of_not_due fun hd => h' (hdue.1 hd)⟩

/-- Whether a pass has a reason to run a slot of an item. -/
def Due (form : Form) (setting : Setting) (state : State) (trigger : Trigger) (item : Item) (slot : Slot) :
    Prop :=
  trigger = .full ∧ item.rulesOf slot ≠ [] ∨
    ∃ answer ∈ item.declared slot, answer ∈ form.changes setting state trigger

/-- The step of an item does not touch a part of the state. -/
def Spares (form : Form) (setting : Setting) (trigger : Trigger) {β : Type} (get : State → β)
    (item : Item) : Prop :=
  ∀ pass, get (Pass.step setting trigger.isFull (form.schedule trigger) pass item).state = get pass.state

/-- What no step touches that is still to come stays as it is. -/
theorem passAfter_get {β : Type} (get : Pass → β) (state : State) (before : List Item)
    (h : ∀ other ∈ rest, ∀ pass,
      get (Pass.step setting trigger.isFull (form.schedule trigger) pass other) = get pass) :
    get (form.passAfter setting state trigger (before ++ rest)) =
      get (form.passAfter setting state trigger before) := by
  induction rest generalizing before with
  | nil => rw [List.append_nil]
  | cons item rest ih =>
    have hrest := ih (before ++ [item]) fun other hother => h other (List.mem_cons_of_mem _ hother)
    rw [List.append_assoc, List.singleton_append, passAfter_concat] at hrest
    rw [hrest, h item List.mem_cons_self]

section
variable {β : Type} (get : State → β)

theorem get_passAfter (state : State) (before : List Item)
    (h : ∀ other ∈ rest, form.Spares setting trigger get other) :
    get (form.passAfter setting state trigger (before ++ rest)).state =
      get (form.passAfter setting state trigger before).state :=
  passAfter_get (fun pass => get pass.state) state before h

theorem runPass_get (h : ∀ other ∈ form.items, form.Spares setting trigger get other) :
    get (form.runPass setting state trigger).1 = get state :=
  get_passAfter get state [] fun other hother => h other (mem_queue.1 hother).1

end

/-! ### Names of no item -/

section
variable {name : String} (hname : ¬ ∃ item ∈ form.items, item.id = name)
include hname

theorem visibility_of_no_item :
    (form.runPass setting state trigger).1.visibility.get? name = state.visibility.get? name := by
  refine runPass_get (fun state => state.visibility.get? name) fun other hother pass => ?_
  by_contra h
  exact hname ⟨other, hother, (Pass.of_step_visibility_ne hother h).1⟩

theorem readOnly_of_no_item :
    (form.runPass setting state trigger).1.readOnly.get? name = state.readOnly.get? name := by
  refine runPass_get (fun state => state.readOnly.get? name) fun other hother pass => ?_
  by_contra h
  exact hname ⟨other, hother, (Pass.of_step_readOnly_ne hother h).1⟩

theorem choices_of_no_item :
    (form.runPass setting state trigger).1.choices.get? name = state.choices.get? name := by
  refine runPass_get (fun state => state.choices.get? name) fun other hother pass => ?_
  by_contra h
  exact hname ⟨other, hother, (Pass.of_step_choices_ne hother h).1⟩

end

/-! ### The part of one item -/

section
variable {β : Type} (get : State → β)

/-- What only the step of an item touches is made by that step, from what was there at first. -/
theorem get_runPass (state : State) (hqueue : form.queue trigger = before ++ item :: after)
    (hother : ∀ other ∈ form.items, other ≠ item → form.Spares setting trigger get other) :
    get (form.passAfter setting state trigger before).state = get state ∧
      get (form.runPass setting state trigger).1 = get (Pass.step setting trigger.isFull
        (form.schedule trigger) (form.passAfter setting state trigger before) item).state := by
  have hitems : ∀ other ∈ before ++ item :: after, other ∈ form.items := fun other h =>
    (mem_queue.1 (hqueue ▸ h)).1
  obtain ⟨-, hafter, hbefore⟩ := List.nodup_append.1 (hqueue ▸ nodup_queue)
  constructor
  · exact get_passAfter get state [] fun other h =>
      hother other (hitems other (List.mem_append_left _ h)) (hbefore other h item List.mem_cons_self)
  · have hrest := get_passAfter get state (before ++ [item]) fun other h =>
      hother other (hitems other (by simp [h])) (fun heq => (List.nodup_cons.1 hafter).1 (heq ▸ h))
    rw [List.append_assoc, List.singleton_append, ← hqueue, passAfter_concat] at hrest
    exact hrest

/-- A slot that only its item fills, and that an item which runs makes anew if it is due there, is
made anew by a pass if it is due in it. -/
theorem renewed_runPass {extra : Prop} (make : β → Fields Json → β) (hitem : item ∈ form.items)
    (hfree : form.freezes trigger item = false)
    (hother : ∀ other ∈ form.items, other ≠ item → form.Spares setting trigger get other)
    (hown : ∀ pass : Pass, Renewed
      (trigger = .full ∧ extra ∨ pass.isAnyDue trigger.isFull (item.rulesOf slot) = true)
      (get pass.state) (make (get pass.state) pass.state.values)
      (get (Pass.runItem setting trigger.isFull pass item).state))
    (hmake : ∀ current values others, Agree (item.declared slot) values others →
      make current values = make current others) :
    Renewed (trigger = .full ∧ extra ∨ form.Due setting state trigger item slot) (get state)
      (make (get state) (form.runPass setting state trigger).1.values)
      (get (form.runPass setting state trigger).1) := by
  by_cases hmem : item ∈ form.queue trigger
  · obtain ⟨before, after, hqueue⟩ := List.append_of_mem hmem
    obtain ⟨hstart, hdone⟩ := get_runPass get state hqueue hother
    rw [hdone, Pass.step_of_free hfree, ← hstart]
    refine (hown _).congr (or_congr_right (isAnyDue_passAfter hqueue)) fun _ => hmake _ _ _ ?_
    exact fun answer h => value?_passAfter hqueue (Item.mem_derivedDependencies.2 ⟨slot, h⟩)
  · -- an item that does not run is not affected
    cases trigger with
    | full => exact absurd (mem_queue.2 ⟨hitem, mem_candidates_full hitem⟩) hmem
    | changed edited =>
      have hnot : ¬ form.Due setting state (.changed edited) item slot := by
        rintro (⟨h, -⟩ | ⟨answer, hdeclared, hchanges⟩)
        · cases h
        · exact hmem (mem_queue.2 ⟨hitem, mem_affected_of_mem_changes hitem
            (Item.mem_derivedDependencies.2 ⟨slot, hdeclared⟩) hchanges⟩)
      refine ⟨fun h => ?_, fun _ => ?_⟩
      · rcases h with ⟨h, -⟩ | h
        · cases h
        · exact absurd h hnot
      · refine get_passAfter get state [] fun other h =>
          hother other (mem_queue.1 h).1 fun heq => hmem (heq ▸ h)

end

/-! ### The slots of an item -/

theorem renewed_insert {α : Type} {map : NameMap α} {due : Bool} {P : Prop} {id : String} {value : α}
    (h : due = true ↔ P) :
    Renewed P (map.get? id) (some value) ((if due then map.insert id value else map).get? id) := by
  refine ⟨fun hP => ?_, fun hP => ?_⟩
  · rw [if_pos (h.2 hP), NameMap.get?_insert, if_pos rfl]
  · rw [if_neg fun hdue => hP (h.1 hdue)]

theorem isFull_iff : trigger.isFull = true ↔ trigger = .full := by
  cases trigger <;> simp [Trigger.isFull]

/-- The rules that decide the answer of an item that does not have both kinds. -/
def Item.decider (item : Item) : Slot := if item.hasChoiceRules then .choices else .value

/-- What an item that does not have both kinds of rules for its answer makes of it. -/
def Item.decidedIn (item : Item) (setting : Setting) (current : Option Json) (values : Fields Json) :
    Option Json :=
  overwrite current (if item.hasChoiceRules then
    current.bind (Offer.replacement? (item.offersIn setting values)) else item.ruledIn? setting values)

theorem Item.IsLocal.decidedIn_eq {current : Option Json} {values others : Fields Json}
    (hlocal : item.IsLocal setting) (hagree : Agree (item.declared item.decider) values others) :
    item.decidedIn setting current values = item.decidedIn setting current others := by
  rw [decider] at hagree
  rw [decidedIn, decidedIn]
  by_cases hrules : item.hasChoiceRules = true
  · rw [if_pos hrules] at hagree
    rw [if_pos hrules, if_pos hrules, hlocal.offersIn_eq hagree]
  · rw [if_neg hrules] at hagree
    rw [if_neg hrules, if_neg hrules, hlocal.ruledIn?_eq hagree]

section
variable (state : State) (trigger : Trigger) (hitem : item ∈ form.items)
  (hfree : form.freezes trigger item = false)
  (hlocal : item.IsLocal setting)
include hitem hfree hlocal

theorem renewed_visibility : Renewed (trigger = .full ∧ True ∨ form.Due setting state trigger item .visible)
    (state.visibility.get? item.id)
    (some (item.shownIn setting (form.runPass setting state trigger).1.values))
    ((form.runPass setting state trigger).1.visibility.get? item.id) := by
  refine renewed_runPass (fun state => state.visibility.get? item.id)
    (fun _ values => some (item.shownIn setting values)) hitem hfree
    (fun other hmem hne pass => ?_) (fun pass => ?_) fun _ _ _ hagree => ?_
  · by_contra h
    exact hne (item_ext_id hmem hitem (Pass.of_step_visibility_ne hmem h).1)
  · rw [Pass.runItem_state hitem, Pass.flagged_state]
    exact renewed_insert (by rw [Bool.or_eq_true, isFull_iff, and_true])
  · rw [hlocal.shownIn_eq hagree]

theorem renewed_readOnly : Renewed (trigger = .full ∧ True ∨ form.Due setting state trigger item .readOnly)
    (state.readOnly.get? item.id)
    (some (item.lockedIn setting (form.runPass setting state trigger).1.values))
    ((form.runPass setting state trigger).1.readOnly.get? item.id) := by
  refine renewed_runPass (fun state => state.readOnly.get? item.id)
    (fun _ values => some (item.lockedIn setting values)) hitem hfree
    (fun other hmem hne pass => ?_) (fun pass => ?_) fun _ _ _ hagree => ?_
  · by_contra h
    exact hne (item_ext_id hmem hitem (Pass.of_step_readOnly_ne hmem h).1)
  · rw [Pass.runItem_state hitem, Pass.flagged_state]
    exact renewed_insert (by rw [Bool.or_eq_true, isFull_iff, and_true])
  · rw [hlocal.lockedIn_eq hagree]

theorem renewed_choices : Renewed
    (trigger = .full ∧ item.options ≠ [] ∨ form.Due setting state trigger item .choices)
    (state.choices.get? item.id)
    (some (item.offersIn setting (form.runPass setting state trigger).1.values))
    ((form.runPass setting state trigger).1.choices.get? item.id) := by
  refine renewed_runPass (fun state => state.choices.get? item.id)
    (fun _ values => some (item.offersIn setting values)) hitem hfree
    (fun other hmem hne pass => ?_) (fun pass => ?_) fun _ _ _ hagree => ?_
  · by_contra h
    exact hne (item_ext_id hmem hitem (Pass.of_step_choices_ne hmem h).1)
  · -- the answer of the item may have been written, but its rules do not read it
    obtain ⟨answers, hwrites, hall⟩ := Pass.beforeSlot_writes setting trigger.isFull
      pass hitem .choices
    have hagree : Agree (item.declared .choices)
        (Pass.beforeSlot setting trigger.isFull pass item .choices).state.values pass.state.values :=
      fun answer hdeclared => hwrites.kept answer fun ha =>
        answer_notMem_derivedDependencies hitem (hall answer ha).1
          (Item.mem_derivedDependencies.2 ⟨.choices, hdeclared⟩)
    rw [Pass.runItem_state hitem, hlocal.offersIn_eq hagree]
    exact renewed_insert (by rw [Pass.offersDue_iff, isFull_iff])
  · rw [hlocal.offersIn_eq hagree]

theorem renewed_answer (hanswer : item.answer? = some answer)
    (hsingle : item.value = none ∨ item.hasChoiceRules = false) :
    Renewed (trigger = .full ∧ False ∨ form.Due setting state trigger item item.decider)
      (state.value? answer)
      (item.decidedIn setting (state.value? answer) (form.runPass setting state trigger).1.values)
      ((form.runPass setting state trigger).1.value? answer) := by
  refine renewed_runPass (fun state => state.value? answer)
    (fun current values => item.decidedIn setting current values) hitem hfree
    (fun other hmem hne pass => ?_) (fun pass => ?_) fun _ _ _ hagree => hlocal.decidedIn_eq hagree
  · by_contra h
    exact hne (item_ext_answer hmem hitem (Pass.of_step_value?_ne hmem h) hanswer)
  · rw [and_false, false_or, Item.decider, Item.decidedIn]
    by_cases hrules : item.hasChoiceRules = true
    · have hvalue := hsingle.resolve_right (by simp [hrules])
      rw [if_pos hrules, if_pos hrules, Pass.runItem_value?_of_choices hitem hanswer hvalue]
      exact ⟨fun h => if_pos h, fun h => if_neg h⟩
    · have hchoices : item.choiceRules = [] := by
        by_contra hne; exact hrules (Item.hasChoiceRules_iff.2 hne)
      rw [if_neg hrules, if_neg hrules, Pass.runItem_value?_of_value hitem hanswer hchoices]
      exact ⟨fun h => if_pos h, fun h => if_neg h⟩

end

end Formwork.Form
