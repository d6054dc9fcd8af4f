import Formwork.Proofs.Pass.Offered

/-!
# Selections and the choices they are made from

Where the choices of an item are resolved by rules, its answer is held against them: of a list the members
that are on offer are kept, and any other answer stays or becomes `null` (`Offer.Narrows`). The slot for
choices is the last of the item, and no other item writes its answer or its choices, so both stand to the
end of the pass (`keeps_offered`).
-/

namespace Formwork

open Definition (Slot)

namespace Offer

/-- What becomes of an answer that is held against some offers. -/
def held (offers : List Offer) (current : Option Json) : Option Json :=
  overwrite current (current.bind (replacement? offers))

/-- What is left of an answer: of a list the members on offer, in order, of anything else all or `null`. -/
def Narrows (offers : List Offer) (current new : Option Json) : Prop :=
  match current with
  | some (.arr selected) => new = some (.arr (selected.filter (isOffered offers)))
  | current => new = current ∨ current.isSome = true ∧ new = some .null

theorem overwrite_of_replaced {offers : List Offer} {value new : Json}
    (h : replacement? offers value = some new) : overwrite (some value) (some new) = some new := by
  have hdiffers : (some value : Option Json).any (· == new) = false := ne_of_replaced h
  rw [overwrite, hdiffers]
  rfl

theorem held_list (offers : List Offer) (selected : List Json) :
    held offers (some (.arr selected)) = some (.arr (selected.filter (isOffered offers))) := by
  rw [held, Option.bind_some]
  cases hreplaced : replacement? offers (.arr selected) with
  | some new =>
    rw [overwrite_of_replaced hreplaced]
    simp only [replacement?, Option.ite_none_left_eq_some, Option.some.injEq] at hreplaced
    rw [← hreplaced.2]
  | none =>
    simp only [replacement?, ite_eq_left_iff, reduceCtorEq, imp_false, not_not] at hreplaced
    rw [List.filter_sublist.eq_of_length hreplaced]
    rfl

theorem eq_null_of_replaced {offers : List Offer} {value new : Json}
    (hlist : ∀ selected, value ≠ .arr selected) (h : replacement? offers value = some new) :
    new = .null := by
  unfold replacement? at h
  split at h
  · cases h
  · exact absurd rfl (hlist _)
  · simp only [Option.ite_none_left_eq_some, Option.some.injEq] at h
    exact h.2.symm

theorem narrows_held (offers : List Offer) (current : Option Json) :
    Narrows offers current (held offers current) := by
  unfold Narrows
  split
  · exact held_list offers _
  · rename_i hlist
    cases current with
    | none => exact .inl rfl
    | some value =>
      rw [held, Option.bind_some]
      cases hreplaced : replacement? offers value with
      | none => exact .inl rfl
      | some new =>
        have hnull := eq_null_of_replaced (fun _ heq => hlist _ (congrArg some heq)) hreplaced
        rw [overwrite_of_replaced hreplaced, hnull]
        exact .inr ⟨rfl, rfl⟩

end Offer

/-- The answer that a state has for an item. -/
def State.answerOf? (state : State) (item : Form.Item) : Option Json := item.answer?.bind state.value?

namespace Form

variable {form : Form} {setting : Setting} {state : State} {trigger : Trigger} {item other : Item}
variable {before after middle rest : List Item}

/-- The state in which the choices of an item are resolved, if the given items have run before it. -/
def entering (form : Form) (setting : Setting) (state : State) (trigger : Trigger) (before : List Item)
    (item : Item) : State :=
  (Pass.beforeSlot setting trigger.isFull (form.passAfter setting state trigger before) item .choices).state

theorem answerOf?_of_answer {answer : String} (hanswer : item.answer? = some answer) (state : State) :
    state.answerOf? item = state.value? answer := by
  rw [State.answerOf?, hanswer, Option.bind_some]

theorem spares_answerOf? (hitem : item ∈ form.items) (hother : other ∈ form.items) (hne : other ≠ item) :
    form.Spares setting trigger (fun state => state.answerOf? item) other := by
  intro pass
  by_contra h
  cases hanswer : item.answer? with
  | none => exact h (by simp only [State.answerOf?, hanswer, Option.bind_none])
  | some answer =>
    simp only [answerOf?_of_answer hanswer] at h
    exact hne (item_ext_answer hother hitem (Pass.of_step_value?_ne hother h) hanswer)

theorem spares_choices (hitem : item ∈ form.items) (hother : other ∈ form.items) (hne : other ≠ item) :
    form.Spares setting trigger (fun state => state.choices.get? item.id) other := by
  intro pass
  by_contra h
  exact hne (item_ext_id hother hitem (Pass.of_step_choices_ne hother h).1)

/-- What only the step of an item touches stands from there on. -/
theorem get_passAfter_own {β : Type} (setting : Setting) (state : State) (get : State → β)
    (hqueue : form.queue trigger = before ++ item :: (middle ++ rest))
    (hspares : ∀ other ∈ form.items, other ≠ item → form.Spares setting trigger get other) :
    get (form.passAfter setting state trigger (before ++ item :: middle)).state =
      get (form.runPass setting state trigger).1 := by
  have hrest : ∀ other ∈ rest, form.Spares setting trigger get other := by
    intro other hother
    have hmem : other ∈ form.queue trigger := by rw [hqueue]; simp [hother]
    refine hspares other (mem_queue.1 hmem).1 fun heq => ?_
    obtain ⟨-, hafter, -⟩ := List.nodup_append.1 (hqueue ▸ nodup_queue)
    exact (List.nodup_cons.1 hafter).1 (List.mem_append_right middle (heq ▸ hother))
  have hlast := get_passAfter get state (before ++ item :: middle) hrest
  rw [List.append_assoc, List.cons_append, ← hqueue] at hlast
  exact hlast.symm

theorem answerOf?_runChoices {full : Bool} {pass : Pass}
    (h : pass.isAnyDue full (item.rulesOf .choices) = true) :
    (Pass.runChoices setting full pass item).state.answerOf? item =
      Offer.held (item.offersIn setting pass.state.values) (pass.state.answerOf? item) := by
  cases hanswer : item.answer? with
  | none => simp only [State.answerOf?, hanswer, Option.bind_none, Offer.held, overwrite]
  | some answer =>
    rw [answerOf?_of_answer hanswer, answerOf?_of_answer hanswer]
    exact Pass.runChoices_value? h hanswer

theorem due_of_evaluates {slot : Slot} (hqueue : form.queue trigger = before ++ item :: after)
    (h : form.Evaluates setting state trigger item slot) :
    (Pass.beforeSlot setting trigger.isFull (form.passAfter setting state trigger before) item
      slot).isAnyDue trigger.isFull (item.rulesOf slot) = true := by
  have hitem := mem_items_of_queue hqueue
  obtain ⟨before', after', hqueue', -, hdue⟩ := h
  rw [Pass.isAnyDue_beforeSlot hitem, isAnyDue_passAfter hqueue'] at hdue
  rw [Pass.isAnyDue_beforeSlot hitem]
  exact (isAnyDue_passAfter hqueue).2 hdue

section
variable (hqueue : form.queue trigger = before ++ item :: after)
  (hfree : ∀ cycle ∈ (form.runPass setting state trigger).2.cycles, item.id ∉ cycle)
  (hruns : form.Evaluates setting state trigger item .choices)
include hqueue hfree hruns

theorem choices_runPass : (form.runPass setting state trigger).1.choices.get? item.id =
    some (item.offersIn setting (form.entering setting state trigger before item).values) := by
  have hitem := mem_items_of_queue hqueue
  have hqueue' : form.queue trigger = before ++ item :: ([] ++ after) := hqueue
  have hstep := get_passAfter_own setting state (fun state => state.choices.get? item.id) hqueue'
    fun other hother hne => spares_choices hitem hother hne
  rw [passAfter_concat, Pass.step_of_free ((freezes_eq_false_iff hitem).2 hfree), Pass.runItem_state_eq,
    Pass.runChoices_state] at hstep
  rw [← hstep]
  simp only [(Pass.isAnyDue_choices_iff.1 (due_of_evaluates hqueue hruns)).1, if_true, NameMap.get?_insert]
  rfl

theorem answerOf?_runPass : (form.runPass setting state trigger).1.answerOf? item =
    Offer.held (item.offersIn setting (form.entering setting state trigger before item).values)
      ((form.entering setting state trigger before item).answerOf? item) := by
  have hitem := mem_items_of_queue hqueue
  have hqueue' : form.queue trigger = before ++ item :: ([] ++ after) := hqueue
  have hstep := get_passAfter_own setting state (fun state => state.answerOf? item) hqueue'
    fun other hother hne => spares_answerOf? hitem hother hne
  rw [passAfter_concat, Pass.step_of_free ((freezes_eq_false_iff hitem).2 hfree), Pass.runItem_state_eq,
    answerOf?_runChoices (due_of_evaluates hqueue hruns)] at hstep
  exact hstep.symm

end

/-- Where rules resolve the choices of an item in a pass, its answer in the end is made of choices that can
be selected there: it is what they leave of the answer that was held against them, and no item that runs
later touches it. -/
theorem keeps_offered (form : Form) (setting : Setting) (state : State) (trigger : Trigger)
    (hqueue : form.queue trigger = before ++ item :: after)
    (hfree : ∀ cycle ∈ (form.runPass setting state trigger).2.cycles, item.id ∉ cycle)
    (hruns : form.Evaluates setting state trigger item .choices) :
    let final := (form.runPass setting state trigger).1
    ∃ offers, final.choices.get? item.id = some offers ∧ Offer.Covers offers (final.answerOf? item) ∧
      Offer.Narrows offers ((form.entering setting state trigger before item).answerOf? item)
        (final.answerOf? item) ∧
      ∀ middle rest, after = middle ++ rest →
        (form.passAfter setting state trigger (before ++ item :: middle)).state.answerOf? item =
          final.answerOf? item := by
  intro final
  have hanswer := answerOf?_runPass hqueue hfree hruns
  refine ⟨_, choices_runPass hqueue hfree hruns, ?_, ?_, fun middle rest hafter => ?_⟩
  · rw [hanswer]
    exact Offer.covers_overwrite _
  · rw [hanswer]
    exact Offer.narrows_held _ _
  · have hitem := mem_items_of_queue hqueue
    subst hafter
    exact get_passAfter_own setting state (fun state => state.answerOf? item) hqueue
      fun other hother hne => spares_answerOf? hitem hother hne

/-- A state of `menu` with a list for an answer, of which one member is no choice. -/
def menuListed : State := menuSettled.setValues [("pick", .arr [.str "b", .str "a"])]

/-- Where `y` changes, the choices of `pick` are resolved anew, and the list loses what is none of them. -/
theorem keeps_offered_menu :
    let pick := menu.items.get ⟨2, by decide⟩
    (∀ cycle ∈ (menu.runPass {} menuListed (.changed ["y"])).2.cycles, pick.id ∉ cycle) ∧
    menu.Evaluates {} menuListed (.changed ["y"]) pick .choices ∧
    (menu.entering {} menuListed (.changed ["y"]) [] pick).answerOf? pick =
      some (.arr [.str "b", .str "a"]) ∧
    (menu.runPass {} menuListed (.changed ["y"])).1.answerOf? pick = some (.arr [.str "a"]) := by
  intro pick
  have horder : (menu.schedule (.changed ["y"])).order = [2] := by decide +kernel
  have hcycles : (menu.schedule (.changed ["y"])).cycles = [] := by decide +kernel
  have hschedule : menu.schedule (.changed ["y"]) = ⟨[2], []⟩ := by rw [← horder, ← hcycles]
  have hqueue : menu.queue (.changed ["y"]) = [] ++ pick :: [] := by rw [queue, hschedule]; rfl
  have hitem := mem_items_of_queue hqueue
  have hfree : ∀ cycle ∈ (menu.runPass {} menuListed (.changed ["y"])).2.cycles, pick.id ∉ cycle := by
    decide +kernel
  have hruns : menu.Evaluates {} menuListed (.changed ["y"]) pick .choices :=
    (evaluates_iff hitem ((freezes_eq_false_iff hitem).2 hfree)).2 ⟨"y", by decide, List.mem_cons_self⟩
  have hentering : (menu.entering {} menuListed (.changed ["y"]) [] pick).answerOf? pick =
      some (.arr [.str "b", .str "a"]) := rfl
  obtain ⟨offers, hoffers, -, hnarrows, -⟩ :=
    keeps_offered menu {} menuListed (.changed ["y"]) hqueue hfree hruns
  rw [hentering] at hnarrows
  have hchoices : (menu.runPass {} menuListed (.changed ["y"])).1.choices.get? pick.id =
      some [⟨.str "a", "A", false, true⟩] := by
    rw [runPass, hschedule]; rfl
  obtain rfl := Option.some.inj (hoffers.symm.trans hchoices)
  refine ⟨hfree, hruns, hentering, hnarrows.trans ?_⟩
  rfl

end Form
end Formwork
