import Formwork.Proofs.Json.Same
import Formwork.Proofs.Pass.Incremental

/-!
# What a pass writes is on offer

When the choices of an item are resolved, its answer is held against them: selections that are not
offered are taken out (`Offer.covers_overwrite`). The slot for choices comes last, so it has the last
word also on an answer that the value rule has just written (`Form.writes_offered`). But it only has a
word if it is due, and the answer of an item never makes its own slots due. So an item with rules of both
kinds can write an answer that it does not offer, if what has changed concerns its value rule alone
(`Form.writes_not_offered`).
-/

namespace Formwork

open Definition (Slot)

namespace Offer

/-- A value is one of those that can be selected. -/
def Takes (offers : List Offer) (value : Json) : Prop :=
  ∃ offer ∈ offers, offer.isSelectable = true ∧ (offer.value == value) = true

/-- There is no answer, or it is made of values that can be selected. -/
inductive Covers (offers : List Offer) : Option Json → Prop
  | absent : Covers offers none
  | null : Covers offers (some .null)
  | list (selected : List Json) : (∀ value ∈ selected, Takes offers value) → Covers offers (some (.arr selected))
  | single (value : Json) : Takes offers value → Covers offers (some value)

variable {offers : List Offer} {value new : Json}

theorem isOffered_iff : isOffered offers value = true ↔ Takes offers value := by
  simp only [isOffered, Takes, List.any_eq_true, Bool.and_eq_true]

theorem covers_of_kept (h : replacement? offers value = none) : Covers offers (some value) := by
  unfold replacement? at h
  split at h
  · exact .null
  · rename_i selected
    simp only [ite_eq_left_iff, reduceCtorEq, imp_false, not_not] at h
    have hall := List.filter_eq_self.1 (List.filter_sublist.eq_of_length h)
    exact .list selected fun value hvalue => isOffered_iff.1 (hall value hvalue)
  · simp only [ite_eq_left_iff, reduceCtorEq, imp_false, Bool.not_eq_true, Bool.not_eq_false] at h
    exact .single value (isOffered_iff.1 h)

theorem covers_of_replaced (h : replacement? offers value = some new) : Covers offers (some new) := by
  unfold replacement? at h
  split at h
  · cases h
  · rename_i selected
    simp only [Option.ite_none_left_eq_some, Option.some.injEq] at h
    obtain ⟨-, rfl⟩ := h
    exact .list _ fun value hvalue => isOffered_iff.1 (List.mem_filter.1 hvalue).2
  · simp only [Option.ite_none_left_eq_some, Option.some.injEq] at h
    rw [← h.2]; exact .null

/-- What takes the place of an answer differs from it, so that it is written. -/
theorem ne_of_replaced (h : replacement? offers value = some new) : (value == new) = false := by
  unfold replacement? at h
  split at h
  · cases h
  · rename_i selected
    simp only [Option.ite_none_left_eq_some, Option.some.injEq] at h
    obtain ⟨hlength, rfl⟩ := h
    refine Bool.eq_false_iff.2 fun hsame => hlength ?_
    rw [← Json.length_eq_of_sameItems (show Json.sameItems selected _ = true from hsame)]
  · rename_i hnull _
    simp only [Option.ite_none_left_eq_some, Option.some.injEq] at h
    rw [← h.2]
    cases value <;> first | rfl | exact absurd rfl hnull

/-- An answer that was held against the offers is covered by them. -/
theorem covers_overwrite (current : Option Json) :
    Covers offers (overwrite current (current.bind (replacement? offers))) := by
  cases current with
  | none => exact .absent
  | some value =>
    rw [Option.bind_some]
    cases hreplaced : replacement? offers value with
    | none => exact covers_of_kept hreplaced
    | some new =>
      have hne : (some value : Option Json).any (· == new) = false := ne_of_replaced hreplaced
      rw [overwrite, hne]
      exact covers_of_replaced hreplaced

end Offer

/-- An answer of the state is one that an item offers. -/
def State.Offers (state : State) (item : Form.Item) (answer : String) : Prop :=
  Offer.Covers ((state.choices.get? item.id).getD []) (state.value? answer)

namespace Form

variable {form : Form} {setting : Setting} {state : State} {trigger : Trigger} {item : Item} {answer : String}
variable {before after : List Item}

/-- Where choices are due that depend on rules, the item ends up with an answer that it offers. -/
theorem runItem_offers {full : Bool} (pass : Pass) (hitem : item ∈ form.items)
    (hanswer : item.answer? = some answer) (hdue : pass.isAnyDue full (item.rulesOf .choices) = true) :
    (Pass.runItem setting full pass item).state.Offers item answer := by
  have hdue : (Pass.beforeSlot setting full pass item .choices).isAnyDue full (item.rulesOf .choices) = true := by
    rw [Pass.isAnyDue_beforeSlot hitem, hdue]
  rw [Pass.runItem_state_eq, State.Offers, Pass.runChoices_value? hdue hanswer, Pass.runChoices_state]
  simp only [(Pass.isAnyDue_choices_iff.1 hdue).1, if_true, NameMap.get?_insert, Option.getD_some]
  exact Offer.covers_overwrite _

/-- No other step touches the answer or the choices of an item. -/
theorem offers_runPass (state : State) (hqueue : form.queue trigger = before ++ item :: after)
    (hfree : form.freezes trigger item = false) (hanswer : item.answer? = some answer) :
    (form.runPass setting state trigger).1.Offers item answer ↔
      (Pass.runItem setting trigger.isFull (form.passAfter setting state trigger before) item).state.Offers
        item answer := by
  have hitem := mem_items_of_queue hqueue
  have hchoices : (form.runPass setting state trigger).1.choices.get? item.id = _ :=
    (get_runPass (fun state => state.choices.get? item.id) state hqueue fun other hother hne pass => by
      by_contra h
      exact hne (item_ext_id hother hitem (Pass.of_step_choices_ne hother h).1)).2
  have hvalue : (form.runPass setting state trigger).1.value? answer = _ :=
    (get_runPass (fun state => state.value? answer) state hqueue fun other hother hne pass => by
      by_contra h
      exact hne (item_ext_answer hother hitem (Pass.of_step_value?_ne hother h) hanswer)).2
  rw [State.Offers, State.Offers, hchoices, hvalue, Pass.step_of_free hfree]

/-- Of an item with rules for its choices, a pass writes no answer that the item does not offer in the
end: if all rules run, if the item has no value rule, or if its rules for choices declare an answer that
changes in the pass. -/
theorem writes_offered (form : Form) (setting : Setting) (state : State) (trigger : Trigger)
    (hitem : item ∈ form.items) (hrules : item.hasChoiceRules = true) (hanswer : item.answer? = some answer)
    (hwritten : answer ∈ (form.runPass setting state trigger).2.changedAnswers)
    (hdue : trigger = .full ∨ item.value = none ∨
      ∃ declared ∈ item.choiceDependencies, declared ∈ form.changes setting state trigger) :
    (form.runPass setting state trigger).1.Offers item answer := by
  obtain ⟨before, writer, after, hqueue, hfree, hwriter, hdecides⟩ := exists_writer hwritten
  obtain rfl := item_ext_answer (mem_items_of_queue hqueue) hitem hwriter hanswer
  rw [offers_runPass state hqueue hfree hanswer]
  refine runItem_offers _ hitem hanswer ?_
  rcases hdue with hfull | hvalue | hdeclared
  · exact (isAnyDue_passAfter hqueue).2 (.inl ⟨hfull, Item.hasChoiceRules_iff.1 hrules⟩)
  · refine hdecides.resolve_left fun hdue => Pass.rulesOf_ne_nil_of_due hdue ?_
    rw [Item.rulesOf, hvalue]; rfl
  · exact (isAnyDue_passAfter hqueue).2 (.inr hdeclared)

/-! ### A form to try -/

/-- The answer of `pick` repeats that of `x`. Its only choice is shown where `y` is checked. -/
def menuDefinition : Definition where
  id := "menu"
  title := "Menu"
  version := "1"
  views := [{ id := "only", items := [
    { id := "x", kind := .text },
    { id := "y", kind := .checkbox },
    { id := "pick", kind := .select, value := some ⟨"data.x", ["x"]⟩,
      options := [{ value := .str "a", label := "A", visible := some ⟨"data.y", ["y"]⟩ }] }] }]

/-- The views of `menuDefinition`, with the rules parsed. -/
def menuViews : List View :=
  [⟨0, menuDefinition.views[0], none, none, [
    ⟨0, 0, menuDefinition.items[0], none, none, none, none, [], [], none⟩,
    ⟨1, 0, menuDefinition.items[1], none, none, none, none, [], [], none⟩,
    ⟨2, 0, menuDefinition.items[2], none, none,
      some ⟨⟨"data.x", .ok (.path .data [.field "x"])⟩, ["x"]⟩, none,
      [⟨.str "a", "A", none, some ⟨⟨"data.y", .ok (.path .data [.field "y"])⟩, ["y"]⟩⟩], [], none⟩]⟩]

theorem menuViews_eq : menuViews = View.ofDefinitions 0 0 menuDefinition.views := by
  have hx : (Token.scan "data.x").toOption =
      some [⟨.ident "data", 0⟩, ⟨.dot, 4⟩, ⟨.ident "x", 5⟩] := by decide +kernel
  have hy : (Token.scan "data.y").toOption =
      some [⟨.ident "data", 0⟩, ⟨.dot, 4⟩, ⟨.ident "y", 5⟩] := by decide +kernel
  rw [menuViews, ← Expression.parse_field hx, ← Expression.parse_field hy]; rfl

def menu : Form where
  definition := menuDefinition
  sound := by decide
  views := menuViews
  views_eq := menuViews_eq
  items := _
  items_eq := rfl
  index := _
  index_eq := rfl

/-- A state of `menu` that a pass over all rules leaves alone. -/
def menuSettled : State where
  values := [("x", .str "a"), ("y", .bool true), ("pick", .str "a")]
  visibility := .ofList [("x", true), ("y", true), ("pick", true)]
  readOnly := .ofList [("x", false), ("y", false), ("pick", false)]
  choices := .ofList [("pick", [⟨.str "a", "A", false, true⟩])]

theorem menu_settled : (menu.runPass {} menuSettled .full).1 = menuSettled := by
  have horder : (menu.schedule .full).order = [0, 1, 2] := by decide +kernel
  have hcycles : (menu.schedule .full).cycles = [] := by decide +kernel
  have hschedule : menu.schedule .full = ⟨[0, 1, 2], []⟩ := by rw [← horder, ← hcycles]
  rw [runPass, hschedule]; rfl

/-- Where both `x` and `y` change, what the value rule writes is taken back. -/
theorem writes_offered_menu :
    (menu.runPass {} (menuSettled.setValues [("x", .str "b"), ("y", .bool false)]) (.changed ["x", "y"])).1.Offers
      (menu.items.get ⟨2, by decide⟩) "pick" := by
  refine writes_offered menu {} _ (.changed ["x", "y"]) (List.get_mem _ _) (by decide) (by decide) ?_ ?_
  · decide +kernel
  · exact .inr (.inr ⟨"y", by decide, List.mem_append_left _ (by decide)⟩)

/-- Where only `x` changes, `pick` gets an answer that is not among its choices, which are not looked
at. -/
theorem writes_not_offered :
    ¬ ∀ (form : Form) (setting : Setting) (state : State) (changes : Fields Json) (trigger : Trigger),
      (form.schedule .full).cycles = [] → (form.runPass setting state .full).1 = state →
      trigger = .changed (Fields.names changes) ∨ trigger = .full →
      let done := form.runPass setting (state.setValues changes) trigger
      ∀ item ∈ form.items, item.hasChoiceRules = true → ∀ answer, item.answer? = some answer →
        answer ∈ done.2.changedAnswers → done.1.Offers item answer := by
  intro h
  have hoffers := h menu {} menuSettled [("x", .str "b")] (.changed ["x"]) (by decide +kernel) menu_settled
    (.inl rfl) (menu.items.get ⟨2, by decide⟩) (List.get_mem _ _) (by decide) "pick" (by decide)
    (by decide +kernel)
  have horder : (menu.schedule (.changed ["x"])).order = [2] := by decide +kernel
  have hcycles : (menu.schedule (.changed ["x"])).cycles = [] := by decide +kernel
  have hschedule : menu.schedule (.changed ["x"]) = ⟨[2], []⟩ := by rw [← horder, ← hcycles]
  have hdone : (menu.runPass {} (menuSettled.setValues [("x", .str "b")]) (.changed ["x"])).1 =
      { menuSettled with values := [("x", .str "b"), ("y", .bool true), ("pick", .str "b")] } := by
    rw [runPass, hschedule]; rfl
  rw [hdone] at hoffers
  have hcovers : Offer.Covers [⟨.str "a", "A", false, true⟩] (some (.str "b")) := hoffers
  cases hcovers with
  | single _ htakes =>
    obtain ⟨offer, hoffer, -, hsame⟩ := htakes
    cases List.mem_singleton.1 hoffer
    cases hsame

end Form
end Formwork
