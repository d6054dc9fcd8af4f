import Formwork.Proofs.Expr.Size
import Formwork.Proofs.Pass.Selection

/-!
# How big the answers of a pass are

A pass writes what the value rule of an item has made, or what is left of an answer when its choices are
resolved (`Form.Item.Makes`). What a rule makes is bounded by the memory limit and the literals of the rule
(`Expr.yields_bounded`), and what is left of an answer is no bigger than it. The same holds of the values that
an item offers: it lists them, or its rule for choices has made them (`Form.Item.OffersWithin`).
-/

namespace Formwork

open Definition (Slot)

namespace Form

variable {form : Form} {setting : Setting} {item : Item} {values : Fields Json}

/-- What a pass can make of the answer of an item. -/
inductive Item.Makes (item : Item) (limits : Limits) (old : Option Json) : Option Json → Prop
  | kept : Makes item limits old old
  /-- Its value rule has made it. -/
  | ruled {rule : Rule} {tree : Expr} {value : Json} : item.value = some rule →
    rule.expression.tree = .ok tree → limits.Bounds tree value → Makes item limits old (some value)
  /-- Its choices do not offer the old one. -/
  | cleared : Makes item limits old (some .null)
  /-- Its choices offer only some of the old ones. -/
  | narrowed {selected left : List Json} : old = some (.arr selected) → left.Sublist selected →
    Makes item limits old (some (.arr left))

/-- The values of some offers are those that the item lists, or its rule for choices has made them. -/
def Item.OffersWithin (item : Item) (limits : Limits) (offers : List Offer) : Prop :=
  offers.map (·.value) = item.options.map (·.value) ∨
    ∃ rule tree, item.choices = some rule ∧ rule.expression.tree = .ok tree ∧
      limits.Bounds tree (.arr (offers.map (·.value)))

/-! ### What rules make -/

theorem bounds_ask? {rule : Rule} {value : Json} (h : setting.ask? values rule.expression = some value) :
    ∃ tree, rule.expression.tree = .ok tree ∧ setting.limits.Bounds tree value := by
  rw [Setting.ask?] at h
  cases hvalue : rule.expression.evaluate setting.limits (setting.clock rule.expression)
      ⟨values, setting.user, setting.task⟩ with
  | error error => rw [hvalue] at h; cases h
  | ok found =>
    rw [hvalue] at h
    cases h
    exact Expression.bounds_of_evaluate hvalue

theorem makes_ruled {old : Option Json} {value : Json} (h : item.ruledIn? setting values = some value) :
    item.Makes setting.limits old (some value) := by
  obtain ⟨hasked, -⟩ := Option.filter_eq_some_iff.1 h
  obtain ⟨rule, hrule, hasked⟩ := Option.bind_eq_some_iff.1 hasked
  obtain ⟨tree, htree, hbounds⟩ := bounds_ask? hasked
  exact .ruled hrule htree hbounds

theorem Item.Makes.overwrite {old current : Option Json} (h : item.Makes setting.limits old current) :
    item.Makes setting.limits old (Formwork.overwrite current (item.ruledIn? setting values)) := by
  cases hruled : item.ruledIn? setting values with
  | none => exact h
  | some value =>
    rw [Formwork.overwrite]
    split
    · exact h
    · exact makes_ruled hruled

/-- What is left of a list is made by what made the list. -/
theorem Item.Makes.sublist {limits : Limits} {old : Option Json} {selected left : List Json}
    (h : item.Makes limits old (some (.arr selected))) (hleft : left.Sublist selected) :
    item.Makes limits old (some (.arr left)) := by
  generalize hcurrent : some (Json.arr selected) = current at h
  cases h with
  | kept => exact .narrowed hcurrent.symm hleft
  | ruled hrule htree hbounds =>
    cases hcurrent
    refine .ruled hrule htree (hbounds.shrink ?_)
    exact Nat.add_le_add_left (Json.itemsByteSize_le_of_sublist hleft) _
  | cleared => cases hcurrent
  | narrowed hold hsub =>
    cases hcurrent
    exact .narrowed hold (hleft.trans hsub)

theorem Item.Makes.held {limits : Limits} {old current : Option Json} (h : item.Makes limits old current)
    (offers : List Offer) : item.Makes limits old (Offer.held offers current) := by
  have hnarrows := Offer.narrows_held offers current
  unfold Offer.Narrows at hnarrows
  split at hnarrows
  · rw [hnarrows]
    exact h.sublist List.filter_sublist
  · rcases hnarrows with hsame | ⟨-, hnull⟩
    · rw [hsame]; exact h
    · rw [hnull]; exact .cleared

theorem byteSize_entryChoice? {entry : Json} {found : Json × String} (h : Item.entryChoice? entry = some found) :
    found.1.byteSize ≤ entry.byteSize := by
  unfold Item.entryChoice? at h
  split at h
  · cases h
  · obtain ⟨value, hvalue, h⟩ := Option.bind_eq_some_iff.1 h
    cases h
    rw [Json.byteSize]
    exact Nat.le_trans (Json.byteSize_le_of_get? hvalue) (Nat.le_add_left _ _)
  · cases h
    exact Nat.le_refl _

theorem itemsByteSize_entries (entries : List Json) :
    Json.itemsByteSize ((entries.filterMap Item.entryChoice?).map (·.1)) ≤ Json.itemsByteSize entries := by
  induction entries with
  | nil => exact Nat.le_refl 0
  | cons entry rest ih =>
    rw [Json.itemsByteSize]
    cases hentry : Item.entryChoice? entry with
    | none =>
      rw [List.filterMap_cons_none hentry]
      omega
    | some found =>
      have hfound := byteSize_entryChoice? hentry
      rw [List.filterMap_cons_some hentry, List.map_cons, Json.itemsByteSize]
      omega

theorem offersWithin_offersIn (item : Item) (setting : Setting) (values : Fields Json) :
    item.OffersWithin setting.limits (item.offersIn setting values) := by
  have hvalues : (item.offersIn setting values).map (·.value) =
      (item.candidates setting values).map (·.value) := by
    rw [Item.offersIn, List.map_map]; rfl
  rw [Item.OffersWithin, hvalues, Item.candidates]
  cases hfound : item.candidatesOf? (item.choices.bind fun rule => setting.ask? values rule.expression) with
  | none =>
    left
    rw [Option.getD_none, List.map_map]; rfl
  | some candidates =>
    right
    unfold Item.candidatesOf? at hfound
    split at hfound
    · rename_i entries hasked
      cases hfound
      obtain ⟨rule, hrule, hasked⟩ := Option.bind_eq_some_iff.1 hasked
      obtain ⟨tree, htree, hbounds⟩ := bounds_ask? hasked
      refine ⟨rule, tree, hrule, htree, hbounds.shrink ?_⟩
      rw [Option.getD_some, List.map_map]
      exact Nat.add_le_add_left (itemsByteSize_entries entries) _
    · cases hfound

end Form

/-! ### Steps -/

namespace Pass

variable {form : Form} {setting : Setting} {full : Bool} {schedule : Schedule} {pass : Pass}
  {item other : Form.Item} {old : Option Json}

theorem answerOf?_of_values {state next : State} (h : next.values = state.values) :
    next.answerOf? item = state.answerOf? item := by
  have hvalue : next.value? = state.value? := by
    funext answer
    rw [State.value?, h, State.value?]
  rw [State.answerOf?, hvalue, State.answerOf?]

theorem makes_runValue (h : item.Makes setting.limits old (pass.state.answerOf? item)) :
    item.Makes setting.limits old ((runValue setting full pass item).state.answerOf? item) := by
  by_cases hdue : pass.isAnyDue full (item.rulesOf .value) = true
  · cases hanswer : item.answer? with
    | none => simpa only [State.answerOf?, hanswer, Option.bind_none] using h
    | some answer =>
      rw [Form.answerOf?_of_answer hanswer] at h ⊢
      rw [runValue_value? hdue hanswer]
      exact h.overwrite
  · rw [runValue_of_not_due (by simpa using hdue)]
    exact h

theorem makes_runChoices (h : item.Makes setting.limits old (pass.state.answerOf? item)) :
    item.Makes setting.limits old ((runChoices setting full pass item).state.answerOf? item) := by
  by_cases hdue : pass.isAnyDue full (item.rulesOf .choices) = true
  · rw [Form.answerOf?_runChoices hdue]
    exact h.held _
  · cases hanswer : item.answer? with
    | none => simpa only [State.answerOf?, hanswer, Option.bind_none] using h
    | some answer =>
      obtain ⟨answers, hwrites, hall⟩ := runChoices_writes setting full pass item
      rw [Form.answerOf?_of_answer hanswer] at h ⊢
      rw [hwrites.kept answer fun ha => hdue (hall answer ha).2]
      exact h

theorem makes_step_own (h : item.Makes setting.limits old (pass.state.answerOf? item)) :
    item.Makes setting.limits old ((step setting full schedule pass item).state.answerOf? item) := by
  have hflagged : (flagged setting full pass item).state.answerOf? item = pass.state.answerOf? item :=
    answerOf?_of_values flagged_values
  cases hfreezes : schedule.freezes item.index with
  | true =>
    rw [step_of_frozen hfreezes]
    split
    · rw [hflagged]; exact h
    · exact h
  | false =>
    rw [step_of_free hfreezes, runItem_state_eq]
    exact makes_runChoices (makes_runValue (hflagged ▸ h))

/-- The answer of an item is made by its own step, and other steps leave it alone. -/
theorem makes_step (hitem : item ∈ form.items) (hother : other ∈ form.items)
    (h : item.Makes setting.limits old (pass.state.answerOf? item)) :
    item.Makes setting.limits old ((step setting full schedule pass other).state.answerOf? item) := by
  by_cases hsame : other = item
  · rw [hsame]; exact makes_step_own h
  · cases hanswer : item.answer? with
    | none => simpa only [State.answerOf?, hanswer, Option.bind_none] using h
    | some answer =>
      have hkept : (step setting full schedule pass other).state.value? answer = pass.state.value? answer := by
        by_contra hne
        exact hsame (Form.item_ext_answer hother hitem (of_step_value?_ne hother hne) hanswer)
      rw [Form.answerOf?_of_answer hanswer] at h ⊢
      rw [hkept]
      exact h

theorem choices_step (hitem : item ∈ form.items) (hother : other ∈ form.items) :
    (step setting full schedule pass other).state.choices.get? item.id = pass.state.choices.get? item.id ∨
      ∃ offers, (step setting full schedule pass other).state.choices.get? item.id = some offers ∧
        item.OffersWithin setting.limits offers := by
  by_cases hsame : (step setting full schedule pass other).state.choices.get? item.id =
      pass.state.choices.get? item.id
  · exact .inl hsame
  · obtain ⟨hid, hfree, hdue⟩ := of_step_choices_ne hother hsame
    obtain rfl := Form.item_ext_id hother hitem hid
    right
    rw [step_of_free hfree, runItem_state hother]
    simp only [hdue, if_true, NameMap.get?_insert]
    exact ⟨_, rfl, Form.offersWithin_offersIn other setting _⟩

end Pass

/-! ### Passes -/

/-- No value of an expression, or of a part of it, is bigger than the memory limit by more than a slot, unless
a literal of the expression is. So a pass writes no answer that is, but for one that was there before or is
what is left of it, and what it has rules offer is not either. -/
theorem bounds_values :
    (∀ (tree part : Expr) (limits : Limits) (clock : Clock) (ctx : Context) (spent next : Spent)
        (value : Json),
      tree.Contains part → (part.eval ctx : Metered limits clock Json) spent = .ok (value, next) →
      limits.Bounds tree value) ∧
    ∀ (form : Form) (setting : Setting) (state : State) (trigger : Trigger),
      let final := (form.runPass setting state trigger).1
      ∀ item ∈ form.items,
        item.Makes setting.limits (state.answerOf? item) (final.answerOf? item) ∧
        (final.choices.get? item.id = state.choices.get? item.id ∨
          ∃ offers, final.choices.get? item.id = some offers ∧ item.OffersWithin setting.limits offers) := by
  constructor
  · intro tree part limits clock ctx spent next value hpart h
    exact Expr.bounds_of_contains hpart h
  intro form setting state trigger final item hitem
  constructor
  · exact List.foldlRecOn (motive := fun pass : Pass =>
      item.Makes setting.limits (state.answerOf? item) (pass.state.answerOf? item))
      (form.queue trigger) _ .kept fun _ hpass _ hother =>
        Pass.makes_step hitem (Form.mem_queue.1 hother).1 hpass
  · refine List.foldlRecOn (motive := fun pass : Pass =>
      pass.state.choices.get? item.id = state.choices.get? item.id ∨
        ∃ offers, pass.state.choices.get? item.id = some offers ∧ item.OffersWithin setting.limits offers)
      (form.queue trigger) _ (.inl rfl) fun pass hpass other hother => ?_
    rcases Pass.choices_step hitem (Form.mem_queue.1 hother).1 with hsame | hoffers
    · rw [hsame]; exact hpass
    · exact .inr hoffers

/-- The literal that stands in for a missing answer may be big where no memory is allowed at all. What `pick`
gets when `x` changes is made by its value rule. -/
theorem bounds_values_menu :
    let tree : Expr := .logical .nullish (.path .data [.field "x"]) (.literal (.str "nobody"))
    let limits : Limits := { maxMemoryBytes := 0 }
    let changed := Form.menuSettled.setValues [("x", .str "b")]
    let pick := Form.menu.items.get ⟨2, by decide⟩
    (tree.eval ⟨[], .null, .null⟩ : Metered limits .still Json) {} = .ok (.str "nobody", ⟨4, 0⟩) ∧
    limits.Bounds tree (.str "nobody") ∧
    (Form.menu.runPass {} changed (.changed ["x"])).1.answerOf? pick = some (.str "b") ∧
    pick.Makes {} (some (.str "a")) (some (.str "b")) := by
  intro tree limits changed pick
  have hvalue : (tree.eval ⟨[], .null, .null⟩ : Metered limits .still Json) {} =
    .ok (.str "nobody", ⟨4, 0⟩) := rfl
  have horder : (Form.menu.schedule (.changed ["x"])).order = [2] := by decide +kernel
  have hcycles : (Form.menu.schedule (.changed ["x"])).cycles = [] := by decide +kernel
  have hschedule : Form.menu.schedule (.changed ["x"]) = ⟨[2], []⟩ := by rw [← horder, ← hcycles]
  have hanswer : (Form.menu.runPass {} changed (.changed ["x"])).1.answerOf? pick = some (.str "b") := by
    rw [Form.runPass, hschedule]; rfl
  have hmakes := (bounds_values.2 Form.menu {} changed (.changed ["x"]) pick (List.get_mem _ _)).1
  rw [hanswer] at hmakes
  exact ⟨hvalue, bounds_values.1 tree tree limits .still ⟨[], .null, .null⟩ {} ⟨4, 0⟩ _ .whole hvalue, hanswer,
    hmakes⟩

end Formwork
