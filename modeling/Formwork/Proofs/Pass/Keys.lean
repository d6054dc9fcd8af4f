import Formwork.Proofs.Pass.Frame

/-!
# The names that a pass fills in

A step fills in flags and choices by the id of its item and by no other name. A pass over all rules
goes through every item and sets both flags of each, frozen or not, so afterwards the names with flags
are the ids of the items (`Form.keyedBy_runPass`). No later pass adds a name or takes one away.
-/

namespace Formwork

/-- The names of a map are the given ones. -/
def NameMap.KeyedBy {α : Type} (map : NameMap α) (names : List String) : Prop :=
  ∀ name, map.has name = true ↔ name ∈ names

namespace Form

variable {form : Form} {setting : Setting} {state : State} {trigger : Trigger} {item : Item}
  {items : List Item} {name : String} {full : Bool} {schedule : Schedule} {pass before after : Pass}

/-- The ids of the items of a form. -/
def itemIds (form : Form) : List String := form.items.map (·.id)

theorem mem_itemIds : name ∈ form.itemIds ↔ ∃ item ∈ form.items, item.id = name := List.mem_map

/-! ### Flags -/

/-- A step sets at most the flag of its item in a map, and sets it if all rules run. -/
def SetsFlag (map : State → NameMap Bool) (full : Bool) (item : Item) (before after : Pass) : Prop :=
  ∃ due value, (full = true → due = true) ∧
    map after.state = if due then (map before.state).insert item.id value else map before.state

theorem step_flags (hitem : item ∈ form.items) :
    (full = false ∧ (Pass.step setting full schedule pass item).state = pass.state) ∨
    ((Pass.step setting full schedule pass item).state.visibility =
        (Pass.flagged setting full pass item).state.visibility ∧
      (Pass.step setting full schedule pass item).state.readOnly =
        (Pass.flagged setting full pass item).state.readOnly) := by
  cases hfrozen : schedule.freezes item.index with
  | true =>
    rw [Pass.step_of_frozen hfrozen]
    cases full with
    | true => exact .inr ⟨rfl, rfl⟩
    | false => exact .inl ⟨rfl, rfl⟩
  | false =>
    rw [Pass.step_of_free hfrozen, Pass.runItem_state hitem]
    exact .inr ⟨rfl, rfl⟩

theorem setsFlag_visibility (hitem : item ∈ form.items) :
    SetsFlag State.visibility full item pass (Pass.step setting full schedule pass item) := by
  rcases step_flags hitem with ⟨hfull, hstate⟩ | ⟨hflags, -⟩
  · exact ⟨false, true, fun h => (by cases hfull.symm.trans h), (congrArg State.visibility hstate :)⟩
  · rw [Pass.flagged_state] at hflags
    exact ⟨_, _, fun h => by rw [h]; rfl, hflags⟩

theorem setsFlag_readOnly (hitem : item ∈ form.items) :
    SetsFlag State.readOnly full item pass (Pass.step setting full schedule pass item) := by
  rcases step_flags hitem with ⟨hfull, hstate⟩ | ⟨-, hflags⟩
  · exact ⟨false, true, fun h => (by cases hfull.symm.trans h), (congrArg State.readOnly hstate :)⟩
  · rw [Pass.flagged_state] at hflags
    exact ⟨_, _, fun h => by rw [h]; rfl, hflags⟩

theorem SetsFlag.has_iff {map : State → NameMap Bool} (h : SetsFlag map full item before after)
    (name : String) :
    ((map before.state).has name = true → (map after.state).has name = true) ∧
    ((map after.state).has name = true → (map before.state).has name = true ∨ name = item.id) ∧
    (full = true → name = item.id → (map after.state).has name = true) := by
  obtain ⟨due, value, hfull, hmap⟩ := h
  rw [hmap]
  cases due with
  | true =>
    rw [if_pos rfl]
    simp only [NameMap.has_insert]
    exact ⟨.inr, Or.symm, fun _ => .inl⟩
  | false => exact ⟨fun h => h, .inl, fun h => by cases hfull h⟩

/-- Steps that set flags add no names but the ids of their items, and all of these if all rules run. -/
theorem has_foldl_iff {map : State → NameMap Bool} {step : Pass → Item → Pass}
    (hstep : ∀ pass, ∀ item ∈ items, SetsFlag map full item pass (step pass item)) (pass : Pass)
    (name : String) :
    ((map pass.state).has name = true → (map (items.foldl step pass).state).has name = true) ∧
    ((map (items.foldl step pass).state).has name = true →
      (map pass.state).has name = true ∨ ∃ item ∈ items, item.id = name) ∧
    (full = true → (∃ item ∈ items, item.id = name) →
      (map (items.foldl step pass).state).has name = true) := by
  induction items generalizing pass with
  | nil =>
    refine ⟨fun h => h, .inl, fun _ h => ?_⟩
    obtain ⟨item, hitem, -⟩ := h
    cases hitem
  | cons item items ih =>
    obtain ⟨hkept, hadded, hset⟩ := (hstep pass item List.mem_cons_self).has_iff name
    obtain ⟨hkept', hadded', hset'⟩ := ih
      (fun pass other hother => hstep pass other (List.mem_cons_of_mem _ hother)) (step pass item)
    -- the first step sets its own flag, and the others keep it
    refine ⟨fun h => hkept' (hkept h), fun h => ?_, fun hfull h => ?_⟩
    · rcases hadded' h with h | ⟨other, hother, hid⟩
      · rcases hadded h with h | h
        · exact .inl h
        · exact .inr ⟨item, List.mem_cons_self, h.symm⟩
      · exact .inr ⟨other, List.mem_cons_of_mem _ hother, hid⟩
    · obtain ⟨other, hother, hid⟩ := h
      rcases List.mem_cons.1 hother with rfl | hother
      · exact hkept' (hset hfull hid.symm)
      · exact hset' hfull ⟨other, hother, hid⟩

/-- After a pass every item has its flag and nothing else has, if all rules run or it was so before. -/
theorem keyedBy_runPass {map : State → NameMap Bool}
    (hstep : ∀ full schedule pass, ∀ item ∈ form.items,
      SetsFlag map full item pass (Pass.step setting full schedule pass item))
    (hstart : trigger = .full ∧ map state = .empty ∨ (map state).KeyedBy form.itemIds) :
    (map (form.runPass setting state trigger).1).KeyedBy form.itemIds := by
  intro name
  have hqueue : ∀ pass, ∀ item ∈ form.queue trigger, SetsFlag map trigger.isFull item pass
      (Pass.step setting trigger.isFull (form.schedule trigger) pass item) :=
    fun pass item hitem => hstep trigger.isFull (form.schedule trigger) pass item (mem_queue.1 hitem).1
  obtain ⟨hkept, hadded, hset⟩ :=
    has_foldl_iff hqueue (form.openPass state trigger (form.schedule trigger)) name
  have hids : (∃ item ∈ form.queue trigger, item.id = name) → name ∈ form.itemIds :=
    fun ⟨item, hitem, hid⟩ => mem_itemIds.2 ⟨item, (mem_queue.1 hitem).1, hid⟩
  rcases hstart with ⟨rfl, hempty⟩ | hkeyed
  · refine ⟨fun h => ?_, fun h => ?_⟩
    · rcases hadded h with h | h
      · rw [show map (form.openPass state .full (form.schedule .full)).state = .empty from hempty] at h
        cases h
      · exact hids h
    · obtain ⟨item, hitem, hid⟩ := mem_itemIds.1 h
      exact hset rfl ⟨item, mem_queue.2 ⟨hitem, mem_candidates_full hitem⟩, hid⟩
  · refine ⟨fun h => ?_, fun h => hkept ((hkeyed name).2 h)⟩
    rcases hadded h with h | h
    · exact (hkeyed name).1 h
    · exact hids h

/-! ### Choices -/

/-- A pass adds choices only by the ids of items that have options or a rule for them. -/
theorem has_choices_runPass (h : (form.runPass setting state trigger).1.choices.has name = true) :
    state.choices.has name = true ∨
      ∃ item ∈ form.items, item.id = name ∧ (item.options ≠ [] ∨ item.choices.isSome = true) := by
  by_cases hsame : (form.runPass setting state trigger).1.choices.get? name = state.choices.get? name
  · exact .inl (by rwa [NameMap.has, hsame] at h)
  · obtain ⟨before, item, after, hqueue, hne⟩ := exists_step_ne (fun state => state.choices.get? name) hsame
    have hitem := mem_items_of_queue hqueue
    obtain ⟨hid, -, hdue⟩ := Pass.of_step_choices_ne hitem hne
    refine .inr ⟨item, hitem, hid, ?_⟩
    rcases Pass.offersDue_iff.1 hdue with ⟨-, hoptions⟩ | hrules
    · exact .inl hoptions
    · -- a rule for the choices is the choices rule or one of an option
      obtain ⟨rule, hrule⟩ := List.exists_mem_of_ne_nil _ (Pass.rulesOf_ne_nil_of_due hrules)
      rcases List.mem_append.1 hrule with hrule | hrule
      · exact .inr (by cases hchoices : item.choices <;> simp [hchoices] at hrule ⊢)
      · obtain ⟨choice, hchoice, -⟩ := List.mem_flatMap.1 hrule
        exact .inl (List.ne_nil_of_mem hchoice)

end Form
end Formwork
