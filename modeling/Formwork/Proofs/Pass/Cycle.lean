import Formwork.Proofs.Pass.Reorder

/-!
# What a reported cycle is

The items on a cycle have rules for their answers, and each of them leads to each along links between
them: the derived rules of the next item declare the answer of the one before (`Form.Linked`). This is so
because a path between two nodes of a component does not leave the component
(`Graph.exists_steps_of_mem_cycle`). But a link can come from any of the four slots: an item that is shown
where another has an answer, and that other one, if it takes its answer from the first, are on a cycle
(`cycles_without_feedback`). It is only where no flag rule of an item on the cycle declares the answer of
another that the rules for answers are known to feed back into each other.
-/

namespace Formwork.Form

open Definition (Slot)

/-- Between items of a group: rules of the second, in one of the slots, declare the answer of the first. -/
def Linked (form : Form) (slots : List Slot) (group : List String) (name next : String) : Prop :=
  name ∈ group ∧ next ∈ group ∧ ∃ first ∈ form.items, ∃ second ∈ form.items,
    first.id = name ∧ second.id = next ∧
      ∃ answer slot, first.answer? = some answer ∧ slot ∈ slots ∧ answer ∈ second.declared slot

/-- From each item of a group a chain of links leads to each, also back to itself. -/
def FeedsBack (form : Form) (slots : List Slot) (group : List String) : Prop :=
  ∀ name ∈ group, ∀ next ∈ group, Relation.TransGen (form.Linked slots group) name next

/-- No rule for a flag of an item of the group declares the answer of one of them. -/
def KeepsFlagsApart (form : Form) (group : List String) : Prop :=
  ∀ first ∈ form.items, first.id ∈ group → ∀ second ∈ form.items, second.id ∈ group →
    ∀ answer, first.answer? = some answer →
      answer ∉ second.declared .visible ∧ answer ∉ second.declared .readOnly

variable {form : Form} {trigger : Trigger} {cycle : List Nat} {slots : List Slot} {i : Nat}

theorem cycles_runPass (form : Form) (setting : Setting) (state : State) (trigger : Trigger) :
    (form.runPass setting state trigger).2.cycles =
      (form.schedule trigger).cycles.map (·.map form.itemId) :=
  (runPass_writes form setting state trigger).1.cycles

/-- A step on a cycle is a link, so a cycle feeds back into itself through the slots by which its items
wait for each other. -/
theorem feedsBack_of_mem_cycles (h : cycle ∈ (form.schedule trigger).cycles)
    (hslots : ∀ first ∈ form.items, first.index ∈ cycle → ∀ second ∈ form.items, second.index ∈ cycle →
      ∀ answer, first.answer? = some answer → ∀ slot, answer ∈ second.declared slot → slot ∈ slots) :
    form.FeedsBack slots (cycle.map form.itemId) := by
  intro name hname next hnext
  obtain ⟨i, hi, rfl⟩ := List.mem_map.1 hname
  obtain ⟨j, hj, rfl⟩ := List.mem_map.1 hnext
  have hsteps := Graph.exists_steps_of_mem_cycle dependencyGraph_closed h hi hj
  refine hsteps.lift form.itemId fun i j ⟨hi, hj, hstep⟩ => ?_
  refine ⟨List.mem_map_of_mem hi, List.mem_map_of_mem hj, ?_⟩
  obtain ⟨first, hfirst, second, hsecond, rfl, rfl, answer, hproduced, hdeclared⟩ := exists_of_mem_next hstep
  obtain ⟨slot, hslot⟩ := Item.mem_derivedDependencies.1 hdeclared
  have hanswer := Item.answer?_of_produced? hproduced
  exact ⟨first, hfirst, second, hsecond, (itemId_index hfirst).symm, (itemId_index hsecond).symm, answer,
    slot, hanswer, hslots first hfirst hi second hsecond hj answer hanswer slot hslot, hslot⟩

theorem producesAnswer_of_mem_cycle (h : cycle ∈ (form.schedule trigger).cycles) (hi : i ∈ cycle) :
    ∃ item ∈ form.items, item.id = form.itemId i ∧ item.producesAnswer = true := by
  have hsteps := Graph.exists_steps_of_mem_cycle dependencyGraph_closed h hi hi
  obtain ⟨j, ⟨-, -, hnext⟩, -⟩ := Relation.TransGen.head'_iff.1 hsteps
  obtain ⟨item, hitem, -, -, rfl, -, answer, hproduced, -⟩ := exists_of_mem_next hnext
  refine ⟨item, hitem, (itemId_index hitem).symm, ?_⟩
  rw [Item.produced?] at hproduced
  split at hproduced
  · assumption
  · cases hproduced

/-- An item is frozen if and only if it is in a reported group. The items of a group have rules for their
answers and feed back into each other, each through any of its derived rules. They do so through the
rules for answers alone if no flag among them depends on an answer among them. -/
theorem reports_feedback (form : Form) (setting : Setting) (state : State) (trigger : Trigger) :
    let cycles := (form.runPass setting state trigger).2.cycles
    (∀ item ∈ form.items, form.freezes trigger item = true ↔ ∃ group ∈ cycles, item.id ∈ group) ∧
    ∀ group ∈ cycles,
      (∀ name ∈ group, ∃ item ∈ form.items, item.id = name ∧ item.producesAnswer = true) ∧
      form.FeedsBack [.visible, .readOnly, .value, .choices] group ∧
      (form.KeepsFlagsApart group → form.FeedsBack [.value, .choices] group) := by
  intro cycles
  have hcycles : cycles = (form.schedule trigger).cycles.map (·.map form.itemId) :=
    cycles_runPass form setting state trigger
  rw [hcycles]
  refine ⟨fun item hitem => freezes_iff hitem, fun group hgroup => ?_⟩
  obtain ⟨cycle, hcycle, rfl⟩ := List.mem_map.1 hgroup
  refine ⟨fun name hname => ?_, ?_, fun hapart => ?_⟩
  · obtain ⟨i, hi, rfl⟩ := List.mem_map.1 hname
    exact producesAnswer_of_mem_cycle hcycle hi
  · refine feedsBack_of_mem_cycles hcycle fun _ _ _ second _ _ answer _ slot hslot => ?_
    cases slot with
    | visible | readOnly | value | choices => decide
    | validation | nextView => cases hslot
  · refine feedsBack_of_mem_cycles hcycle fun first hfirst hi second hsecond hj answer hanswer slot hslot => ?_
    have hnot := hapart first hfirst (itemId_index hfirst ▸ List.mem_map_of_mem hi) second hsecond
      (itemId_index hsecond ▸ List.mem_map_of_mem hj) answer hanswer
    cases slot with
    | visible => exact absurd hslot hnot.1
    | readOnly => exact absurd hslot hnot.2
    | value | choices => decide
    | validation | nextView => cases hslot

/-! ### A cycle through a flag -/

/-- The answer of `b` repeats that of `x`, and that of `a` repeats that of `b`, which is shown where `a`
has one. -/
def crossedDefinition : Definition where
  id := "crossed"
  title := "Crossed"
  version := "1"
  views := [{ id := "only", items := [
    { id := "b", kind := .text, value := some ⟨"data.x", ["x"]⟩, visible := some ⟨"data.a", ["a"]⟩ },
    { id := "a", kind := .text, value := some ⟨"data.b", ["b"]⟩ },
    { id := "x", kind := .text }] }]

/-- The views of `crossedDefinition`, with the rules parsed. -/
def crossedViews : List View :=
  [⟨0, crossedDefinition.views[0], none, none, [
    ⟨0, 0, crossedDefinition.items[0],
      some ⟨⟨"data.a", .ok (.path .data [.field "a"])⟩, ["a"]⟩, none,
      some ⟨⟨"data.x", .ok (.path .data [.field "x"])⟩, ["x"]⟩, none, [], [], none⟩,
    ⟨1, 0, crossedDefinition.items[1], none, none,
      some ⟨⟨"data.b", .ok (.path .data [.field "b"])⟩, ["b"]⟩, none, [], [], none⟩,
    ⟨2, 0, crossedDefinition.items[2], none, none, none, none, [], [], none⟩]⟩]

theorem crossedViews_eq : crossedViews = View.ofDefinitions 0 0 crossedDefinition.views := by
  have ha : (Token.scan "data.a").toOption =
      some [⟨.ident "data", 0⟩, ⟨.dot, 4⟩, ⟨.ident "a", 5⟩] := by decide +kernel
  have hb : (Token.scan "data.b").toOption =
      some [⟨.ident "data", 0⟩, ⟨.dot, 4⟩, ⟨.ident "b", 5⟩] := by decide +kernel
  have hx : (Token.scan "data.x").toOption =
      some [⟨.ident "data", 0⟩, ⟨.dot, 4⟩, ⟨.ident "x", 5⟩] := by decide +kernel
  rw [crossedViews, ← Expression.parse_field ha, ← Expression.parse_field hb, ← Expression.parse_field hx]; rfl

def crossed : Form where
  definition := crossedDefinition
  sound := by decide
  views := crossedViews
  views_eq := crossedViews_eq
  items := _
  items_eq := rfl
  index := _
  index_eq := rfl

/-- Only the flag of `b` depends on the answer of `a`, and yet `b` is frozen with it. -/
theorem cycles_without_feedback :
    ¬ ∀ (form : Form) (setting : Setting) (state : State) (trigger : Trigger),
      ∀ group ∈ (form.runPass setting state trigger).2.cycles,
        ∀ name ∈ group, ∀ next ∈ group, name ≠ next →
          Relation.TransGen (form.Linked [.value, .choices] group) name next := by
  intro h
  have hgroup : ["b", "a"] ∈ (crossed.runPass {} {} .full).2.cycles := by decide +kernel
  have hchain := h crossed {} {} .full ["b", "a"] hgroup "a" (by decide) "b" (by decide) (by decide)
  obtain ⟨next, ⟨-, -, first, hfirst, second, hsecond, hname, -, answer, slot, hanswer, hslot, hdeclared⟩, -⟩ :=
    Relation.TransGen.head'_iff.1 hchain
  have ha : ∀ first ∈ crossed.items, first.id = "a" → first.answer? = some "a" := by decide
  have hnone : ∀ second ∈ crossed.items, ∀ slot ∈ [Slot.value, .choices], "a" ∉ second.declared slot := by
    decide
  obtain rfl : answer = "a" := Option.some.inj (hanswer.symm.trans (ha first hfirst hname))
  exact hnone second hsecond slot hslot hdeclared

end Formwork.Form
