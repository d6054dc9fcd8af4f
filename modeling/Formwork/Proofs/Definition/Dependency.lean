import Formwork.Definition.Dependency
import Formwork.Proofs.Names

/-!
# What the dependency index holds

The dependents of an answer are the places of the rules that declare it
(`mem_dependents_ofDefinition`), and its dependent items are those with a derived rule that does
(`mem_dependentItems_ofDefinition`).
-/

namespace Formwork.DependencyIndex

open Definition (Dependent Slot)

variable {index : DependencyIndex} {answer other : String} {dependent place : Dependent}

theorem mem_dependents_add : dependent ∈ (index.add answer place).dependents other ↔
    dependent ∈ index.dependents other ∨ other = answer ∧ dependent = place := by
  simp only [dependents, add, NameMap.get?_insert]
  by_cases hother : other = answer
  · subst hother
    by_cases hknown : place ∈ (index.get? other).getD []
    · simp only [hknown, List.contains_iff_mem, ↓reduceIte, Option.getD_some, true_and]
      exact ⟨.inl, fun h => h.elim id (· ▸ hknown)⟩
    · simp [hknown]
  · simp [hother]

theorem mem_dependents_declare {answers : List String} :
    dependent ∈ (index.declare (place, answers)).dependents other ↔
      dependent ∈ index.dependents other ∨ dependent = place ∧ other ∈ answers := by
  rw [declare]
  induction answers generalizing index with
  | nil => simp
  | cons answer answers ih =>
    rw [List.foldl_cons, ih, mem_dependents_add, List.mem_cons]
    tauto

theorem mem_dependents_declareAll {declarations : List (Dependent × List String)} :
    dependent ∈ (declarations.foldl declare index).dependents other ↔
      dependent ∈ index.dependents other ∨
        ∃ answers, (dependent, answers) ∈ declarations ∧ other ∈ answers := by
  induction declarations generalizing index with
  | nil => simp
  | cons declaration declarations ih =>
    obtain ⟨place, answers⟩ := declaration
    rw [List.foldl_cons, ih, mem_dependents_declare]
    constructor
    · rintro ((h | ⟨rfl, h⟩) | ⟨answers', h, h'⟩)
      · exact .inl h
      · exact .inr ⟨answers, by simp, h⟩
      · exact .inr ⟨answers', by simp [h], h'⟩
    · rintro (h | ⟨answers', h, h'⟩)
      · exact .inl (.inl h)
      · rcases List.mem_cons.1 h with h | h
        · cases h; exact .inl (.inr ⟨rfl, h'⟩)
        · exact .inr ⟨answers', h, h'⟩

variable {definition : Definition}

/-- The index holds what is declared, and nothing else. -/
theorem mem_dependents_ofDefinition : dependent ∈ (ofDefinition definition).dependents answer ↔
    ∃ answers, (dependent, answers) ∈ definition.declarations ∧ answer ∈ answers := by
  rw [ofDefinition, mem_dependents_declareAll]
  simp [dependents]

theorem mem_declarations_item {i : Nat} {slot : Slot} {answers : List String} :
    (.item i slot, answers) ∈ definition.declarations ↔
      ∃ item, definition.items[i]? = some item ∧ (slot, answers) ∈ item.declarations := by
  simp [Definition.declarations, List.mem_zipIdx_iff_getElem?]

theorem mem_declarations_view {i : Nat} {slot : Slot} {answers : List String} :
    (.view i slot, answers) ∈ definition.declarations ↔
      ∃ view, definition.views[i]? = some view ∧ (slot, answers) ∈ view.declarations := by
  simp [Definition.declarations, List.mem_zipIdx_iff_getElem?]

/-- The dependent items of an answer are those with a derived rule that declares it. -/
theorem mem_dependentItems_ofDefinition {i : Nat} :
    i ∈ (ofDefinition definition).dependentItems answer ↔
      ∃ item, definition.items[i]? = some item ∧ ∃ slot answers,
        (slot, answers) ∈ item.declarations ∧ slot.isDerived = true ∧ answer ∈ answers := by
  rw [dependentItems, List.mem_filterMap]
  constructor
  · rintro ⟨dependent, hd, hi⟩
    obtain ⟨answers, hd, ha⟩ := mem_dependents_ofDefinition.1 hd
    cases dependent with
    | view => cases hi
    | item j slot =>
      rw [Dependent.derivedItem?] at hi
      split at hi
      · rename_i hslot
        cases hi
        obtain ⟨item, hitem, hmem⟩ := mem_declarations_item.1 hd
        exact ⟨item, hitem, slot, answers, hmem, hslot, ha⟩
      · cases hi
  · rintro ⟨item, hitem, slot, answers, hmem, hslot, ha⟩
    exact ⟨.item i slot,
      mem_dependents_ofDefinition.2 ⟨answers, mem_declarations_item.2 ⟨item, hitem, hmem⟩, ha⟩,
      if_pos hslot⟩

end Formwork.DependencyIndex
