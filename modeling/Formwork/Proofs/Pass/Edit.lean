import Formwork.Proofs.Pass.Evaluation

/-!
# Where the answers that a pass writes come from

An answer that a pass writes after an edit goes back to an edited answer: a path of items that feed
each other leads from a dependent of the edit to the item that writes (`exists_leads`). If the written
answer is edited itself, the path cannot start at its own dependents, since then the item would be on
a cycle and frozen (`exists_other_edit`).
-/

namespace Formwork.Form

variable {form : Form} {setting : Setting} {state : State} {item : Item} {before after : List Item}
  {edited : List String} {answer : String}

/-- An item that has a rule for its answer due is at the end of a path from a dependent of an edited
answer. -/
theorem exists_leads (hqueue : form.queue (.changed edited) = before ++ item :: after)
    (hdue : (form.passAfter setting state (.changed edited) before).Decides false item) :
    ∃ id ∈ edited, ∃ first ∈ form.index.dependentItems id,
      (form.dependencyGraph (form.candidates (.changed edited))).Leads first item.index := by
  induction hlen : before.length using Nat.strong_induction_on generalizing before item after with
  | _ length ih
  subst hlen
  have hitem := mem_items_of_queue hqueue
  have hcandidate := mem_candidates_of_queue hqueue
  obtain ⟨d, hdep, hhas⟩ : ∃ d ∈ item.derivedDependencies,
      (form.passAfter setting state (.changed edited) before).changed.has d = true := by
    rcases hdue with hdue | hdue
    all_goals
      obtain ⟨d, hdeclared, hhas⟩ := (Pass.isAnyDue_iff.1 hdue).resolve_left fun h => by cases h.1
      exact ⟨d, Item.mem_derivedDependencies.2 ⟨_, hdeclared⟩, hhas⟩
  have hitems : ∀ other ∈ before, other ∈ form.items := fun other hother =>
    (mem_queue.1 (hqueue ▸ List.mem_append_left _ hother)).1
  obtain ⟨answers, hwrites, hall⟩ := passAfter_writes setting state (.changed edited)
    [] hitems
  rw [List.nil_append] at hwrites
  rcases (hwrites.changed d).1 hhas with hhas | hhas
  · -- the item depends on an edited answer
    exact ⟨d, NameSet.has_ofNames.1 hhas, item.index, (mem_dependentItems_index hitem).2 hdep, .refl⟩
  · -- the item depends on one that was written before
    obtain ⟨middle, other, tail, rfl, -, hanswer, hdecides⟩ := hall d hhas
    have hother : form.queue (.changed edited) = middle ++ other :: (tail ++ item :: after) := by
      rw [hqueue]; simp
    obtain ⟨id, hid, first, hfirst, hleads⟩ := ih middle.length (by simp) hother hdecides rfl
    exact ⟨id, hid, first, hfirst, hleads.tail
      ((mem_next_dependencyGraph (mem_items_of_queue hother) hitem).2
        ⟨mem_candidates_of_queue hother, hcandidate, d, produced?_of_decides hanswer hdecides, hdep⟩)⟩

/-- If a pass writes an answer, its item is not frozen, and it is affected by the edit of another
answer. -/
theorem exists_other_edit
    (h : answer ∈ (form.runPass setting state (.changed edited)).2.changedAnswers) :
    ∃ item ∈ form.items, item.answer? = some answer ∧ form.freezes (.changed edited) item = false ∧
      ∃ id ∈ edited, id ≠ answer ∧ item.index ∈ form.affected [id] := by
  obtain ⟨before, item, after, hqueue, hfree, hanswer, hdue⟩ := exists_writer h
  have hitem := mem_items_of_queue hqueue
  have hcandidate := mem_candidates_of_queue hqueue
  obtain ⟨id, hid, first, hfirst, hleads⟩ := exists_leads hqueue hdue
  refine ⟨item, hitem, hanswer, hfree, id, hid, fun heq => ?_, ?_⟩
  · -- the item feeds the start of the path, which closes a cycle
    obtain ⟨other, hget, hdep⟩ := mem_dependentItems.1 hfirst
    have hother : other ∈ form.items := List.mem_of_getElem? hget
    have hfeeds : item.Feeds other := ⟨answer, produced?_of_decides hanswer hdue, heq ▸ hdep⟩
    have haffected : other.index ∈ form.candidates (.changed edited) :=
      mem_affected_of_declared hother hid hdep
    rw [← index_eq_of_getElem? hget] at hleads
    have hnext := (mem_next_dependencyGraph hitem hother).2 ⟨hcandidate, haffected, hfeeds⟩
    have hfrozen := freezes_of_joined hcandidate
      (fun heq => hfeeds.ne hitem (item_ext_index hitem hother heq)) ⟨.single hnext, hleads⟩
    rw [hfree] at hfrozen; cases hfrozen
  · exact mem_affected.2 ⟨id, List.mem_singleton_self id, first, hfirst,
      hleads.mono fun _ _ => next_influence_of_next⟩

/-- A pass after the edit of one answer does not write it. -/
theorem notMem_changedAnswers_of_edit :
    answer ∉ (form.runPass setting state (.changed [answer])).2.changedAnswers := by
  intro h
  obtain ⟨-, -, -, -, id, hid, hne, -⟩ := exists_other_edit h
  exact hne (List.mem_singleton.1 hid)

end Formwork.Form
