import Formwork.Pass.Run
import Formwork.Proofs.Graph.Schedule
import Formwork.Proofs.Pass.Affected

/-!
# The order of a pass

A pass goes through its queue: the items that its trigger can affect, each once
(`mem_queue`, `nodup_queue`). An item that feeds another, by writing an answer that the other
depends on, stands before it unless it is frozen (`mem_before_of_feeds`).
-/

namespace Formwork.Form

variable {form : Form} {item other : Item} {i j : Nat} {candidates : List Nat}

/-! ### Graphs -/

theorem producer?_eq_some_iff {answer : String} : form.producer? candidates j answer = some i ↔
    ∃ item ∈ form.items, item.index = i ∧ i ≠ j ∧ i ∈ candidates ∧ item.produced? = some answer := by
  rw [producer?, Option.bind_eq_some_iff]
  simp only [itemOf?_eq_some_iff, Item.produced?_eq_some_iff, Option.ite_none_right_eq_some, Bool.and_eq_true,
    bne_iff_ne, List.contains_iff_mem, Option.some.injEq]
  constructor
  · rintro ⟨item, ⟨hitem, hanswer⟩, ⟨⟨hne, hproduces⟩, hcandidate⟩, rfl⟩
    exact ⟨item, hitem, rfl, hne, hcandidate, hanswer, hproduces⟩
  · rintro ⟨item, hitem, rfl, hne, hcandidate, hanswer, hproduces⟩
    exact ⟨item, ⟨hitem, hanswer⟩, ⟨⟨hne, hproduces⟩, hcandidate⟩, rfl⟩

/-- The producers of an item are the candidates that feed it. -/
theorem mem_producers (hitem : item ∈ form.items) (hother : other ∈ form.items) :
    item.index ∈ form.producers candidates other.index ↔ item.index ∈ candidates ∧ item.Feeds other := by
  rw [producers, mem_eraseReps, (ascending_perm _).mem_iff, List.mem_filterMap, getElem?_index hother]
  simp only [Option.map_some, Option.getD_some, producer?_eq_some_iff]
  constructor
  · rintro ⟨answer, hdep, first, hfirst, hindex, -, hcandidate, hproduced⟩
    obtain rfl := item_ext_index hfirst hitem hindex
    exact ⟨hcandidate, answer, hproduced, hdep⟩
  · rintro ⟨hcandidate, answer, hproduced, hdep⟩
    have hne : item.index ≠ other.index := fun heq =>
      Item.Feeds.ne ⟨answer, hproduced, hdep⟩ hitem (item_ext_index hitem hother heq)
    exact ⟨answer, hdep, item, hitem, rfl, hne, hcandidate, hproduced⟩

theorem exists_of_mem_producers (h : i ∈ form.producers candidates j) :
    ∃ item ∈ form.items, ∃ other ∈ form.items, item.index = i ∧ other.index = j := by
  rw [producers, mem_eraseReps, (ascending_perm _).mem_iff, List.mem_filterMap] at h
  obtain ⟨answer, hdep, hproducer⟩ := h
  obtain ⟨item, hitem, hi, -⟩ := producer?_eq_some_iff.1 hproducer
  cases hother : form.items[j]? with
  | none => rw [hother] at hdep; cases hdep
  | some other => exact ⟨item, hitem, other, List.mem_of_getElem? hother, hi, index_eq_of_getElem? hother⟩

theorem mem_next_dependencyGraph (hitem : item ∈ form.items) (hother : other ∈ form.items) :
    other.index ∈ (form.dependencyGraph candidates).next item.index ↔
      item.index ∈ candidates ∧ other.index ∈ candidates ∧ item.Feeds other := by
  rw [dependencyGraph, Graph.mem_next_ofSources, mem_producers hitem hother]
  exact and_left_comm

theorem exists_of_mem_next (h : j ∈ (form.dependencyGraph candidates).next i) :
    ∃ item ∈ form.items, ∃ other ∈ form.items, item.index = i ∧ other.index = j ∧ item.Feeds other := by
  obtain ⟨item, hitem, other, hother, rfl, rfl⟩ :=
    exists_of_mem_producers (Graph.mem_next_ofSources.1 h).2
  exact ⟨item, hitem, other, hother, rfl, rfl, ((mem_next_dependencyGraph hitem hother).1 h).2.2⟩

theorem dependencyGraph_closed : (form.dependencyGraph candidates).Closed := by
  intro i hi j hj
  obtain ⟨item, hitem, other, hother, rfl, rfl, -⟩ := exists_of_mem_next hj
  exact ((mem_next_dependencyGraph hitem hother).1 hj).2.1

theorem dependencyGraph_loopless (i : Nat) : i ∉ (form.dependencyGraph candidates).next i := by
  intro h
  obtain ⟨item, hitem, other, hother, hi, hj, hfeeds⟩ := exists_of_mem_next h
  exact hfeeds.ne hitem (item_ext_index hitem hother (hi.trans hj.symm))

theorem next_influence_of_next (h : j ∈ (form.dependencyGraph candidates).next i) :
    j ∈ form.influence.next i :=
  mem_next_influence.2 (exists_of_mem_next h)

/-! ### The queue -/

variable {trigger : Trigger} {before after : List Item}

/-- The items that a pass goes through, in order. -/
def queue (form : Form) (trigger : Trigger) : List Item := form.scheduled (form.schedule trigger)

/-- Whether a pass freezes an item. -/
def freezes (form : Form) (trigger : Trigger) (item : Item) : Bool :=
  (form.schedule trigger).freezes item.index

theorem ascending_candidates (form : Form) (trigger : Trigger) :
    (form.candidates trigger).Pairwise (· < ·) := by
  cases trigger with
  | full => exact List.pairwise_lt_range
  | changed answers => exact ascending_affected form answers

theorem candidates_nodup : (form.candidates trigger).Nodup :=
  (ascending_candidates form trigger).imp Nat.ne_of_lt

theorem exists_item_of_mem_candidates (h : i ∈ form.candidates trigger) :
    ∃ item, form.items[i]? = some item := by
  have hlt : i < form.items.length := by
    cases trigger with
    | full => exact List.mem_range.1 h
    | changed answers => exact lt_of_mem_affected h
  exact ⟨_, List.getElem?_eq_getElem hlt⟩

theorem mem_candidates_full (hitem : item ∈ form.items) : item.index ∈ form.candidates .full :=
  List.mem_range.2 (List.getElem?_eq_some_iff.1 (getElem?_index hitem)).1

theorem schedule_order_perm : (form.schedule trigger).order.Perm (form.candidates trigger) :=
  Graph.schedule_perm dependencyGraph_closed (ascending_candidates form trigger) dependencyGraph_loopless

theorem map_index_queue : (form.queue trigger).map (·.index) = (form.schedule trigger).order := by
  have hvalid : ∀ i ∈ (form.schedule trigger).order, ∃ item, form.items[i]? = some item :=
    fun i hi => exists_item_of_mem_candidates (schedule_order_perm.mem_iff.1 hi)
  rw [queue, scheduled]
  generalize (form.schedule trigger).order = order at hvalid
  induction order with
  | nil => rfl
  | cons i order ih =>
    obtain ⟨item, hitem⟩ := hvalid i (by simp)
    rw [List.filterMap_cons_some hitem, List.map_cons, index_eq_of_getElem? hitem,
      ih fun j hj => hvalid j (by simp [hj])]

theorem mem_queue : item ∈ form.queue trigger ↔
    item ∈ form.items ∧ item.index ∈ form.candidates trigger := by
  rw [queue, scheduled, List.mem_filterMap]
  constructor
  · rintro ⟨i, hi, hitem⟩
    refine ⟨List.mem_of_getElem? hitem, ?_⟩
    rw [index_eq_of_getElem? hitem]; exact schedule_order_perm.mem_iff.1 hi
  · rintro ⟨hitem, hi⟩
    exact ⟨item.index, schedule_order_perm.mem_iff.2 hi, getElem?_index hitem⟩

theorem mem_items_of_queue (h : form.queue trigger = before ++ item :: after) : item ∈ form.items :=
  (mem_queue.1 (h ▸ List.mem_append_right before List.mem_cons_self)).1

theorem mem_candidates_of_queue (h : form.queue trigger = before ++ item :: after) :
    item.index ∈ form.candidates trigger :=
  (mem_queue.1 (h ▸ List.mem_append_right before List.mem_cons_self)).2

theorem nodup_queue : (form.queue trigger).Nodup :=
  List.Nodup.of_map (·.index) (map_index_queue ▸ schedule_order_perm.nodup_iff.2 candidates_nodup)

/-- An item that goes round to another and back is frozen. -/
theorem freezes_of_joined (hitem : item.index ∈ form.candidates trigger) (hne : item.index ≠ j)
    (h : (form.dependencyGraph (form.candidates trigger)).Joined item.index j) :
    form.freezes trigger item = true := by
  obtain ⟨cycle, hcycle, hmem, -⟩ := Graph.exists_cycle dependencyGraph_closed hitem hne h
  exact List.any_eq_true.2 ⟨cycle, hcycle, List.contains_iff_mem.2 hmem⟩

/-- An item that feeds another stands before it in the queue, unless it is frozen. -/
theorem mem_before_of_feeds (h : form.queue trigger = before ++ item :: after)
    (hother : other ∈ form.queue trigger) (hfeeds : other.Feeds item)
    (hfree : form.freezes trigger other = false) : other ∈ before := by
  obtain ⟨hitems, hcandidate⟩ := mem_queue.1 hother
  have hitem := mem_items_of_queue h
  have horder : (form.schedule trigger).order =
      before.map (·.index) ++ item.index :: after.map (·.index) := by
    rw [← map_index_queue, h, List.map_append, List.map_cons]
  have hne : other.index ≠ item.index := fun heq =>
    hfeeds.ne hitems (item_ext_index hitems hitem heq)
  have hnext := (mem_next_dependencyGraph hitems hitem).2 ⟨hcandidate, mem_candidates_of_queue h, hfeeds⟩
  -- a way back would put the two on a cycle
  have hback : ¬ (form.dependencyGraph (form.candidates trigger)).Leads item.index other.index := by
    intro hback
    have hfrozen := freezes_of_joined hcandidate hne ⟨.single hnext, hback⟩
    rw [hfree] at hfrozen; cases hfrozen
  have hmem := Graph.mem_before_of_schedule dependencyGraph_closed (ascending_candidates form trigger) horder
    hcandidate hne hnext hback
  obtain ⟨first, hfirst, heq⟩ := List.mem_map.1 hmem
  have hqueue : first ∈ form.queue trigger := h ▸ List.mem_append_left _ hfirst
  rwa [← item_ext_index (mem_queue.1 hqueue).1 hitems heq]

/-- An item is frozen if and only if it is in a reported cycle. -/
theorem freezes_iff (hitem : item ∈ form.items) : form.freezes trigger item = true ↔
    ∃ cycle ∈ (form.schedule trigger).cycles.map (·.map form.itemId), item.id ∈ cycle := by
  have hid : ∀ {item : Item}, item ∈ form.items → form.itemId item.index = item.id := fun h => by
    rw [itemId, getElem?_index h]; rfl
  simp only [freezes, Schedule.freezes, List.any_eq_true, List.contains_iff_mem, List.mem_map,
    exists_exists_and_eq_and]
  refine exists_congr fun cycle => and_congr_right fun hcycle => ?_
  refine ⟨fun hmem => ⟨item.index, hmem, hid hitem⟩, fun ⟨i, hi, heq⟩ => ?_⟩
  have hnode := (Graph.exists_joined_of_mem_cycle dependencyGraph_closed hcycle hi).1
  obtain ⟨other, hother⟩ := exists_item_of_mem_candidates hnode
  have hsame : other = item := by
    refine item_ext_id (List.mem_of_getElem? hother) hitem ?_
    rw [← hid (List.mem_of_getElem? hother), index_eq_of_getElem? hother]; exact heq
  rw [← hsame, index_eq_of_getElem? hother]; exact hi

end Formwork.Form
