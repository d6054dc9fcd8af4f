import Formwork.Proofs.Pass.Order
import Formwork.Proofs.Pass.Evaluation

/-!
# Forms with the same items

Of an item a pass reads its id, its answer, its derived rules and its choices (`Form.Item.Traits`). Forms
that have the same items in this respect, in any order, make the same items run, freeze the same ones
and report the same cycles: which item feeds which does not depend on their places.
-/

namespace Formwork

open Definition (Slot)

namespace Form

/-! ### Twins -/

/-- What a pass reads of an item. -/
structure Item.Traits where
  id : String
  answer? : Option String
  visible : Option Rule
  readOnly : Option Rule
  value : Option Rule
  choices : Option Rule
  options : List Choice

def Item.traits (item : Item) : Item.Traits where
  id := item.id
  answer? := item.answer?
  visible := item.visible
  readOnly := item.readOnly
  value := item.value
  choices := item.choices
  options := item.options

/-- Two forms have the same items, in any order, as far as a pass can tell. -/
def Reorders (form other : Form) : Prop := (form.items.map (·.traits)).Perm (other.items.map (·.traits))

/-- An item of one form and the same item of another. -/
structure Twins (form other : Form) (item twin : Item) : Prop where
  mem : item ∈ form.items
  mem' : twin ∈ other.items
  traits : item.traits = twin.traits

variable {form other : Form} {item twin next nextTwin : Item} {trigger : Trigger} {i j : Nat} {name : String}

theorem Reorders.symm (h : form.Reorders other) : other.Reorders form := List.Perm.symm h

theorem Reorders.exists_twin (h : form.Reorders other) (hitem : item ∈ form.items) :
    ∃ twin, form.Twins other item twin := by
  obtain ⟨twin, htwin, htraits⟩ := List.mem_map.1 (h.mem_iff.1 (List.mem_map_of_mem hitem))
  exact ⟨twin, hitem, htwin, htraits.symm⟩

namespace Twins

theorem symm (h : form.Twins other item twin) : other.Twins form twin item := ⟨h.mem', h.mem, h.traits.symm⟩

variable (h : form.Twins other item twin)
include h

theorem id_eq : item.id = twin.id := (congrArg Item.Traits.id h.traits :)

theorem answer?_eq : item.answer? = twin.answer? := (congrArg Item.Traits.answer? h.traits :)

theorem visible_eq : item.visible = twin.visible := (congrArg Item.Traits.visible h.traits :)

theorem readOnly_eq : item.readOnly = twin.readOnly := (congrArg Item.Traits.readOnly h.traits :)

theorem value_eq : item.value = twin.value := (congrArg Item.Traits.value h.traits :)

theorem choices_eq : item.choices = twin.choices := (congrArg Item.Traits.choices h.traits :)

theorem options_eq : item.options = twin.options := (congrArg Item.Traits.options h.traits :)

theorem choiceRules_eq : item.choiceRules = twin.choiceRules := by
  rw [Item.choiceRules, h.choices_eq, h.options_eq, Item.choiceRules]

theorem flagRules_eq : item.flagRules = twin.flagRules := by
  rw [Item.flagRules, h.visible_eq, h.readOnly_eq, Item.flagRules]

theorem derivedRules_eq : item.derivedRules = twin.derivedRules := by
  rw [Item.derivedRules, h.flagRules_eq, h.value_eq, h.choiceRules_eq, Item.derivedRules]

theorem derivedDependencies_eq : item.derivedDependencies = twin.derivedDependencies := by
  rw [Item.derivedDependencies, h.derivedRules_eq, Item.derivedDependencies]

theorem hasChoiceRules_eq : item.hasChoiceRules = twin.hasChoiceRules := by
  rw [Item.hasChoiceRules, h.choiceRules_eq, Item.hasChoiceRules]

theorem produced?_eq : item.produced? = twin.produced? := by
  have hproduces : item.producesAnswer = twin.producesAnswer := by
    rw [Item.producesAnswer, h.answer?_eq, h.value_eq, h.hasChoiceRules_eq, Item.producesAnswer]
  rw [Item.produced?, hproduces, h.answer?_eq, Item.produced?]

theorem feeds (hnext : form.Twins other next nextTwin) (hfeeds : item.Feeds next) : twin.Feeds nextTwin := by
  obtain ⟨answer, hproduced, hdep⟩ := hfeeds
  exact ⟨answer, h.produced?_eq ▸ hproduced, hnext.derivedDependencies_eq ▸ hdep⟩

theorem unique (h' : form.Twins other item nextTwin) : twin = nextTwin :=
  item_ext_id h.mem' h'.mem' (h.id_eq.symm.trans h'.id_eq)

end Twins

/-! ### The same items run -/

/-- What leads to what is the same for twins in two graphs in which what follows what is the same. -/
theorem leads_of_twins (hreorders : form.Reorders other) {graph graph' : Graph}
    (hnodes : ∀ i j, j ∈ graph.next i → ∃ item ∈ form.items, item.index = i)
    (hnext : ∀ item twin next nextTwin, form.Twins other item twin → form.Twins other next nextTwin →
      next.index ∈ graph.next item.index → nextTwin.index ∈ graph'.next twin.index)
    (hitem : form.Twins other item twin) (hlast : form.Twins other next nextTwin)
    (h : graph.Leads item.index next.index) : graph'.Leads twin.index nextTwin.index := by
  generalize hj : next.index = j at h
  induction h generalizing next nextTwin with
  | refl =>
    obtain rfl : next = item := item_ext_index hlast.mem hitem.mem hj
    rw [hitem.unique hlast]
    exact .refl
  | @tail b c _ hstep ih =>
    subst hj
    obtain ⟨middle, hmiddle, rfl⟩ := hnodes _ _ hstep
    obtain ⟨middleTwin, htwins⟩ := hreorders.exists_twin hmiddle
    exact (ih htwins rfl).tail (hnext _ _ _ _ htwins hlast hstep)

theorem candidates_of_twins (hreorders : form.Reorders other) (h : form.Twins other item twin)
    (hitem : item.index ∈ form.candidates trigger) : twin.index ∈ other.candidates trigger := by
  cases trigger with
  | full => exact mem_candidates_full h.mem'
  | changed answers =>
    obtain ⟨answer, hanswer, first, hfirst, hleads⟩ := mem_affected.1 hitem
    obtain ⟨firstItem, hget, hdep⟩ := mem_dependentItems.1 hfirst
    obtain rfl := index_eq_of_getElem? hget
    obtain ⟨firstTwin, htwins⟩ := hreorders.exists_twin (List.mem_of_getElem? hget)
    have hdep' : answer ∈ firstTwin.derivedDependencies := htwins.derivedDependencies_eq ▸ hdep
    refine mem_affected.2 ⟨answer, hanswer, _, (mem_dependentItems_index htwins.mem').2 hdep', ?_⟩
    refine leads_of_twins hreorders (fun i j hj => ?_) (fun _ _ _ _ hitem hnext hj => ?_) htwins h hleads
    · obtain ⟨item, hitem, -, -, hi, -⟩ := mem_next_influence.1 hj
      exact ⟨item, hitem, hi⟩
    · obtain ⟨first, hfirst, second, hsecond, hfirstIndex, hsecondIndex, hfeeds⟩ := mem_next_influence.1 hj
      obtain rfl := item_ext_index hfirst hitem.mem hfirstIndex
      obtain rfl := item_ext_index hsecond hnext.mem hsecondIndex
      exact mem_next_influence.2 ⟨_, hitem.mem', _, hnext.mem', rfl, rfl, hitem.feeds hnext hfeeds⟩

theorem mem_queue_of_twins (hreorders : form.Reorders other) (h : form.Twins other item twin)
    (hitem : item ∈ form.queue trigger) : twin ∈ other.queue trigger :=
  mem_queue.2 ⟨h.mem', candidates_of_twins hreorders h (mem_queue.1 hitem).2⟩

/-! ### The same cycles -/

/-- Two items are on a common cycle of a pass, or are the same. -/
def Joined (form : Form) (trigger : Trigger) (item next : Item) : Prop :=
  (form.dependencyGraph (form.candidates trigger)).Joined item.index next.index

theorem leads_dependencyGraph_of_twins (hreorders : form.Reorders other) (h : form.Twins other item twin)
    (hnext : form.Twins other next nextTwin)
    (hleads : (form.dependencyGraph (form.candidates trigger)).Leads item.index next.index) :
    (other.dependencyGraph (other.candidates trigger)).Leads twin.index nextTwin.index := by
  refine leads_of_twins hreorders (fun i j hj => ?_) (fun _ _ _ _ hitem hnext hj => ?_) h hnext hleads
  · obtain ⟨item, hitem, -, -, hi, -⟩ := exists_of_mem_next hj
    exact ⟨item, hitem, hi⟩
  · obtain ⟨hi, hj, hfeeds⟩ := (mem_next_dependencyGraph hitem.mem hnext.mem).1 hj
    exact (mem_next_dependencyGraph hitem.mem' hnext.mem').2 ⟨candidates_of_twins hreorders hitem hi,
      candidates_of_twins hreorders hnext hj, hitem.feeds hnext hfeeds⟩

theorem Joined.of_twins (hreorders : form.Reorders other) (h : form.Twins other item twin)
    (hnext : form.Twins other next nextTwin) (hjoined : form.Joined trigger item next) :
    other.Joined trigger twin nextTwin :=
  ⟨leads_dependencyGraph_of_twins hreorders h hnext hjoined.1,
    leads_dependencyGraph_of_twins hreorders hnext h hjoined.2⟩

theorem exists_joined_of_freezes (h : form.freezes trigger item = true) :
    item.index ∈ form.candidates trigger ∧ ∃ next ∈ form.items, next.index ∈ form.candidates trigger ∧
      next ≠ item ∧ form.Joined trigger item next := by
  obtain ⟨cycle, hcycle, hmem⟩ := List.any_eq_true.1 h
  obtain ⟨hcandidate, j, hj, hne, hjoined⟩ := Graph.exists_joined_of_mem_cycle dependencyGraph_closed
    hcycle (List.contains_iff_mem.1 hmem)
  obtain ⟨next, hnext⟩ := exists_item_of_mem_candidates hj
  obtain rfl := index_eq_of_getElem? hnext
  exact ⟨hcandidate, next, List.mem_of_getElem? hnext, hj, fun heq => hne (heq ▸ rfl), hjoined⟩

theorem freezes_of_twins (hreorders : form.Reorders other) (h : form.Twins other item twin)
    (hfreezes : form.freezes trigger item = true) : other.freezes trigger twin = true := by
  obtain ⟨hcandidate, next, hnext, -, hne, hjoined⟩ := exists_joined_of_freezes hfreezes
  obtain ⟨nextTwin, htwins⟩ := hreorders.exists_twin hnext
  refine freezes_of_joined (candidates_of_twins hreorders h hcandidate) (fun heq => hne ?_)
    (hjoined.of_twins hreorders h htwins)
  have hsame : twin = nextTwin := item_ext_index h.mem' htwins.mem' heq
  exact item_ext_id hnext h.mem (by rw [htwins.id_eq, h.id_eq, hsame])

theorem freezes_eq_of_twins (trigger : Trigger) (hreorders : form.Reorders other)
    (h : form.Twins other item twin) :
    form.freezes trigger item = other.freezes trigger twin :=
  Bool.eq_iff_iff.2 ⟨freezes_of_twins hreorders h, freezes_of_twins hreorders.symm h.symm⟩

/-- The ids of the items on each cycle that a pass reports. -/
def groups (form : Form) (trigger : Trigger) : List (Finset String) :=
  ((form.schedule trigger).cycles.map (·.map form.itemId)).map List.toFinset

theorem itemId_index (hitem : item ∈ form.items) : form.itemId item.index = item.id := by
  rw [itemId, getElem?_index hitem]; rfl

theorem exists_item_of_mem_cycle {cycle : List Nat} (h : cycle ∈ (form.schedule trigger).cycles) (hi : i ∈ cycle) :
    ∃ item ∈ form.items, item.index = i ∧ i ∈ form.candidates trigger := by
  obtain ⟨hcandidate, -⟩ := Graph.exists_joined_of_mem_cycle dependencyGraph_closed h hi
  obtain ⟨item, hitem⟩ := exists_item_of_mem_candidates hcandidate
  exact ⟨item, List.mem_of_getElem? hitem, index_eq_of_getElem? hitem, hcandidate⟩

theorem mem_ids_iff {cycle : List Nat} (h : cycle ∈ (form.schedule trigger).cycles)
    (hmem : item.index ∈ cycle) : name ∈ (cycle.map form.itemId).toFinset ↔
      ∃ next ∈ form.items, next.index ∈ form.candidates trigger ∧ form.Joined trigger item next ∧
        next.id = name := by
  rw [List.mem_toFinset, List.mem_map]
  constructor
  · rintro ⟨i, hi, rfl⟩
    obtain ⟨next, hnext, rfl, hcandidate⟩ := exists_item_of_mem_cycle h hi
    exact ⟨next, hnext, hcandidate, Graph.joined_of_mem_cycle dependencyGraph_closed h hmem hi,
      (itemId_index hnext).symm⟩
  · rintro ⟨next, hnext, hcandidate, hjoined, rfl⟩
    exact ⟨next.index, Graph.mem_cycle_of_joined dependencyGraph_closed h hmem hjoined,
      itemId_index hnext⟩

/-- A group is what a frozen item is joined to. -/
theorem mem_groups_iff {group : Finset String} : group ∈ form.groups trigger ↔
    ∃ item ∈ form.items, form.freezes trigger item = true ∧ ∀ name, name ∈ group ↔
      ∃ next ∈ form.items, next.index ∈ form.candidates trigger ∧ form.Joined trigger item next ∧
        next.id = name := by
  simp only [groups, List.mem_map, exists_exists_and_eq_and]
  constructor
  · rintro ⟨cycle, hcycle, rfl⟩
    obtain ⟨i, hi⟩ := List.exists_mem_of_ne_nil cycle (Graph.cycle_ne_nil hcycle)
    obtain ⟨item, hitem, rfl, -⟩ := exists_item_of_mem_cycle hcycle hi
    exact ⟨item, hitem, List.any_eq_true.2 ⟨cycle, hcycle, List.contains_iff_mem.2 hi⟩,
      fun name => mem_ids_iff hcycle hi⟩
  · rintro ⟨item, hitem, hfreezes, hgroup⟩
    obtain ⟨cycle, hcycle, hmem⟩ := List.any_eq_true.1 hfreezes
    refine ⟨cycle, hcycle, Finset.ext fun name => ?_⟩
    rw [mem_ids_iff hcycle (List.contains_iff_mem.1 hmem), hgroup]

theorem mem_groups_of_reorders (hreorders : form.Reorders other) {group : Finset String}
    (h : group ∈ form.groups trigger) : group ∈ other.groups trigger := by
  obtain ⟨item, hitem, hfreezes, hgroup⟩ := mem_groups_iff.1 h
  obtain ⟨twin, htwins⟩ := hreorders.exists_twin hitem
  refine mem_groups_iff.2 ⟨twin, htwins.mem', freezes_of_twins hreorders htwins hfreezes, fun name => ?_⟩
  rw [hgroup]
  constructor
  · rintro ⟨next, hnext, hcandidate, hjoined, rfl⟩
    obtain ⟨nextTwin, hnextTwins⟩ := hreorders.exists_twin hnext
    exact ⟨nextTwin, hnextTwins.mem', candidates_of_twins hreorders hnextTwins hcandidate,
      hjoined.of_twins hreorders htwins hnextTwins, hnextTwins.id_eq.symm⟩
  · rintro ⟨nextTwin, hnextTwin, hcandidate, hjoined, rfl⟩
    obtain ⟨next, hnextTwins⟩ := hreorders.symm.exists_twin hnextTwin
    exact ⟨next, hnextTwins.mem', candidates_of_twins hreorders.symm hnextTwins hcandidate,
      Joined.of_twins hreorders.symm htwins.symm hnextTwins hjoined, hnextTwins.id_eq.symm⟩

theorem nodup_groups : (form.groups trigger).Nodup := by
  have hdisjoint : (form.schedule trigger).cycles.Pairwise List.Disjoint :=
    Graph.pairwise_disjoint_cycles dependencyGraph_closed
  rw [groups, List.map_map, List.Nodup, List.pairwise_map]
  refine hdisjoint.imp_of_mem fun {cycle rest} hcycle hrest hapart heq => ?_
  obtain ⟨i, hi⟩ := List.exists_mem_of_ne_nil cycle (Graph.cycle_ne_nil hcycle)
  obtain ⟨item, hitem, rfl, -⟩ := exists_item_of_mem_cycle hcycle hi
  have hmem : item.id ∈ (rest.map form.itemId).toFinset := by
    have hhere : item.id ∈ (cycle.map form.itemId).toFinset :=
      List.mem_toFinset.2 (List.mem_map.2 ⟨_, hi, itemId_index hitem⟩)
    exact (show (cycle.map form.itemId).toFinset = (rest.map form.itemId).toFinset from heq) ▸ hhere
  obtain ⟨j, hj, hid⟩ := List.mem_map.1 (List.mem_toFinset.1 hmem)
  obtain ⟨next, hnext, rfl, -⟩ := exists_item_of_mem_cycle hrest hj
  rw [itemId_index hnext] at hid
  exact hapart hi (item_ext_id hnext hitem hid ▸ hj)

/-- Forms with the same items have the same cycles. -/
theorem groups_perm (hreorders : form.Reorders other) : (form.groups trigger).Perm (other.groups trigger) :=
  (List.perm_ext_iff_of_nodup nodup_groups nodup_groups).2 fun _ =>
    ⟨mem_groups_of_reorders hreorders, mem_groups_of_reorders hreorders.symm⟩

end Form
end Formwork
