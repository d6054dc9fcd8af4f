import Mathlib.Data.List.Perm.Subperm
import Formwork.Pass.Affected
import Formwork.Proofs.Form.Items
import Formwork.Proofs.Graph.Ascending
import Formwork.Proofs.Graph.Path

/-!
# The search for affected items

A change of answers affects the items that depend on one of them, and what follows these where one item
feeds the next (`Form.Affects`). The search meets exactly those (`Form.mem_affected`), in ascending order.
`Spread.Inv` is what holds at each of its steps: what was met and what waits is owed to the change, and what
the change asks for was met or waits. As an answer is added only with an item that is met for the first time,
the search ends (`Inv.run`).
-/

namespace Formwork

namespace Form

variable {form : Form} {item other : Item} {i j : Nat} {answer : String} {answers : List String}

/-! ### What follows an item -/

/-- The answer that the first item writes is one that the second depends on. -/
def Item.Feeds (first second : Item) : Prop :=
  ∃ answer, first.produced? = some answer ∧ answer ∈ second.derivedDependencies

namespace Item

theorem produced?_eq_some_iff {item : Item} :
    item.produced? = some answer ↔ item.answer? = some answer ∧ item.producesAnswer = true := by
  rw [produced?]
  split
  · rename_i h; simp [h]
  · rename_i h; simp [h]

theorem answer?_of_produced? {item : Item} (h : item.produced? = some answer) : item.answer? = some answer :=
  (produced?_eq_some_iff.1 h).1

end Item

theorem Item.Feeds.ne (h : item.Feeds other) (hitem : item ∈ form.items) : item ≠ other := by
  rintro rfl
  obtain ⟨answer, hanswer, hdep⟩ := h
  exact answer_notMem_derivedDependencies hitem (answer?_of_produced? hanswer) hdep

theorem produced?_index (hitem : item ∈ form.items) : form.produced? item.index = item.produced? := by
  rw [Form.produced?, getElem?_index hitem]; rfl

/-- All items, each followed by those that run when its answer is written. -/
def influence (form : Form) : Graph where
  nodes := List.range form.items.length
  next index := (form.produced? index).toList.flatMap form.index.dependentItems

theorem mem_next_influence_iff : j ∈ form.influence.next i ↔
    ∃ answer, form.produced? i = some answer ∧ j ∈ form.index.dependentItems answer := by
  simp [influence, List.mem_flatMap]

theorem mem_next_influence : j ∈ form.influence.next i ↔
    ∃ item ∈ form.items, ∃ other ∈ form.items, item.index = i ∧ other.index = j ∧ item.Feeds other := by
  rw [mem_next_influence_iff]
  constructor
  · rintro ⟨answer, hproduced, h⟩
    obtain ⟨item, hitem, hproduced⟩ := Option.bind_eq_some_iff.1 hproduced
    obtain ⟨other, hother, hdep⟩ := mem_dependentItems.1 h
    exact ⟨item, List.mem_of_getElem? hitem, other, List.mem_of_getElem? hother,
      index_eq_of_getElem? hitem, index_eq_of_getElem? hother, answer, hproduced, hdep⟩
  · rintro ⟨item, hitem, other, hother, rfl, rfl, answer, hproduced, hdep⟩
    exact ⟨answer, (produced?_index hitem).trans hproduced, (mem_dependentItems_index hother).2 hdep⟩

/-- The item at a place depends on one of some answers, or one that does leads to it. -/
def Affects (form : Form) (answers : List String) (i : Nat) : Prop :=
  ∃ answer ∈ answers, ∃ first ∈ form.index.dependentItems answer, form.influence.Leads first i

theorem Affects.next (h : form.Affects answers i) (hnext : j ∈ form.influence.next i) :
    form.Affects answers j := by
  obtain ⟨answer, hanswer, first, hfirst, hleads⟩ := h
  exact ⟨answer, hanswer, first, hfirst, hleads.tail hnext⟩

theorem Affects.lt (h : form.Affects answers i) : i < form.items.length := by
  obtain ⟨answer, -, first, hfirst, hleads⟩ := h
  cases hleads with
  | refl =>
    obtain ⟨item, hitem, -⟩ := mem_dependentItems.1 hfirst
    exact (List.getElem?_eq_some_iff.1 hitem).1
  | tail _ hnext =>
    obtain ⟨-, -, other, hother, -, rfl, -⟩ := mem_next_influence.1 hnext
    exact (List.getElem?_eq_some_iff.1 (getElem?_index hother)).1

end Form

namespace Spread

variable {form : Form} {answers : List String} {places more : List Nat} {before middle after spread : Spread}

/-! ### Meeting items -/

/-- What meeting the items at some places adds: these, and the answers that the new ones among them write. -/
structure Gains (form : Form) (places : List Nat) (before after : Spread) : Prop where
  seen : after.seen = before.seen
  items : ∀ i, i ∈ after.items ↔ i ∈ before.items ∨ i ∈ places
  pending : ∀ answer, answer ∈ after.pending ↔
    answer ∈ before.pending ∨ ∃ i ∈ places, i ∉ before.items ∧ form.produced? i = some answer
  ascending : before.items.Pairwise (· < ·) → after.items.Pairwise (· < ·)
  length : after.pending.length + before.items.length ≤ before.pending.length + after.items.length

theorem Gains.refl (spread : Spread) : Gains form [] spread spread :=
  ⟨rfl, by simp, by simp, id, Nat.le_refl _⟩

theorem Gains.trans (h : Gains form places before middle) (h' : Gains form more middle after) :
    Gains form (places ++ more) before after := by
  refine ⟨h'.seen.trans h.seen, fun i => ?_, fun answer => ?_,
    fun hbefore => h'.ascending (h.ascending hbefore), ?_⟩
  · rw [h'.items, h.items, List.mem_append, or_assoc]
  · rw [h'.pending, h.pending, or_assoc]
    refine or_congr_right ⟨?_, ?_⟩
    · rintro (⟨i, hi, hnew, hproduced⟩ | ⟨i, hi, hnew, hproduced⟩)
      · exact ⟨i, List.mem_append_left _ hi, hnew, hproduced⟩
      · exact ⟨i, List.mem_append_right _ hi, fun hold => hnew ((h.items i).2 (.inl hold)), hproduced⟩
    · rintro ⟨i, hi, hnew, hproduced⟩
      by_cases hfirst : i ∈ places
      · exact .inl ⟨i, hfirst, hnew, hproduced⟩
      · have hmore := (List.mem_append.1 hi).resolve_left hfirst
        exact .inr ⟨i, hmore, fun hmiddle => ((h.items i).1 hmiddle).elim hnew hfirst, hproduced⟩
  · have := h.length
    have := h'.length
    omega

theorem gains_meet (spread : Spread) (i : Nat) : Gains form [i] spread (spread.meet form i) := by
  rw [meet]
  by_cases hold : i ∈ spread.items
  · rw [if_pos (List.contains_iff_mem.2 hold)]
    refine ⟨rfl, fun j => ?_, fun answer => ?_, id, Nat.le_refl _⟩
    · rw [List.mem_singleton]
      exact ⟨.inl, fun h => h.elim id fun heq => heq ▸ hold⟩
    · simp [hold]
  · rw [if_neg (mt List.contains_iff_mem.1 hold)]
    refine ⟨rfl, fun j => ?_, fun answer => ?_, fun h => pairwise_insertAscending h hold, ?_⟩
    · rw [mem_insertAscending, List.mem_singleton, or_comm]
    · simp [hold, or_comm, eq_comm]
    · have hlength : (insertAscending i spread.items).length = spread.items.length + 1 := by
        rw [length_insertAscending]
      have hone : (form.produced? i).toList.length ≤ 1 := by
        cases form.produced? i <;> simp
      simp only [List.length_append, hlength]
      omega

theorem gains_foldl (places : List Nat) (spread : Spread) :
    Gains form places spread (places.foldl (meet form) spread) := by
  induction places generalizing spread with
  | nil => exact .refl spread
  | cons i places ih => exact (gains_meet spread i).trans (ih (spread.meet form i))

/-! ### Looking at answers -/

/-- What was met and what waits is owed to the change of some answers, and what this asks for was met or
waits. -/
structure Inv (form : Form) (answers : List String) (spread : Spread) : Prop where
  ascending : spread.items.Pairwise (· < ·)
  affects : ∀ i ∈ spread.items, form.Affects answers i
  waits : ∀ answer ∈ spread.pending, ∀ i ∈ form.index.dependentItems answer, form.Affects answers i
  asked : ∀ answer ∈ answers, answer ∈ spread.seen ∨ answer ∈ spread.pending
  written : ∀ i ∈ spread.items, ∀ answer, form.produced? i = some answer →
    answer ∈ spread.seen ∨ answer ∈ spread.pending
  met : ∀ answer ∈ spread.seen, ∀ i ∈ form.index.dependentItems answer, i ∈ spread.items

theorem Inv.length_le (h : Inv form answers spread) : spread.items.length ≤ form.items.length := by
  have hsub : spread.items ⊆ List.range form.items.length := fun i hi => List.mem_range.2 (h.affects i hi).lt
  have hnodup : spread.items.Nodup := h.ascending.imp Nat.ne_of_lt
  have hle := (hnodup.subperm hsub).length_le
  rwa [List.length_range] at hle

section

variable {answer : String} {pending : List String} (h : Inv form answers spread)
  (hpending : spread.pending = answer :: pending)
include h hpending

/-- An answer that was seen need not wait. -/
theorem Inv.skip (hseen : answer ∈ spread.seen) : Inv form answers { spread with pending } := by
  have hleft : ∀ {other}, other ∈ spread.seen ∨ other ∈ spread.pending →
      other ∈ spread.seen ∨ other ∈ pending := by
    rintro other (hother | hother)
    · exact .inl hother
    · rcases List.mem_cons.1 (hpending ▸ hother) with rfl | hother
      · exact .inl hseen
      · exact .inr hother
  exact { h with
    waits := fun other hother => h.waits other (hpending ▸ List.mem_cons_of_mem _ hother)
    asked := fun other hother => hleft (h.asked other hother)
    written := fun i hi other hproduced => hleft (h.written i hi other hproduced) }

/-- An answer that waits counts as seen once its dependents are met. -/
theorem Inv.look (hgains : Gains form (form.index.dependentItems answer)
    { spread with seen := answer :: spread.seen, pending } after) : Inv form answers after := by
  obtain ⟨hseen, hitems, hadded, hascending, -⟩ := hgains
  dsimp only at hseen hitems hadded hascending
  have hdependents : ∀ i ∈ form.index.dependentItems answer, form.Affects answers i :=
    h.waits answer (hpending ▸ List.mem_cons_self)
  have hleft : ∀ {other}, other ∈ spread.seen ∨ other ∈ spread.pending →
      other ∈ after.seen ∨ other ∈ after.pending := by
    rintro other (hother | hother)
    · exact .inl (hseen ▸ List.mem_cons_of_mem _ hother)
    · rcases List.mem_cons.1 (hpending ▸ hother) with rfl | hother
      · exact .inl (hseen ▸ List.mem_cons_self)
      · exact .inr ((hadded other).2 (.inl hother))
  refine ⟨hascending h.ascending, fun i hi => ?_, fun other hother j hj => ?_,
    fun other hother => hleft (h.asked other hother), fun i hi other hproduced => ?_, fun other hother i hi => ?_⟩
  · rcases (hitems i).1 hi with hi | hi
    · exact h.affects i hi
    · exact hdependents i hi
  · rcases (hadded other).1 hother with hother | ⟨i, hi, -, hproduced⟩
    · exact h.waits other (hpending ▸ List.mem_cons_of_mem _ hother) j hj
    · exact (hdependents i hi).next (Form.mem_next_influence_iff.2 ⟨other, hproduced, hj⟩)
  · by_cases hold : i ∈ spread.items
    · exact hleft (h.written i hold other hproduced)
    · exact .inr ((hadded other).2 (.inr ⟨i, ((hitems i).1 hi).resolve_left hold, hold, hproduced⟩))
  · rcases List.mem_cons.1 (hseen ▸ hother) with rfl | hother
    · exact (hitems i).2 (.inr hi)
    · exact (hitems i).2 (.inl (h.met other hother i hi))

theorem Inv.visit : Inv form answers ({ spread with pending }.visit form answer) := by
  rw [Spread.visit]
  by_cases hseen : answer ∈ spread.seen
  · rw [if_pos (List.contains_iff_mem.2 hseen)]
    exact h.skip hpending hseen
  · rw [if_neg (mt List.contains_iff_mem.1 hseen)]
    exact h.look hpending (gains_foldl _ { spread with seen := answer :: spread.seen, pending })

end

theorem length_visit (form : Form) (answer : String) (spread : Spread) :
    (spread.visit form answer).pending.length + spread.items.length ≤
      spread.pending.length + (spread.visit form answer).items.length := by
  rw [visit]
  split
  · exact Nat.le_refl _
  · exact (gains_foldl _ { spread with seen := answer :: spread.seen }).length

/-- The search ends: each step takes an answer away, and an answer comes only with an item. -/
theorem Inv.run {steps : Nat} (h : Inv form answers spread)
    (hsteps : spread.pending.length + form.items.length ≤ steps + spread.items.length) :
    ∃ done, spread.run form steps = some done ∧ Inv form answers done ∧ done.pending = [] := by
  induction steps generalizing spread with
  | zero =>
    have := h.length_le
    have hpending : spread.pending = [] := List.length_eq_zero_iff.1 (by omega)
    exact ⟨spread, by rw [Spread.run, hpending]; rfl, h, hpending⟩
  | succ steps ih =>
    rw [Spread.run]
    cases hpending : spread.pending with
    | nil => exact ⟨spread, rfl, h, hpending⟩
    | cons answer pending =>
      refine ih (h.visit hpending) ?_
      have := length_visit form answer { spread with pending }
      rw [hpending, List.length_cons] at hsteps
      dsimp only at this
      omega

theorem inv_start (form : Form) (answers : List String) : Inv form answers { pending := answers.reverse } where
  ascending := .nil
  affects := by simp
  waits answer hanswer i hi := ⟨answer, List.mem_reverse.1 hanswer, i, hi, .refl⟩
  asked answer hanswer := .inr (List.mem_reverse.2 hanswer)
  written := by simp
  met := by simp

end Spread

namespace Form

variable {form : Form} {item other : Item} {i : Nat} {answers : List String}

/-- The search comes to an end, and the affected items are what it has met. -/
theorem exists_spread (form : Form) (answers : List String) : ∃ spread, form.spread? answers = some spread ∧
    spread.items = form.affected answers ∧ spread.Inv form answers ∧ spread.pending = [] := by
  have hsteps : ({ pending := answers.reverse } : Spread).pending.length + form.items.length ≤
      answers.length + form.items.length + 0 := by simp
  obtain ⟨spread, hrun, hinv, hpending⟩ := (Spread.inv_start form answers).run hsteps
  have hspread : form.spread? answers = some spread := hrun
  exact ⟨spread, hspread, by rw [affected, hspread]; rfl, hinv, hpending⟩

theorem ascending_affected (form : Form) (answers : List String) :
    (form.affected answers).Pairwise (· < ·) := by
  obtain ⟨spread, -, hitems, hinv, -⟩ := exists_spread form answers
  exact hitems ▸ hinv.ascending

/-- The affected items are those that the answers affect. -/
theorem mem_affected : i ∈ form.affected answers ↔ form.Affects answers i := by
  obtain ⟨spread, -, hitems, hinv, hpending⟩ := exists_spread form answers
  have hseen : ∀ {answer}, answer ∈ spread.seen ∨ answer ∈ spread.pending → answer ∈ spread.seen := by
    rw [hpending]
    simp
  rw [← hitems]
  constructor
  · exact hinv.affects i
  · rintro ⟨answer, hanswer, first, hfirst, hleads⟩
    induction hleads with
    | refl => exact hinv.met answer (hseen (hinv.asked answer hanswer)) first hfirst
    | tail _ hnext ih =>
      obtain ⟨other, hproduced, hdependent⟩ := mem_next_influence_iff.1 hnext
      exact hinv.met other (hseen (hinv.written _ ih other hproduced)) _ hdependent

theorem lt_of_mem_affected (h : i ∈ form.affected answers) : i < form.items.length :=
  (mem_affected.1 h).lt

theorem mem_affected_of_declared {answer : String} (hitem : item ∈ form.items) (hanswer : answer ∈ answers)
    (hdep : answer ∈ item.derivedDependencies) : item.index ∈ form.affected answers :=
  mem_affected.2 ⟨answer, hanswer, _, (mem_dependentItems_index hitem).2 hdep, .refl⟩

theorem mem_affected_of_feeds (hitem : item ∈ form.items) (hother : other ∈ form.items)
    (hfeeds : item.Feeds other) (h : item.index ∈ form.affected answers) :
    other.index ∈ form.affected answers :=
  mem_affected.2 ((mem_affected.1 h).next
    (mem_next_influence.2 ⟨item, hitem, other, hother, rfl, rfl, hfeeds⟩))

end Form

end Formwork
