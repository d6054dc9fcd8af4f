import Mathlib.Data.List.Lex
import Formwork.Proofs.Graph.Schedule

/-!
# Schedules are known from the edges

The cycles of a graph are its components of several nodes (`mem_cycles_iff`). An arrangement of ascending
nodes is the least of all orders in which none stands behind one that it has to come before
(`arrange_least`): what such an order starts with was free to be taken first, and the arrangement takes
the least of these. Both together fix the schedule (`Schedule.IsExact`, `Graph.schedule_isExact`).

A cycle lies in a part of the graph that no edge leaves, or apart from it (`mem_cycles_part`).
-/

namespace Formwork.Graph

variable {graph part : Graph} {cycle : List Nat} {a b : Nat}

/-- The cycles are the components of several nodes, in ascending order. -/
theorem mem_cycles_iff (closed : graph.Closed) :
    cycle ∈ graph.schedule.cycles ↔ cycle.Pairwise (· < ·) ∧ 2 ≤ cycle.length ∧
      ∃ a ∈ graph.nodes, ∀ b, b ∈ cycle ↔ graph.Joined a b := by
  have hfilter : cycle ∈ graph.schedule.cycles ↔ cycle ∈ graph.components ∧ 2 ≤ cycle.length :=
    List.mem_filter.trans (and_congr_right fun _ => decide_eq_true_iff)
  rw [hfilter, mem_components closed]
  tauto

/-! ### Parts -/

/-- Some nodes of a graph with all edges from them. -/
structure IsPart (part graph : Graph) : Prop where
  nodes : ∀ a ∈ part.nodes, a ∈ graph.nodes
  next : ∀ a ∈ part.nodes, ∀ b, b ∈ part.next a ↔ b ∈ graph.next a

theorem leads_part (h : part.IsPart graph) (closed : part.Closed) (ha : a ∈ part.nodes) :
    part.Leads a b ↔ graph.Leads a b := by
  constructor
  · intro hleads
    induction hleads with
    | refl => exact .refl
    | tail hab hstep ih => exact ih.tail ((h.next _ (Leads.mem hab closed ha) _).1 hstep)
  · intro hleads
    induction hleads with
    | refl => exact .refl
    | tail _ hstep ih => exact ih.tail ((h.next _ (Leads.mem ih closed ha) _).2 hstep)

/-- No way out of a part comes back, so a cycle lies in it or apart from it. -/
theorem joined_part (h : part.IsPart graph) (closed : part.Closed) (ha : a ∈ part.nodes) :
    part.Joined a b ↔ graph.Joined a b := by
  have hback : ∀ {b}, part.Leads a b → (part.Leads b a ↔ graph.Leads b a) := fun hleads =>
    leads_part h closed (Leads.mem hleads closed ha)
  constructor
  · rintro ⟨hab, hba⟩
    exact ⟨(leads_part h closed ha).1 hab, (hback hab).1 hba⟩
  · rintro ⟨hab, hba⟩
    have hab := (leads_part h closed ha).2 hab
    exact ⟨hab, (hback hab).2 hba⟩

theorem mem_cycles_part (h : part.IsPart graph) (closed : part.Closed) (closed' : graph.Closed) :
    cycle ∈ part.schedule.cycles ↔ cycle ∈ graph.schedule.cycles ∧ ∃ a ∈ cycle, a ∈ part.nodes := by
  rw [mem_cycles_iff closed, mem_cycles_iff closed']
  constructor
  · rintro ⟨hascending, hlength, a, ha, hcycle⟩
    have hmem : a ∈ cycle := (hcycle a).2 ⟨.refl, .refl⟩
    have hcycle' := fun b => (hcycle b).trans (joined_part h closed ha)
    exact ⟨⟨hascending, hlength, a, h.nodes a ha, hcycle'⟩, a, hmem, ha⟩
  · rintro ⟨⟨hascending, hlength, a, -, hcycle⟩, c, hc, hpart⟩
    -- the cycle is also what its node in the part is joined to
    have hac := (hcycle c).1 hc
    refine ⟨hascending, hlength, c, hpart, fun b => ?_⟩
    rw [joined_part h closed hpart, hcycle]
    exact ⟨hac.symm.trans, hac.trans⟩

/-! ### The least arrangement -/

variable {isBefore : Nat → Nat → Bool} {nodes order before after : List Nat}

/-- The first member of an ascending list that has a property is the least. -/
theorem le_of_find? {p : Nat → Bool} (ascending : nodes.Pairwise (· < ·)) (h : nodes.find? p = some a)
    (hb : b ∈ nodes) (hp : p b = true) : a ≤ b := by
  obtain ⟨-, before, after, rfl, hnone⟩ := List.find?_eq_some_iff_append.1 h
  rcases List.mem_append.1 hb with hb | hb
  · have := hnone b hb
    simp [hp] at this
  · rcases List.mem_cons.1 hb with rfl | hb
    · exact Nat.le_refl b
    · have hafter := (List.pairwise_append.1 ascending).2.1
      exact Nat.le_of_lt ((List.pairwise_cons.1 hafter).1 b hb)

/-- Of the orders of ascending nodes in which none stands behind one that it has to come before, the
arrangement is the least: another one starts with a node that was free to be taken first. -/
theorem arrange_least (loopless : ∀ a, isBefore a a = false) (ascending : nodes.Pairwise (· < ·))
    (hperm : order.Perm nodes) (h : order.Pairwise fun a b => isBefore b a = false) :
    order = arrange isBefore nodes ∨ List.Lex (· < ·) (arrange isBefore nodes) order := by
  induction order generalizing nodes with
  | nil =>
    obtain rfl := hperm.nil_eq
    rw [arrange]
    exact .inl rfl
  | cons first rest ih =>
    obtain ⟨hfirst, hrest⟩ := List.pairwise_cons.1 h
    have hmem : first ∈ nodes := hperm.mem_iff.1 List.mem_cons_self
    have hfree : (nodes.all fun other => !isBefore other first) = true := by
      refine List.all_eq_true.2 fun other hother => ?_
      rcases List.mem_cons.1 (hperm.mem_iff.2 hother) with rfl | hother
      · rw [loopless]; rfl
      · rw [hfirst other hother]; rfl
    have hsome : (nodes.find? fun node => nodes.all fun other => !isBefore other node).isSome :=
      List.find?_isSome.2 ⟨first, hmem, hfree⟩
    obtain ⟨node, hfound⟩ := Option.isSome_iff_exists.1 hsome
    rw [arrange_of_find hfound]
    rcases Nat.lt_or_eq_of_le (le_of_find? ascending hfound hmem hfree) with hlt | rfl
    · exact .inr (.rel hlt)
    · have hperm : rest.Perm (nodes.erase node) := by
        simpa using hperm.erase node
      rcases ih (ascending.sublist List.erase_sublist) hperm hrest with heq | hlex
      · exact .inl (congrArg (node :: ·) heq)
      · exact .inr (.cons hlex)

theorem idxOf_lt_of_mem_before (nodup : (before ++ b :: after).Nodup) (ha : a ∈ before) :
    (before ++ b :: after).idxOf a < (before ++ b :: after).idxOf b := by
  have hb : b ∉ before := fun hb => (List.nodup_append.1 nodup).2.2 b hb b List.mem_cons_self rfl
  have hlt := List.idxOf_lt_length_of_mem ha
  rw [List.idxOf_append_of_mem ha, List.idxOf_append_of_notMem hb]
  omega

theorem pairwise_of_idxOf_lt (nodup : order.Nodup)
    (h : ∀ a ∈ order, ∀ b ∈ order, isBefore a b = true → order.idxOf a < order.idxOf b) :
    order.Pairwise fun a b => isBefore b a = false := by
  rw [List.pairwise_iff_getElem]
  intro i j hi hj hlt
  by_contra hbefore
  have hidx := h order[j] (List.getElem_mem hj) order[i] (List.getElem_mem hi) (by simpa using hbefore)
  rw [nodup.idxOf_getElem, nodup.idxOf_getElem] at hidx
  omega

end Formwork.Graph

namespace Formwork.Schedule

open Relation (ReflTransGen)

/-- An order of some nodes in which each stands behind those with an edge to it, unless the two share
a cycle. -/
def Admits (edge : Nat → Nat → Prop) (nodes : List Nat) (cycles : List (List Nat)) (order : List Nat) :
    Prop :=
  order.Perm nodes ∧ ∀ a b, edge a b → (¬ ∃ cycle ∈ cycles, a ∈ cycle ∧ b ∈ cycle) →
    order.idxOf a < order.idxOf b

/-- A schedule of some nodes that is known from the edges between them: its order is the least that they
admit, and its cycles are their components of several nodes. -/
structure IsExact (edge : Nat → Nat → Prop) (nodes : List Nat) (schedule : Schedule) : Prop where
  admits : Admits edge nodes schedule.cycles schedule.order
  least : ∀ order, Admits edge nodes schedule.cycles order →
    order = schedule.order ∨ List.Lex (· < ·) schedule.order order
  mem_cycles_iff : ∀ cycle, cycle ∈ schedule.cycles ↔ cycle.Pairwise (· < ·) ∧ 2 ≤ cycle.length ∧
    ∃ a ∈ nodes, ∀ b, b ∈ cycle ↔ ReflTransGen edge a b ∧ ReflTransGen edge b a
  disjoint : schedule.cycles.Pairwise List.Disjoint

variable {edge : Nat → Nat → Prop} {nodes order : List Nat} {schedule other : Schedule}

theorem IsExact.mem_cycles (h : schedule.IsExact edge nodes) (h' : other.IsExact edge nodes) (cycle : List Nat) :
    cycle ∈ schedule.cycles ↔ cycle ∈ other.cycles :=
  (h.mem_cycles_iff cycle).trans (h'.mem_cycles_iff cycle).symm

theorem Admits.of_exact (h : schedule.IsExact edge nodes) (h' : other.IsExact edge nodes)
    (hadmits : Admits edge nodes schedule.cycles order) : Admits edge nodes other.cycles order := by
  obtain ⟨hperm, hafter⟩ := hadmits
  refine ⟨hperm, fun a b hedge hapart => hafter a b hedge fun ⟨cycle, hcycle, hmem⟩ => ?_⟩
  exact hapart ⟨cycle, (h.mem_cycles h' cycle).1 hcycle, hmem⟩

/-- There is one exact order: of two, each would come first. -/
theorem IsExact.order_eq (h : schedule.IsExact edge nodes) (h' : other.IsExact edge nodes) :
    schedule.order = other.order := by
  rcases h.least other.order (.of_exact h' h h'.admits) with heq | hless
  · exact heq.symm
  rcases h'.least schedule.order (.of_exact h h' h.admits) with heq | hless'
  · exact heq
  · exact absurd hless' (asymm hless)

end Formwork.Schedule

namespace Formwork.Graph

variable {graph : Graph}

theorem schedule_isExact (closed : graph.Closed) (loopless : ∀ a, a ∉ graph.next a)
    (inner : ∀ a b, b ∈ graph.next a → a ∈ graph.nodes) (ascending : graph.nodes.Pairwise (· < ·)) :
    graph.schedule.IsExact (fun a b => b ∈ graph.next a) graph.nodes := by
  have hnodup : graph.nodes.Nodup := ascending.imp Nat.ne_of_lt
  have hperm := schedule_perm closed ascending loopless
  refine ⟨⟨hperm, fun a b hnext hapart => ?_⟩, fun order ⟨hperm, hafter⟩ => ?_,
    fun cycle => mem_cycles_iff closed, pairwise_disjoint_cycles closed⟩
  · have ha := inner a b hnext
    have hb := hperm.mem_iff.2 (closed a ha b hnext)
    obtain ⟨before, after, horder⟩ := List.append_of_mem hb
    have hbefore : a ∈ before := by
      rw [schedule_order closed ascending] at horder
      exact mem_before_of_arrange horder ha (precedes_iff_apart.2 ⟨hnext, hapart⟩)
    have hnodup := hperm.nodup_iff.2 hnodup
    rw [horder] at hnodup ⊢
    exact idxOf_lt_of_mem_before hnodup hbefore
  · have hself : ∀ a, graph.precedes a a = false := by
      intro a
      refine Bool.eq_false_iff.2 fun h => ?_
      exact loopless a (precedes_iff_apart.1 h).1
    rw [schedule_order closed ascending]
    refine arrange_least hself ascending hperm ?_
    refine pairwise_of_idxOf_lt (hperm.nodup_iff.2 hnodup) fun a _ b _ hbefore => ?_
    obtain ⟨hnext, hapart⟩ := precedes_iff_apart.1 hbefore
    exact hafter a b hnext hapart

end Formwork.Graph
