import Mathlib.Data.Fintype.Card
import Mathlib.Data.Set.Finite.List
import Mathlib.Order.WellFounded
import Formwork.Proofs.Graph.Component
import Formwork.Proofs.Graph.Sorting

/-!
# What a schedule promises

A schedule freezes the nodes on a cycle, which are those joined to another node. Its order is the arrangement
of the nodes (`schedule_order`). So it holds every node of a graph without loops (`schedule_perm`), and each
stands behind those it follows unless it leads back to them (`mem_before_of_schedule`).
-/

namespace Formwork.Graph

variable {graph : Graph} {a b : Nat}

/-! ### Cycles -/

/-- Two nodes that are joined are on a common cycle. -/
theorem exists_cycle (closed : graph.Closed) (ha : a ∈ graph.nodes) (hne : a ≠ b) (h : graph.Joined a b) :
    ∃ cycle ∈ graph.schedule.cycles, a ∈ cycle ∧ b ∈ cycle := by
  obtain ⟨component, hcomponent, hma⟩ := (mem_nodes_iff closed).1 ha
  have hmb := mem_of_joined closed hcomponent hma h
  refine ⟨component, List.mem_filter.2 ⟨hcomponent, ?_⟩, hma, hmb⟩
  match component with
  | [] => simp at hma
  | [c] => simp at hma hmb; exact absurd (hma.trans hmb.symm) hne
  | _ :: _ :: _ => simp

theorem joined_of_mem_cycle (closed : graph.Closed) {cycle : List Nat}
    (h : cycle ∈ graph.schedule.cycles) (ha : a ∈ cycle) (hb : b ∈ cycle) : graph.Joined a b :=
  joined_of_mem_components closed (List.mem_filter.1 h).1 ha hb

/-- A node on a cycle is joined to another one. -/
theorem exists_joined_of_mem_cycle (closed : graph.Closed) {cycle : List Nat}
    (h : cycle ∈ graph.schedule.cycles) (ha : a ∈ cycle) :
    a ∈ graph.nodes ∧ ∃ b ∈ graph.nodes, b ≠ a ∧ graph.Joined a b := by
  obtain ⟨hc, hlen⟩ := List.mem_filter.1 h
  have hnode := fun b hb => (mem_nodes_iff closed).2 ⟨cycle, hc, (hb : b ∈ cycle)⟩
  have hother : ∃ b ∈ cycle, b ≠ a := by
    have hascending := ((mem_components closed).1 hc).1
    match cycle with
    | [] | [_] => simp at hlen
    | first :: second :: _ =>
      by_cases hfirst : first = a
      · have hlt := (List.pairwise_cons.1 hascending).1 second (by simp)
        exact ⟨second, by simp, by omega⟩
      · exact ⟨first, by simp, hfirst⟩
  obtain ⟨b, hb, hne⟩ := hother
  exact ⟨hnode a ha, b, hnode b hb, hne, joined_of_mem_cycle closed h ha hb⟩

theorem mem_cycle_of_joined (closed : graph.Closed) {cycle : List Nat}
    (h : cycle ∈ graph.schedule.cycles) (ha : a ∈ cycle) (hab : graph.Joined a b) : b ∈ cycle :=
  mem_of_joined closed (List.mem_filter.1 h).1 ha hab

/-- A step from a node on a cycle to the next one. -/
def StepsOn (graph : Graph) (cycle : List Nat) (a b : Nat) : Prop :=
  a ∈ cycle ∧ b ∈ cycle ∧ b ∈ graph.next a

/-- A path to a joined node does not leave the cycle, since from each of its nodes there is a way back. -/
theorem stepsOn_of_joined (closed : graph.Closed) {cycle : List Nat} (h : cycle ∈ graph.schedule.cycles)
    (ha : a ∈ cycle) (hjoined : graph.Joined a b) : Relation.ReflTransGen (graph.StepsOn cycle) a b := by
  have hmem : ∀ c, graph.Leads a c → graph.Leads c a → c ∈ cycle := fun c hleads hback =>
    mem_cycle_of_joined closed h ha ⟨hleads, hback⟩
  obtain ⟨hleads, hback⟩ := hjoined
  induction hleads with
  | refl => exact .refl
  | @tail b c hab hbc ih =>
    have hback' : graph.Leads b a := hback.head hbc
    exact (ih hback').tail ⟨hmem b hab hback', hmem c (hab.tail hbc) hback, hbc⟩

/-- From each node on a cycle steps lead to every node on it, also back to itself. -/
theorem exists_steps_of_mem_cycle (closed : graph.Closed) {cycle : List Nat}
    (h : cycle ∈ graph.schedule.cycles) (ha : a ∈ cycle) (hb : b ∈ cycle) :
    Relation.TransGen (graph.StepsOn cycle) a b := by
  have hsteps : ∀ {a b}, a ∈ cycle → b ∈ cycle → Relation.ReflTransGen (graph.StepsOn cycle) a b :=
    fun ha hb => stepsOn_of_joined closed h ha (joined_of_mem_cycle closed h ha hb)
  obtain ⟨-, c, -, hne, hjoined⟩ := exists_joined_of_mem_cycle closed h ha
  have hc := mem_cycle_of_joined closed h ha hjoined
  rcases Relation.reflTransGen_iff_eq_or_transGen.1 (hsteps ha hc) with heq | hac
  · exact absurd heq hne
  · exact hac.trans_left (hsteps hc hb)

theorem cycle_ne_nil {cycle : List Nat} (h : cycle ∈ graph.schedule.cycles) : cycle ≠ [] := by
  have hlen := (List.mem_filter.1 h).2
  rintro rfl
  simp at hlen

theorem pairwise_disjoint_cycles (closed : graph.Closed) : graph.schedule.cycles.Pairwise List.Disjoint :=
  (pairwise_disjoint_components closed).filter _

/-! ### Arrangements -/

variable {isBefore : Nat → Nat → Bool} {nodes before after : List Nat}

/-- What comes first in an arrangement is what is found first, and the rest is arranged. -/
theorem arrange_eq_cons {node : Nat} {rest : List Nat} (h : arrange isBefore nodes = node :: rest) :
    (∀ other ∈ nodes, isBefore other node = false) ∧ arrange isBefore (nodes.erase node) = rest := by
  rw [arrange] at h
  split at h
  · cases h
  · rename_i found hfound
    obtain ⟨rfl, hrest⟩ := List.cons.inj h
    exact ⟨by simpa using List.find?_some hfound, hrest⟩

/-- What has to come before a node in an arrangement does. -/
theorem mem_before_of_arrange (h : arrange isBefore nodes = before ++ b :: after)
    (ha : a ∈ nodes) (hab : isBefore a b = true) : a ∈ before := by
  induction before generalizing nodes with
  | nil =>
    have := (arrange_eq_cons h).1 a ha
    rw [hab] at this; cases this
  | cons node before ih =>
    obtain ⟨-, hrest⟩ := arrange_eq_cons h
    by_cases hne : a = node
    · simp [hne]
    · exact List.mem_cons_of_mem _ (ih hrest ((List.mem_erase_of_ne hne).2 ha))

/-- Among some nodes on no cycle, there is one that no other has to come before. -/
theorem exists_first (acyclic : ∀ a ∈ nodes, ¬ Relation.TransGen (fun a b => isBefore a b = true) a a)
    (hne : nodes ≠ []) : ∃ a ∈ nodes, ∀ b ∈ nodes, isBefore b a = false := by
  let precedes (x y : {a // a ∈ nodes}) := Relation.TransGen (fun a b => isBefore a b = true) x.1 y.1
  have : IsTrans _ precedes := ⟨fun _ _ _ => Relation.TransGen.trans⟩
  have : Std.Irrefl precedes := ⟨fun x => acyclic x.1 x.2⟩
  obtain ⟨first, hfirst⟩ := List.exists_mem_of_ne_nil nodes hne
  obtain ⟨x, -, hx⟩ := (Finite.wellFounded_of_trans_of_irrefl precedes).has_min Set.univ
    ⟨⟨first, hfirst⟩, trivial⟩
  exact ⟨x.1, x.2, fun b hb => Bool.eq_false_iff.2 fun h => hx ⟨b, hb⟩ trivial (.single h)⟩

/-- An arrangement without cycles leaves nothing out. -/
theorem arrange_perm
    (acyclic : ∀ a ∈ nodes, ¬ Relation.TransGen (fun a b => isBefore a b = true) a a) :
    (arrange isBefore nodes).Perm nodes := by
  induction hlen : nodes.length generalizing nodes with
  | zero =>
    obtain rfl := List.length_eq_zero_iff.1 hlen
    rw [arrange]; simp
  | succ n ih =>
    obtain ⟨a, ha, hfirst⟩ := exists_first acyclic (by rintro rfl; simp at hlen)
    have hsome : (nodes.find? fun node => nodes.all fun other => !isBefore other node).isSome :=
      List.find?_isSome.2 ⟨a, ha, by simpa using hfirst⟩
    obtain ⟨node, hfound⟩ := Option.isSome_iff_exists.1 hsome
    have hnode := List.mem_of_find?_eq_some hfound
    rw [arrange_of_find hfound]
    refine .trans (.cons node (ih (fun b hb => acyclic b (List.mem_of_mem_erase hb)) ?_))
      (List.perm_cons_erase hnode).symm
    rw [List.length_erase_of_mem hnode, hlen]; rfl

/-! ### Schedules -/

/-- The nodes that a schedule puts before others. -/
def precedes (graph : Graph) (a b : Nat) : Bool := (graph.waiting graph.schedule.cycles a).contains b

theorem precedes_iff_apart : graph.precedes a b = true ↔
    b ∈ graph.next a ∧ ¬ ∃ cycle ∈ graph.schedule.cycles, a ∈ cycle ∧ b ∈ cycle := by
  rw [precedes, List.contains_iff_mem, waiting, List.mem_filter]
  simp only [Bool.and_eq_true, List.contains_iff_mem, Bool.not_eq_true', Bool.eq_false_iff, ne_eq,
    List.any_eq_true]

/-- They are those without a way back. -/
theorem precedes_iff (closed : graph.Closed) (ha : a ∈ graph.nodes) (hne : a ≠ b) :
    graph.precedes a b = true ↔ b ∈ graph.next a ∧ ¬ graph.Leads b a := by
  rw [precedes_iff_apart]
  refine and_congr_right fun hnext => not_congr ⟨fun ⟨cycle, hcycle, hac, hbc⟩ => ?_, fun hback => ?_⟩
  · exact (joined_of_mem_cycle closed hcycle hac hbc).2
  · exact exists_cycle closed ha hne ⟨.single hnext, hback⟩

/-- The sorting of a graph comes to an end without taking away an edge that was not counted, and its order is
the arrangement of the nodes. -/
theorem exists_sorting (closed : graph.Closed) (ascending : graph.nodes.Pairwise (· < ·)) :
    ∃ sorting, graph.sort? graph.schedule.cycles = some sorting ∧
      sorting.order = arrange graph.precedes graph.nodes := by
  have hclosed : ∀ a ∈ graph.nodes, ∀ b ∈ graph.waiting graph.schedule.cycles a, b ∈ graph.nodes :=
    fun a ha b hb => closed a ha b (List.mem_filter.1 hb).1
  exact (Sorting.stage_start hclosed ascending).run (Nat.le_refl _)

section

variable (closed : graph.Closed) (ascending : graph.nodes.Pairwise (· < ·))
include closed ascending

theorem schedule_order : graph.schedule.order = arrange graph.precedes graph.nodes := by
  obtain ⟨sorting, hsort, horder⟩ := exists_sorting closed ascending
  show ((graph.sort? graph.schedule.cycles).map (·.order)).getD [] = _
  rw [hsort]
  exact horder

/-- A schedule puts a node before its successors, but for those that lead back to it. -/
theorem mem_before_of_schedule (h : graph.schedule.order = before ++ b :: after) (ha : a ∈ graph.nodes)
    (hne : a ≠ b) (hnext : b ∈ graph.next a) (hback : ¬ graph.Leads b a) : a ∈ before := by
  rw [schedule_order closed ascending] at h
  exact mem_before_of_arrange h ha ((precedes_iff closed ha hne).2 ⟨hnext, hback⟩)

/-- A schedule holds every node as often as the graph. -/
theorem schedule_perm (loopless : ∀ a, a ∉ graph.next a) : graph.schedule.order.Perm graph.nodes := by
  rw [schedule_order closed ascending]
  refine arrange_perm fun a ha hcycle => ?_
  -- the first step of a cycle is one that the cycle leads back from
  obtain ⟨b, hab, hba⟩ := Relation.TransGen.head'_iff.1 hcycle
  have hnext : b ∈ graph.next a := (precedes_iff_apart.1 hab).1
  have hne : a ≠ b := fun h => loopless a (h ▸ hnext)
  have hback : graph.Leads b a :=
    Relation.ReflTransGen.mono (fun c d hcd => (precedes_iff_apart.1 hcd).1) b a hba
  exact ((precedes_iff closed ha hne).1 hab).2 hback

end

end Formwork.Graph
