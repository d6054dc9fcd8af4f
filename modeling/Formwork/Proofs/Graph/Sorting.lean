import Mathlib.Data.List.Count
import Formwork.Graph.Schedule
import Formwork.Proofs.Graph.Ascending

/-!
# Sortings make arrangements

An arrangement takes, as long as there is one, the first node that no other one left has to come before
(`Graph.arrange`). A sorting does not look at the nodes left to find it. Its counts are those of the edges
that were not taken away, and what is left without such an edge is ready (`Sorting.Counts`), which taking an
edge away keeps (`Counts.drop`). So between two nodes the counts are those of the edges among the nodes left
(`Sorting.Stage`), the least one that is ready is the first that an arrangement takes, and when none is ready
nothing is left for the arrangement either (`Stage.run`).
-/

namespace Formwork

/-- Takes, as long as there is one, the first node that no other one left has to come before. -/
def Graph.arrange (isBefore : Nat → Nat → Bool) (nodes : List Nat) : List Nat :=
  match _found : nodes.find? fun node => nodes.all fun other => !isBefore other node with
  | none => []
  | some node => node :: arrange isBefore (nodes.erase node)
termination_by nodes.length
decreasing_by
  have member := List.mem_of_find?_eq_some _found
  have positive := List.length_pos_of_mem member
  rw [List.length_erase_of_mem member]
  omega

namespace Graph

variable {isBefore : Nat → Nat → Bool} {nodes : List Nat} {node : Nat}

theorem arrange_of_find
    (h : (nodes.find? fun node => nodes.all fun other => !isBefore other node) = some node) :
    arrange isBefore nodes = node :: arrange isBefore (nodes.erase node) := by
  rw [arrange]; split
  · rename_i h'; rw [h] at h'; cases h'
  · rename_i h'; rw [h] at h'; cases h'; rfl

theorem arrange_of_find_none
    (h : (nodes.find? fun node => nodes.all fun other => !isBefore other node) = none) :
    arrange isBefore nodes = [] := by
  rw [arrange]; split
  · rfl
  · rename_i h'; rw [h] at h'; cases h'

end Graph

namespace Sorting

variable {next : Nat → List Nat} {nodes left heads heap targets : List Nat} {sorting : Sorting}
  {node count : Nat}

/-! ### Tables -/

theorem lookup_table (f : Nat → Nat) (nodes : List Nat) (a : Nat) :
    (nodes.map fun node => (node, f node)).lookup a = if a ∈ nodes then some (f a) else none := by
  induction nodes with
  | nil => rfl
  | cons node nodes ih =>
    rw [List.map_cons, List.lookup_cons, ih]
    by_cases h : a = node
    · subst h; simp
    · simp [h, beq_false_of_ne h]

theorem setCount_table (f : Nat → Nat) (nodes : List Nat) :
    setCount node count (nodes.map fun other => (other, f other)) =
      nodes.map fun other => (other, if other = node then count else f other) := by
  rw [setCount, List.map_map]
  refine List.map_congr_left fun other _ => ?_
  simp only [Function.comp]
  split
  · rename_i h; rw [h]
  · rfl

/-! ### Edges -/

/-- The sorting counts the edges with the given heads, and what is left without one is ready. -/
structure Counts (nodes left heads : List Nat) (sorting : Sorting) : Prop where
  counts : sorting.counts = nodes.map fun node => (node, heads.count node)
  ready : sorting.ready = left.filter fun node => !heads.contains node

theorem Counts.perm {others : List Nat} (h : Counts nodes left heads sorting) (hperm : heads.Perm others) :
    Counts nodes left others sorting := by
  have hcontains : ∀ node, heads.contains node = others.contains node := fun node =>
    Bool.eq_iff_iff.2 (by simp only [List.contains_iff_mem, hperm.mem_iff])
  refine ⟨h.counts.trans ?_, h.ready.trans ?_⟩
  · simp only [hperm.count_eq]
  · simp only [hcontains]

/-- An edge that is counted can be taken away. -/
theorem Counts.drop (h : Counts nodes left (node :: heads) sorting) (ascending : left.Pairwise (· < ·))
    (hnodes : node ∈ nodes) (hleft : node ∈ left) :
    ∃ after, sorting.drop node = some after ∧ after.order = sorting.order ∧ Counts nodes left heads after := by
  have hlookup : sorting.counts.lookup node = some (heads.count node + 1) := by
    rw [h.counts, lookup_table, if_pos hnodes, List.count_cons_self]
  have hcounts : setCount node (heads.count node) sorting.counts =
      nodes.map fun other => (other, heads.count other) := by
    rw [h.counts, setCount_table]
    refine List.map_congr_left fun other _ => ?_
    split
    · rename_i heq; rw [heq]
    · rename_i hne; rw [List.count_cons_of_ne (Ne.symm hne)]
  rw [Sorting.drop, hlookup]
  refine ⟨_, rfl, rfl, hcounts, ?_⟩
  show (if heads.count node = 0 then _ else _) = _
  rw [h.ready]
  -- the node becomes ready with its last edge, and then in its place among the nodes left
  by_cases hlast : node ∈ heads
  · rw [if_neg (Nat.ne_of_gt (List.count_pos_iff.2 hlast))]
    refine List.filter_congr fun other _ => ?_
    by_cases heq : other = node <;> simp [heq, hlast]
  · rw [if_pos (List.count_eq_zero.2 hlast), insertAscending_filter ascending hleft (by simp)]
    refine List.filter_congr fun other _ => ?_
    by_cases heq : other = node <;> simp [heq, hlast]

theorem Counts.drops (h : Counts nodes left (targets ++ heads) sorting) (ascending : left.Pairwise (· < ·))
    (hnodes : ∀ a ∈ left, a ∈ nodes) (htargets : ∀ a ∈ targets, a ∈ left) :
    ∃ after, targets.foldlM Sorting.drop sorting = some after ∧ after.order = sorting.order ∧
      Counts nodes left heads after := by
  induction targets generalizing sorting with
  | nil => exact ⟨sorting, rfl, rfl, h⟩
  | cons target targets ih =>
    have htarget := htargets target List.mem_cons_self
    obtain ⟨middle, hdrop, horder, hcounts⟩ := Counts.drop h ascending (hnodes target htarget) htarget
    obtain ⟨after, hdrops, horder', hafter⟩ := ih hcounts fun a ha => htargets a (List.mem_cons_of_mem _ ha)
    refine ⟨after, ?_, horder'.trans horder, hafter⟩
    rw [List.foldlM_cons, hdrop]
    exact hdrops

/-! ### Nodes -/

/-- A stage between two nodes: no edge leads out of those left, and the edges among them are counted. -/
structure Stage (next : Nat → List Nat) (nodes left : List Nat) (sorting : Sorting) : Prop
    extends Counts nodes left (left.flatMap next) sorting where
  nodes : ∀ a ∈ left, a ∈ nodes
  ascending : left.Pairwise (· < ·)
  closed : ∀ a ∈ left, ∀ b ∈ next a, b ∈ left

/-- What is ready first is what an arrangement of the nodes left takes first. -/
theorem Stage.find_eq (h : Stage next nodes left sorting) :
    (left.find? fun node => left.all fun other => !(next other).contains node) = sorting.ready.head? := by
  rw [h.ready, List.head?_filter]
  refine congrArg (left.find? ·) (funext fun node => Bool.eq_iff_iff.2 ?_)
  simp

theorem Stage.take (h : Stage next nodes left sorting) (hready : sorting.ready = node :: heap) :
    ∃ after, sorting.take next node heap = some after ∧ after.order = sorting.order ++ [node] ∧
      Stage next nodes (left.erase node) after := by
  have hfilter := h.ready.symm.trans hready
  obtain ⟨hnode, hfree⟩ := List.mem_filter.1 (hfilter ▸ List.mem_cons_self (a := node) (l := heap))
  have hfree : node ∉ left.flatMap next := by simpa using hfree
  have hnodup : left.Nodup := h.ascending.imp Nat.ne_of_lt
  have hperm : (left.flatMap next).Perm (next node ++ (left.erase node).flatMap next) :=
    (List.perm_cons_erase hnode).flatMap_right next
  -- no edge leads back to the node, so that its edges lead to others left
  have hclosed : ∀ a ∈ left, ∀ b ∈ next a, b ∈ left.erase node := by
    intro a ha b hb
    have hne : b ≠ node := by
      rintro rfl
      exact hfree (List.mem_flatMap.2 ⟨a, ha, hb⟩)
    exact (List.mem_erase_of_ne hne).2 (h.closed a ha b hb)
  have hascending := h.ascending.sublist (List.erase_sublist (a := node))
  have hinner : ∀ a ∈ left.erase node, a ∈ nodes := fun a ha => h.nodes a (List.mem_of_mem_erase ha)
  have hheap : heap = (left.erase node).filter fun other => !(left.flatMap next).contains other := by
    rw [hnodup.erase_eq_filter, List.filter_comm, ← (hnodup.filter _).erase_eq_filter, hfilter,
      List.erase_cons_head]
  have hcounts : Counts nodes (left.erase node) (next node ++ (left.erase node).flatMap next)
      { sorting with ready := heap, order := sorting.order ++ [node] } :=
    Counts.perm ⟨h.counts, hheap⟩ hperm
  obtain ⟨after, hdrops, horder, hafter⟩ := hcounts.drops hascending hinner (hclosed node hnode)
  exact ⟨after, hdrops, horder, { hafter with
    nodes := hinner
    ascending := hascending
    closed := fun a ha => hclosed a (List.mem_of_mem_erase ha) }⟩

/-- A sorting ends, and has put the nodes left behind those that were taken as they are arranged. -/
theorem Stage.run {steps : Nat} (h : Stage next nodes left sorting) (hsteps : left.length ≤ steps) :
    ∃ done, sorting.run next steps = some done ∧
      done.order = sorting.order ++ Graph.arrange (fun a b => (next a).contains b) left := by
  have hfind := h.find_eq
  induction steps generalizing left sorting with
  | zero =>
    obtain rfl := List.length_eq_zero_iff.1 (Nat.le_zero.1 hsteps)
    have hready : sorting.ready = [] := h.ready
    refine ⟨sorting, by rw [Sorting.run, hready]; rfl, ?_⟩
    rw [Graph.arrange_of_find_none rfl, List.append_nil]
  | succ steps ih =>
    cases hready : sorting.ready with
    | nil =>
      rw [hready] at hfind
      exact ⟨sorting, by rw [Sorting.run, hready], by rw [Graph.arrange_of_find_none hfind, List.append_nil]⟩
    | cons node heap =>
      rw [hready] at hfind
      obtain ⟨after, htake, horder, hafter⟩ := h.take hready
      have hmem := List.mem_of_find?_eq_some hfind
      have hlength : (left.erase node).length ≤ steps := by
        rw [List.length_erase_of_mem hmem]; omega
      obtain ⟨done, hrun, hdone⟩ := ih hafter hlength hafter.find_eq
      refine ⟨done, ?_, ?_⟩
      · rw [Sorting.run, hready]
        show (sorting.take next node heap).bind _ = _
        rw [htake]
        exact hrun
      · rw [hdone, horder, Graph.arrange_of_find hfind, List.append_assoc]; rfl

/-! ### The first stage -/

theorem add_table (heads : List Nat) (hnode : node ∈ nodes) :
    add (nodes.map fun other => (other, heads.count other)) node =
      nodes.map fun other => (other, (heads ++ [node]).count other) := by
  rw [add, lookup_table, if_pos hnode]
  show setCount node (heads.count node + 1) _ = _
  rw [setCount_table]
  refine List.map_congr_left fun other _ => ?_
  rw [List.count_append, List.count_singleton]
  by_cases heq : other = node
  · simp [heq]
  · simp [heq, Ne.symm heq]

theorem foldl_add_table (heads : List Nat) (htargets : ∀ a ∈ targets, a ∈ nodes) :
    targets.foldl add (nodes.map fun other => (other, heads.count other)) =
      nodes.map fun other => (other, (heads ++ targets).count other) := by
  induction targets generalizing heads with
  | nil => rw [List.append_nil]; rfl
  | cons target targets ih =>
    rw [List.foldl_cons, add_table heads (htargets target List.mem_cons_self),
      ih _ fun a ha => htargets a (List.mem_cons_of_mem _ ha), List.append_assoc]
    rfl

theorem counts_start (closed : ∀ a ∈ nodes, ∀ b ∈ next a, b ∈ nodes) :
    (start next nodes).counts = nodes.map fun node => (node, (nodes.flatMap next).count node) := by
  have hfold : ∀ sources heads : List Nat, (∀ a ∈ sources, a ∈ nodes) →
      sources.foldl (fun counts node => (next node).foldl add counts)
        (nodes.map fun node => (node, heads.count node)) =
        nodes.map fun node => (node, (heads ++ sources.flatMap next).count node) := by
    intro sources
    induction sources with
    | nil => intro heads _; simp
    | cons source sources ih =>
      intro heads hsources
      rw [List.foldl_cons, foldl_add_table heads (closed source (hsources source List.mem_cons_self)),
        ih _ fun a ha => hsources a (List.mem_cons_of_mem _ ha), List.append_assoc]
      rfl
  exact hfold nodes [] fun _ h => h

/-- At first all nodes are left, and all edges are counted. -/
theorem stage_start (closed : ∀ a ∈ nodes, ∀ b ∈ next a, b ∈ nodes) (ascending : nodes.Pairwise (· < ·)) :
    Stage next nodes nodes (start next nodes) where
  counts := counts_start closed
  ready := by
    have hfree : ((start next nodes).counts.filter (·.2 == 0)).map (·.1) =
        nodes.filter fun node => !(nodes.flatMap next).contains node := by
      rw [counts_start closed, List.filter_map, List.map_map]
      show List.map id _ = _
      rw [List.map_id]
      refine List.filter_congr fun node _ => Bool.eq_iff_iff.2 ?_
      simp [List.count_eq_zero]
    have hascending := ascending.filter fun node => !(nodes.flatMap next).contains node
    show Formwork.ascending (((start next nodes).counts.filter (·.2 == 0)).map (·.1)) = _
    rw [hfree]
    exact ascending_eq_self hascending
  nodes _ h := h
  ascending := ascending
  closed := closed

end Sorting

end Formwork
