import Mathlib.Logic.Relation
import Formwork.Graph.Basic

/-!
# Paths in graphs

A node leads to another along edges (`Graph.Leads`), and two nodes are joined if each leads to the other. A
graph that is made edge by edge has the edges that were added and no others (`mem_next_ofSources`).
-/

namespace Formwork

namespace Graph

variable {graph : Graph} {nodes : List Nat} {a b c : Nat}

/-- A path leads from one node to another. -/
def Leads (graph : Graph) : Nat → Nat → Prop := Relation.ReflTransGen fun a b => b ∈ graph.next a

/-- What follows a node is a node, too. -/
def Closed (graph : Graph) : Prop := ∀ a ∈ graph.nodes, ∀ b ∈ graph.next a, b ∈ graph.nodes

instance (graph : Graph) : Decidable graph.Closed :=
  inferInstanceAs (Decidable (∀ a ∈ graph.nodes, ∀ b ∈ graph.next a, b ∈ graph.nodes))

theorem Leads.mem (h : graph.Leads a b) (closed : graph.Closed) (ha : a ∈ graph.nodes) :
    b ∈ graph.nodes := by
  induction h with
  | refl => exact ha
  | tail _ hstep ih => exact closed _ ih _ hstep

/-- A path is one in a graph with more edges, too. -/
theorem Leads.mono {other : Graph} (h : graph.Leads a b) (hsub : ∀ a, ∀ b ∈ graph.next a, b ∈ other.next a) :
    other.Leads a b :=
  Relation.ReflTransGen.mono hsub a b h

/-- Each of two nodes leads to the other. -/
def Joined (graph : Graph) (a b : Nat) : Prop := graph.Leads a b ∧ graph.Leads b a

namespace Joined

theorem symm (h : graph.Joined a b) : graph.Joined b a := ⟨h.2, h.1⟩

theorem trans (h : graph.Joined a b) (h' : graph.Joined b c) : graph.Joined a c :=
  ⟨h.1.trans h'.1, h'.2.trans h.2⟩

end Joined

/-! ### Edges -/

variable {edges : List (Nat × List Nat)}

theorem mem_next_link (source node : Nat) : b ∈ (ofEdges nodes (link source node edges)).next a ↔
    b ∈ (ofEdges nodes edges).next a ∨ a = source ∧ b = node := by
  simp only [ofEdges]
  induction edges with
  | nil =>
    by_cases h : a = source
    · simp [link, h]
    · simp [link, h, List.lookup_cons, beq_false_of_ne h]
  | cons first rest ih =>
    obtain ⟨other, successors⟩ := first
    rw [link]
    split
    · rename_i hother
      subst hother
      by_cases h : a = other
      · simp [h]
      · simp [h, List.lookup_cons, beq_false_of_ne h]
    · rename_i hother
      by_cases h : a = other
      · have hne : a ≠ source := fun hsource => hother (h.symm.trans hsource)
        subst h
        simp [hne]
      · simpa [List.lookup_cons, beq_false_of_ne h] using ih

theorem mem_next_foldl_link (sources : List Nat) (node : Nat) :
    b ∈ (ofEdges nodes (sources.foldl (fun edges source => link source node edges) edges)).next a ↔
      b ∈ (ofEdges nodes edges).next a ∨ a ∈ sources ∧ b = node := by
  induction sources generalizing edges with
  | nil => simp
  | cons source sources ih => rw [List.foldl_cons, ih, mem_next_link, List.mem_cons, or_assoc, ← or_and_right]

/-- A node stands behind its sources and nothing else. -/
theorem mem_next_ofSources {sources : Nat → List Nat} :
    b ∈ (ofSources nodes sources).next a ↔ b ∈ nodes ∧ a ∈ sources b := by
  -- over the nodes that were gone through, whatever edges there were before
  have hfold : ∀ (targets : List Nat) edges, b ∈ (ofEdges nodes (targets.foldl (fun edges node =>
      (sources node).foldl (fun edges source => link source node edges) edges) edges)).next a ↔
        b ∈ (ofEdges nodes edges).next a ∨ b ∈ targets ∧ a ∈ sources b := by
    intro targets
    induction targets with
    | nil => simp
    | cons target targets ih =>
      intro edges
      rw [List.foldl_cons, ih, mem_next_foldl_link, List.mem_cons, or_assoc, or_and_right]
      refine or_congr_right (or_congr_left ⟨?_, ?_⟩)
      · rintro ⟨hsource, rfl⟩; exact ⟨rfl, hsource⟩
      · rintro ⟨rfl, hsource⟩; exact ⟨hsource, rfl⟩
  rw [ofSources, hfold]
  simp [ofEdges]

end Graph

end Formwork
