import Formwork.Proofs.Graph.Descent

/-!
# Components and reachability

Two nodes of a graph are joined if each leads to the other. The components of a graph are what its nodes are
joined to, in ascending order (`mem_components`), so two nodes share a component exactly if they are joined.
No component leads to one that comes after it (`components_exact`).
-/

namespace Formwork.Graph

variable {graph : Graph} {component : List Nat} {a b : Nat}

/-- The components are those of a descent that did not fail. -/
theorem exists_descent_components (closed : graph.Closed) : ∃ descent, graph.descent? = some descent ∧
    descent.components = graph.components ∧ descent.Inv graph ∧ ∀ a, a ∈ graph.nodes ↔ descent.Done a := by
  obtain ⟨descent, hdescent, hinv, hdone⟩ := exists_descent closed
  exact ⟨descent, hdescent, by rw [components, hdescent]; rfl, hinv, hdone⟩

theorem mem_nodes_iff (closed : graph.Closed) :
    a ∈ graph.nodes ↔ ∃ component ∈ graph.components, a ∈ component := by
  obtain ⟨descent, -, hsame, -, hdone⟩ := exists_descent_components closed
  rw [hdone, Descent.Done, hsame]

/-- The components are what each node is joined to. -/
theorem mem_components (closed : graph.Closed) : component ∈ graph.components ↔
    component.Pairwise (· < ·) ∧ ∃ a ∈ graph.nodes, ∀ b, b ∈ component ↔ graph.Joined a b := by
  obtain ⟨descent, -, hsame, hinv, hdone⟩ := exists_descent_components closed
  rw [← hsame]
  constructor
  · intro h
    obtain ⟨hascending, a, ha, hjoined⟩ := hinv.component component h
    exact ⟨hascending, a, (hdone a).2 ⟨component, h, ha⟩, hjoined⟩
  · rintro ⟨hascending, a, ha, hjoined⟩
    obtain ⟨other, hother, hmem⟩ := (hdone a).1 ha
    obtain ⟨hascending', c, -, hjoined'⟩ := hinv.component other hother
    have hac := (hjoined' a).1 hmem
    have heq : component = other := hascending.eq_of_mem_iff hascending' fun b => by
      rw [hjoined, hjoined']
      exact ⟨hac.trans, hac.symm.trans⟩
    rwa [heq]

theorem joined_of_mem_components (closed : graph.Closed) (h : component ∈ graph.components)
    (ha : a ∈ component) (hb : b ∈ component) : graph.Joined a b := by
  obtain ⟨-, c, -, hjoined⟩ := (mem_components closed).1 h
  exact ((hjoined a).1 ha).symm.trans ((hjoined b).1 hb)

theorem mem_of_joined (closed : graph.Closed) (h : component ∈ graph.components) (ha : a ∈ component)
    (hab : graph.Joined a b) : b ∈ component := by
  obtain ⟨-, c, -, hjoined⟩ := (mem_components closed).1 h
  exact (hjoined b).2 (((hjoined a).1 ha).trans hab)

/-- No component leads to one that comes after it. -/
theorem pairwise_components (closed : graph.Closed) :
    graph.components.Pairwise fun first second => ∀ a ∈ first, ∀ b ∈ second, ¬ graph.Leads a b := by
  obtain ⟨descent, -, hsame, hinv, -⟩ := exists_descent_components closed
  exact hsame ▸ hinv.ordered

/-- The components of a graph have no node in common. -/
theorem pairwise_disjoint_components (closed : graph.Closed) : graph.components.Pairwise List.Disjoint :=
  (pairwise_components closed).imp fun h a ha hb => h a ha a hb .refl

/-- The descent comes to an end without looking up a number that was not noted, and its components are a
partition of the nodes. Two nodes share a component if and only if each leads to the other. Each component is
in ascending order, and a component comes before every other one that leads to it. -/
theorem components_exact (closed : graph.Closed) :
    (∃ descent, graph.descent? = some descent ∧ descent.components = graph.components) ∧
    ((∀ a, a ∈ graph.nodes ↔ ∃ component ∈ graph.components, a ∈ component) ∧
      graph.components.Pairwise List.Disjoint ∧ [] ∉ graph.components) ∧
    (∀ a ∈ graph.nodes, ∀ b ∈ graph.nodes,
      (∃ component ∈ graph.components, a ∈ component ∧ b ∈ component) ↔ graph.Leads a b ∧ graph.Leads b a) ∧
    (∀ component ∈ graph.components, component.Pairwise (· < ·)) ∧
    graph.components.Pairwise fun first second => ∀ a ∈ first, ∀ b ∈ second, ¬ graph.Leads a b := by
  obtain ⟨descent, hdescent, hsame, -, -⟩ := exists_descent_components closed
  refine ⟨⟨descent, hdescent, hsame⟩, ⟨fun a => mem_nodes_iff closed, pairwise_disjoint_components closed, ?_⟩,
    fun a ha b _ => ⟨?_, ?_⟩, fun component h => ((mem_components closed).1 h).1, pairwise_components closed⟩
  · intro hempty
    obtain ⟨-, a, -, hjoined⟩ := (mem_components closed).1 hempty
    exact nomatch (hjoined a).2 ⟨.refl, .refl⟩
  · rintro ⟨component, h, hca, hcb⟩
    exact joined_of_mem_components closed h hca hcb
  · intro hjoined
    obtain ⟨component, h, hca⟩ := (mem_nodes_iff closed).1 ha
    exact ⟨component, h, hca, mem_of_joined closed h hca hjoined⟩

/-- Two cycles with a way from one to the other, a loop and an edge that is listed twice. -/
def twoCycles : Graph :=
  .ofEdges [0, 1, 2, 3, 4] [(0, [1]), (1, [2, 0, 3]), (2, [1]), (3, [4]), (4, [3, 3, 4])]

theorem components_exact_twoCycles : twoCycles.Closed ∧ twoCycles.components = [[3, 4], [0, 1, 2]] ∧
    twoCycles.Leads 0 2 ∧ twoCycles.Leads 2 0 ∧ ¬ twoCycles.Leads 3 0 := by
  have closed : twoCycles.Closed := by decide +kernel
  have hcomponents : twoCycles.components = [[3, 4], [0, 1, 2]] := by decide +kernel
  obtain ⟨-, -, hjoined, -, hordered⟩ := components_exact closed
  rw [hcomponents] at hjoined hordered
  obtain ⟨hto, hback⟩ := (hjoined 0 (by decide) 2 (by decide)).1 ⟨[0, 1, 2], by decide, by decide, by decide⟩
  have hapart := (List.pairwise_cons.1 hordered).1 [0, 1, 2] (by decide) 3 (by decide) 0 (by decide)
  exact ⟨closed, hcomponents, hto, hback, hapart⟩

end Formwork.Graph
