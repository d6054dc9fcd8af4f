/-!
# Graphs

A `Graph` has numbered nodes and lists of successors. Where it is known what each node follows, the
lists are made edge by edge (`Graph.ofSources`).
-/

namespace Formwork

/-- Puts a number in its place among ascending ones. -/
def insertAscending (a : Nat) : List Nat → List Nat
  | [] => [a]
  | b :: rest => if a ≤ b then a :: b :: rest else b :: insertAscending a rest

/-- The same numbers in ascending order. -/
def ascending (nodes : List Nat) : List Nat := nodes.foldr insertAscending []

/-- Some nodes and the successors of each. -/
structure Graph where
  nodes : List Nat
  next : Nat → List Nat

namespace Graph

/-- Adds an edge to some lists of successors, at the end of the list of its first node. -/
def link (node successor : Nat) : List (Nat × List Nat) → List (Nat × List Nat)
  | [] => [(node, [successor])]
  | (other, successors) :: rest =>
    if other = node then (other, successors ++ [successor]) :: rest
    else (other, successors) :: link node successor rest

/-- The graph of some nodes with lists of successors. -/
def ofEdges (nodes : List Nat) (edges : List (Nat × List Nat)) : Graph where
  nodes
  next node := (edges.lookup node).getD []

/-- The graph of some nodes, each of which follows its sources. -/
def ofSources (nodes : List Nat) (sources : Nat → List Nat) : Graph :=
  .ofEdges nodes <| nodes.foldl (fun edges node =>
    (sources node).foldl (fun edges source => link source node edges) edges) []

end Graph

end Formwork
