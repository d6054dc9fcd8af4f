import Formwork.Graph.Component

/-!
# Orders of graphs

A `Schedule` puts the nodes of a graph in an order in which a node stands before its successors,
unless the two are on a cycle. The order comes from a loop (Kahn's) that counts for each node the edges
which still have to be taken away before it, and takes the least node for which there is none. The loop
would fail if it took away an edge that was not counted or took too many steps.
-/

namespace Formwork

/-- The nodes in order, and the components with several nodes. -/
structure Schedule where
  order : List Nat
  cycles : List (List Nat)

/-- Whether a node is on a cycle. -/
def Schedule.freezes (schedule : Schedule) (node : Nat) : Bool :=
  schedule.cycles.any (·.contains node)

/-- A sorting of nodes under way. -/
structure Sorting where
  /-- For each node, how many edges into it come from nodes that were not taken. -/
  counts : List (Nat × Nat)
  /-- The nodes without such edges that were not taken: a heap, whose least node stands first. -/
  ready : List Nat
  /-- The nodes that were taken, in order. -/
  order : List Nat := []

namespace Sorting

/-- Sets the number of edges into a node. -/
def setCount (node count : Nat) (counts : List (Nat × Nat)) : List (Nat × Nat) :=
  counts.map fun entry => if entry.1 = node then (node, count) else entry

/-- Counts an edge into a node. -/
def add (counts : List (Nat × Nat)) (node : Nat) : List (Nat × Nat) :=
  match counts.lookup node with
  | none => counts
  | some count => setCount node (count + 1) counts

/-- Takes an edge into a node away. With the last of them the node is ready. -/
def drop (sorting : Sorting) (node : Nat) : Option Sorting :=
  match sorting.counts.lookup node with
  | none => some sorting
  | some 0 => none
  | some (count + 1) =>
    some { sorting with
      counts := setCount node count sorting.counts
      ready := if count = 0 then insertAscending node sorting.ready else sorting.ready }

/-- The sorting before the first node is taken. -/
def start (next : Nat → List Nat) (nodes : List Nat) : Sorting :=
  let counts := nodes.foldl (fun counts node => (next node).foldl add counts)
    (nodes.map fun node => (node, 0))
  { counts, ready := ascending ((counts.filter (·.2 == 0)).map (·.1)) }

/-- Takes a node from the heap, and the edges from it away. -/
def take (next : Nat → List Nat) (sorting : Sorting) (node : Nat) (heap : List Nat) : Option Sorting :=
  (next node).foldlM drop { sorting with ready := heap, order := sorting.order ++ [node] }

/-- Takes nodes until none is ready, if these are no more than so many. -/
def run (next : Nat → List Nat) : Nat → Sorting → Option Sorting
  | 0, sorting => if sorting.ready.isEmpty then some sorting else none
  | steps + 1, sorting =>
    match sorting.ready with
    | [] => some sorting
    | node :: heap => (sorting.take next node heap).bind (run next steps)

end Sorting

namespace Graph

/-- The successors that wait for a node. Those on a common cycle do not. -/
def waiting (graph : Graph) (cycles : List (List Nat)) (node : Nat) : List Nat :=
  (graph.next node).filter fun successor =>
    !cycles.any fun cycle => cycle.contains node && cycle.contains successor

/-- The sorting of a graph with the given cycles. -/
def sort? (graph : Graph) (cycles : List (List Nat)) : Option Sorting :=
  (Sorting.start (graph.waiting cycles) graph.nodes).run (graph.waiting cycles) graph.nodes.length

/-- The order of a graph and its cycles. -/
def schedule (graph : Graph) : Schedule :=
  let cycles := graph.components.filter fun component => 1 < component.length
  { order := ((graph.sort? cycles).map (·.order)).getD [], cycles }

end Graph

end Formwork
