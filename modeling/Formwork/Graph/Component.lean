import Formwork.Graph.Basic

/-!
# Components of graphs

Two nodes are in one component of a graph if each leads to the other. `Graph.components` lists the
components, each in ascending order; one that leads to another comes after it. They are found in one
descent (Tarjan's): the nodes that were met wait on a stack until the search is done with the first
node of their component. The search keeps its path itself, with the place of the next edge of each
node on it. It would fail if it looked up a number that was not noted or took too many steps.
-/

namespace Formwork

/-- A search for components under way. Numbers that were given to a node last stand first. -/
structure Descent where
  /-- How many nodes were met. -/
  counter : Nat := 0
  /-- The nodes that were met, numbered as they were met. -/
  index : List (Nat × Nat) := []
  /-- For each node that was met, the least number that was found from it on the stack. -/
  low : List (Nat × Nat) := []
  /-- The nodes whose component is not complete, the last one first. -/
  stack : List Nat := []
  /-- The same nodes. -/
  onStack : List Nat := []
  /-- The path of the search, its last node first, with the place of the next edge of each node. -/
  frames : List (Nat × Nat) := []
  components : List (List Nat) := []

namespace Descent

/-- Meets a node, which becomes the last one of the path. -/
def enter (descent : Descent) (node : Nat) : Descent :=
  { descent with
    counter := descent.counter + 1
    index := (node, descent.counter) :: descent.index
    low := (node, descent.counter) :: descent.low
    stack := node :: descent.stack
    onStack := node :: descent.onStack
    frames := (node, 0) :: descent.frames }

/-- Notes that a number was found from a node. -/
def lower (descent : Descent) (node found : Nat) : Option Descent := do
  let current ← descent.low.lookup node
  return { descent with low := (node, min current found) :: descent.low }

/-- The top of a stack down to a node, and what is below it. -/
def popThrough (node : Nat) : List Nat → List Nat × List Nat
  | [] => ([], [])
  | member :: rest =>
    if member = node then ([member], rest)
    else
      let (popped, left) := popThrough node rest
      (member :: popped, left)

/-- Takes the stack down to a node as a component. -/
def close (descent : Descent) (node : Nat) : Descent :=
  let (component, left) := popThrough node descent.stack
  { descent with
    stack := left
    onStack := descent.onStack.filter fun member => !component.contains member
    components := descent.components ++ [ascending component] }

/-- Goes along an edge of the last node of the path. -/
def follow (descent : Descent) (node successor : Nat) : Option Descent :=
  match descent.index.lookup successor with
  | some found =>
    if descent.onStack.contains successor then descent.lower node found else some descent
  | none => some (descent.enter successor)

/-- Goes back from the last node of the path to the path before it. -/
def leave (descent : Descent) (node : Nat) (outer : List (Nat × Nat)) : Option Descent := do
  let found ← descent.low.lookup node
  let descent := { descent with frames := outer }
  let descent ←
    match outer with
    | [] => some descent
    | (parent, _) :: _ => descent.lower parent found
  let index ← descent.index.lookup node
  return if found = index then descent.close node else descent

/-- One step: along the next edge of the last node of the path, or back if it has no other. -/
def step (next : Nat → List Nat) (descent : Descent) : Option Descent :=
  match descent.frames with
  | [] => some descent
  | (node, cursor) :: outer =>
    match (next node)[cursor]? with
    | some successor => { descent with frames := (node, cursor + 1) :: outer }.follow node successor
    | none => descent.leave node outer

/-- Steps until there is no path, if that takes no more than so many. -/
def run (next : Nat → List Nat) : Nat → Descent → Option Descent
  | 0, descent => if descent.frames.isEmpty then some descent else none
  | steps + 1, descent =>
    if descent.frames.isEmpty then some descent else (descent.step next).bind (run next steps)

end Descent

namespace Graph

/-- One for each node and one for each edge: no descent takes more steps. -/
def steps (graph : Graph) : Nat := (graph.nodes.flatMap fun node => graph.next node ++ [node]).length

/-- Goes down from a node unless it was met. -/
def descend (graph : Graph) (descent : Descent) (start : Nat) : Option Descent :=
  if (descent.index.lookup start).isSome then some descent
  else (descent.enter start).run graph.next graph.steps

/-- Goes down from all nodes. -/
def descent? (graph : Graph) : Option Descent := graph.nodes.foldlM graph.descend {}

/-- The components of a graph in the order in which they are complete. -/
def components (graph : Graph) : List (List Nat) := (graph.descent?.map (·.components)).getD []

end Graph

end Formwork
