import TensorGraph.Graph.Basic

/-! The order of evaluation: the nodes that the results need, each after its inputs.

The nodes are visited depth first with a stack of their own, from the first result to the last and
within a node from the first input to the last.
-/

namespace TensorGraph.Graph

/-- A pending step of the visit. -/
inductive Visit
  /-- Visit a node unless that was done before. -/
  | enter (id : NodeId)
  /-- Report a node whose inputs have been visited. -/
  | leave (id : NodeId)
  deriving DecidableEq, Repr

/-- The number of nodes that are not in a list of visited ones. -/
def unvisited (graph : Graph) (visited : List NodeId) : Nat :=
  (List.range graph.nodes.length).countP fun id => id ∉ visited

theorem countP_lt_of_mem {α : Type} {p q : α → Bool} {x : α} {xs : List α} (member : x ∈ xs)
    (fewer : ∀ y, p y → q y) (lost : p x = false) (held : q x = true)
    : xs.countP p < xs.countP q := by
  induction xs with
  | nil => exact absurd member List.not_mem_nil
  | cons head rest ih =>
      have below : rest.countP p ≤ rest.countP q := List.countP_mono_left fun y _ => fewer y
      rcases List.mem_cons.mp member with rfl | later
      · simp only [List.countP_cons, lost, held]
        simp
        omega
      · have step := ih later
        have bit : (if p head then 1 else 0) ≤ (if q head then 1 else 0) := by
          by_cases yes : p head
          · simp [yes, fewer head yes]
          · simp [yes]
        simp only [List.countP_cons]
        omega

/-- Visiting a node of the graph for the first time leaves fewer to visit. -/
theorem unvisited_cons_lt {graph : Graph} {visited : List NodeId} {id : NodeId}
    (inside : id < graph.nodes.length) (new : id ∉ visited)
    : graph.unvisited (id :: visited) < graph.unvisited visited := by
  refine countP_lt_of_mem (List.mem_range.mpr inside) ?_ (by simp) (by simpa using new)
  intro other
  simp only [List.mem_cons, decide_eq_true_eq]
  exact fun absent member => absent (.inr member)

set_option linter.unusedVariables false in
/-- The nodes that the visits on a stack report, in order. -/
def visit (graph : Graph) (visited : List NodeId) : List Visit → List NodeId
  | [] => []
  | .leave id :: stack => id :: graph.visit visited stack
  | .enter id :: stack =>
      if known : id ∈ visited then graph.visit visited stack
      else
        match found : graph.nodes[id]? with
        | none => graph.visit visited stack
        | some node =>
            graph.visit (id :: visited)
              (node.inputs.map (fun input => .enter input.node) ++ .leave id :: stack)
termination_by stack => (graph.unvisited visited, stack.length)
decreasing_by
  · exact .right _ (Nat.lt_succ_self _)
  · exact .right _ (Nat.lt_succ_self _)
  · exact .right _ (Nat.lt_succ_self _)
  · exact .left _ _ (unvisited_cons_lt (List.getElem?_eq_some_iff.mp found).1 known)

/-- The nodes that the results need, each after all of its inputs. -/
def topologicalOrder (graph : Graph) : List NodeId :=
  graph.visit [] (graph.results.map fun result => .enter result.node)

end TensorGraph.Graph
