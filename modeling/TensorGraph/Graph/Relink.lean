import TensorGraph.Graph.Order

/-! Redirection of every use of one output to another output.

The new output may depend on the old one through its own node alone. If another node that it
depends on reads the old output, the redirection would close a cycle and is refused.
-/

namespace TensorGraph.Graph

/-- The nodes of a list of inputs that were not found before, in order and each once. -/
def newlyFound (graph : Graph) (found : List NodeId) : List Output → List NodeId
  | [] => []
  | input :: rest =>
      if input.node ∈ found ∨ graph.nodes.length ≤ input.node then graph.newlyFound found rest
      else input.node :: graph.newlyFound (input.node :: found) rest

theorem mem_newlyFound {graph : Graph} {found : List NodeId} {inputs : List Output} {id : NodeId}
    (member : id ∈ graph.newlyFound found inputs)
    : id ∉ found ∧ id < graph.nodes.length := by
  induction inputs generalizing found with
  | nil => exact absurd member List.not_mem_nil
  | cons input rest ih =>
      simp only [newlyFound] at member
      split at member
      · exact ih member
      next new =>
        rw [not_or, Nat.not_le] at new
        rcases List.mem_cons.mp member with rfl | later
        · exact new
        · exact ⟨fun old => (ih later).1 (List.mem_cons_of_mem _ old), (ih later).2⟩

/-- Finding new nodes leaves fewer to find. -/
theorem unvisited_append_lt {graph : Graph} {found new : List NodeId} {id : NodeId}
    (member : id ∈ new) (fresh : id ∉ found) (inside : id < graph.nodes.length)
    : graph.unvisited (found ++ new) < graph.unvisited found := by
  refine countP_lt_of_mem (List.mem_range.mpr inside) ?_ (by simp [member]) (by simpa using fresh)
  intro other
  simp only [List.mem_append, decide_eq_true_eq]
  exact fun absent old => absent (.inl old)

set_option linter.unusedVariables false in
/-- The nodes found from a stack of nodes by following inputs, in the order of discovery. -/
def searchInputs (graph : Graph) (found : List NodeId) : List NodeId → List NodeId
  | [] => found
  | current :: stack =>
      let inputs := (graph.nodes[current]?.map Node.inputs).getD []
      match new : graph.newlyFound found inputs with
      | [] => graph.searchInputs found stack
      | first :: more =>
          graph.searchInputs (found ++ first :: more) ((first :: more).reverse ++ stack)
termination_by stack => (graph.unvisited found, stack.length)
decreasing_by
  · exact .right _ (Nat.lt_succ_self _)
  · have facts := mem_newlyFound (new ▸ List.mem_cons_self : first ∈ graph.newlyFound found inputs)
    exact .left _ _ (unvisited_append_lt List.mem_cons_self facts.1 facts.2)

/-- The nodes that a node reads from, directly or through others, in the order of discovery. -/
def ancestors (graph : Graph) (id : NodeId) : List NodeId :=
  graph.searchInputs [] [id]

/-- Whether a node reads an output. -/
def reads (graph : Graph) (output : Output) (id : NodeId) : Bool :=
  match graph.nodes[id]? with
  | some node => output ∈ node.inputs
  | none => false

/-- Puts one output in the place of another in a list of references. -/
def redirect (old new : Output) (references : List Output) : List Output :=
  references.map fun reference => if reference = old then new else reference

/-- The node with its uses of `old` redirected, unless it is the node of `new` itself. -/
def redirectNode (old new : Output) (node : Node) : Node :=
  if node.id = new.node then node else { node with inputs := redirect old new node.inputs }

/-- The graph with every use of `old` redirected, save for those of the node of `new` itself. -/
def redirected (graph : Graph) (old new : Output) : Graph :=
  ⟨graph.nodes.map (redirectNode old new), redirect old new graph.results, graph.names⟩

/-- The edges and results that a redirection to `new` looks at. -/
def redirectable (graph : Graph) (new : Output) : List Output :=
  (graph.nodes.flatMap fun node => if node.id = new.node then [] else node.inputs)
    ++ graph.results

/-- The refusal to put an output in the place of one that is described differently. -/
def mismatched (old new : Output) (oldDesc newDesc : TensorDesc) : GraphError :=
  .other
    ("cannot replace " ++ old.render ++ " (" ++ oldDesc.render ++ ") with " ++ new.render ++ " ("
      ++ newDesc.render ++ ")")

/-- The refusal to close a cycle through a node. -/
def cycleThrough (old new : Output) (reader : NodeId) : GraphError :=
  .other
    ("replacing " ++ old.render ++ " with " ++ new.render ++ " would create a cycle through "
      ++ NodeId.render reader)

/-- Redirects every edge and result that reads `old` to `new`, save for the edges of the node of
`new` itself; gives the number of changes. The two outputs must have the same descriptor.
-/
def replaceUses (graph : Graph) (old new : Output) : Except GraphError (Graph × Nat) := do
  let oldDesc ← graph.outputDesc old
  let newDesc ← graph.outputDesc new
  if oldDesc ≠ newDesc then .error (mismatched old new oldDesc newDesc)
  else
    match (graph.ancestors new.node).find? (graph.reads old) with
    | some reader => .error (cycleThrough old new reader)
    | none =>
        .ok (graph.redirected old new, (graph.redirectable new).count old)

end TensorGraph.Graph
