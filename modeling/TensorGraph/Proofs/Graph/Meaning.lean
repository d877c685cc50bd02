import TensorGraph.Graph.Execution
import TensorGraph.Proofs.Graph.WellFormed

/-! What the outputs of a graph denote, by recursion over the edges.

A node denotes what it attempts on the tensors of its inputs. The recursion ends because no node
feeds itself, and what it gives is the only assignment in which every node denotes that.
-/

namespace TensorGraph

/-- The tensors of a node's outputs: the tensor bound to a parameter, else what the operation
evaluates from the tensors of its inputs and outputs without a shape.
-/
def Node.attempt (bindings : Graph.Bindings) (node : Node) (inputs : List Tensor)
    : Except (Failure GraphError) (List Tensor) :=
  match node.op.parameterDesc? with
  | some declared => orFailure ((Graph.bound bindings node.id declared).map fun value => [value])
  | none =>
      match node.op.evaluate (Graph.unshapedOutputs node) inputs with
      | .ok ⟨true, outputs⟩ => .ok outputs
      | .ok ⟨false, _⟩ => .error (.error (Graph.unevaluated node inputs))
      | .error fault => .error (.fault fault)

/-- A parameter has the tensor bound to it. -/
theorem Node.attempt_parameter_eq_ok_iff {bindings : Graph.Bindings} {node : Node}
    {declared : TensorDesc} (parameter : node.op.parameterDesc? = some declared)
    {inputs tensors : List Tensor}
    : node.attempt bindings inputs = .ok tensors
      ↔ ∃ value, Graph.bound bindings node.id declared = .ok value ∧ [value] = tensors := by
  rw [Node.attempt, parameter]
  exact orFailure_eq_ok_iff.trans map_eq_ok_iff

/-- A node that is no parameter has the tensors that its operation evaluates. -/
theorem Node.attempt_eq_ok_iff {bindings : Graph.Bindings} {node : Node}
    (computed : node.op.parameterDesc? = none) {inputs tensors : List Tensor}
    : node.attempt bindings inputs = .ok tensors
      ↔ node.op.evaluate (Graph.unshapedOutputs node) inputs = .ok ⟨true, tensors⟩ := by
  rw [Node.attempt, computed]
  cases node.op.evaluate (Graph.unshapedOutputs node) inputs with
  | error fault => simp
  | ok evaluation =>
      obtain ⟨handled, outputs⟩ := evaluation
      cases handled <;> simp

namespace Graph

/-- The tensors of the outputs of each node, or why it has none. -/
abbrev Meaning := NodeId → Except (Failure GraphError) (List Tensor)

/-- The tensor that an output has among the tensors of its node. -/
def pick (output : Output) (tensors : List Tensor) : Except (Failure GraphError) Tensor :=
  match tensors[output.index]? with
  | some tensor => .ok tensor
  | none => .error (.error (.invalidOutput output))

/-- The tensor that an output denotes. -/
def Meaning.tensor (denoted : Meaning) (output : Output)
    : Except (Failure GraphError) Tensor :=
  denoted output.node >>= pick output

theorem Meaning.tensor_eq_ok_iff {denoted : Meaning} {output : Output} {tensor : Tensor}
    : denoted.tensor output = .ok tensor
      ↔ ∃ tensors, denoted output.node = .ok tensors ∧ tensors[output.index]? = some tensor := by
  have picked (tensors : List Tensor)
      : pick output tensors = .ok tensor ↔ tensors[output.index]? = some tensor := by
    unfold pick
    cases tensors[output.index]? <;> simp
  rw [Meaning.tensor, bind_eq_ok_iff]
  simp only [picked]

/-- What a node is to denote if the nodes that feed it denote `denoted`. -/
def unfolded (graph : Graph) (bindings : Bindings) (denoted : Meaning) : Meaning :=
  fun id =>
    match graph.nodes[id]? with
    | none => .error (.error (.invalidNode id))
    | some node => node.inputs.mapM denoted.tensor >>= node.attempt bindings

set_option linter.unusedVariables false in
/-- What each node denotes, by recursion over the edges. -/
def denote (graph : Graph) (acyclic : WellFounded graph.Feeds) (bindings : Bindings)
    (id : NodeId)
    : Except (Failure GraphError) (List Tensor) :=
  match found : graph.nodes[id]? with
  | none => .error (.error (.invalidNode id))
  | some node => do
      let inputs ← node.inputs.mapM fun input =>
        graph.denote acyclic bindings input.node >>= pick input
      node.attempt bindings inputs
termination_by acyclic.wrap id
decreasing_by exact ⟨node, found, input, by assumption, rfl⟩

/-- What the nodes of a well-formed graph denote. -/
abbrev WellFormed.denote {graph : Graph} (wellFormed : graph.WellFormed) (bindings : Bindings)
    : Meaning :=
  graph.denote wellFormed.acyclic bindings

variable {graph : Graph} {bindings : Bindings}

/-- What the nodes denote solves the equations of the graph. -/
theorem denote_eq_unfolded (acyclic : WellFounded graph.Feeds) (id : NodeId)
    : graph.denote acyclic bindings id
      = graph.unfolded bindings (graph.denote acyclic bindings) id := by
  rw [denote]
  unfold unfolded
  split
  next outside => rw [outside]
  next node found =>
    rw [found]
    rfl

theorem WellFormed.denote_eq_unfolded (wellFormed : graph.WellFormed) (id : NodeId)
    : wellFormed.denote bindings id = graph.unfolded bindings (wellFormed.denote bindings) id :=
  Graph.denote_eq_unfolded wellFormed.acyclic id

/-- What a node denotes is what it attempts on the tensors of its inputs. -/
theorem WellFormed.denote_of_found (wellFormed : graph.WellFormed) {id : NodeId} {node : Node}
    (found : graph.nodes[id]? = some node)
    : wellFormed.denote bindings id
      = node.inputs.mapM (wellFormed.denote bindings).tensor >>= node.attempt bindings := by
  rw [wellFormed.denote_eq_unfolded, unfolded, found]

theorem WellFormed.denote_eq_ok_iff (wellFormed : graph.WellFormed) {id : NodeId} {node : Node}
    (found : graph.nodes[id]? = some node) {tensors : List Tensor}
    : wellFormed.denote bindings id = .ok tensors
      ↔ ∃ inputs,
          node.inputs.mapM (wellFormed.denote bindings).tensor = .ok inputs
          ∧ node.attempt bindings inputs = .ok tensors := by
  rw [wellFormed.denote_of_found found]
  exact bind_eq_ok_iff

/-- The equation of a node depends only on what the nodes that feed it denote. -/
theorem unfolded_congr {denoted other : Meaning} {id : NodeId}
    (same : ∀ source, graph.Feeds source id → denoted source = other source)
    : graph.unfolded bindings denoted id = graph.unfolded bindings other id := by
  unfold unfolded
  split
  · rfl
  next node found =>
    have tensors : node.inputs.mapM denoted.tensor = node.inputs.mapM other.tensor := by
      apply mapM_congr
      intro input member
      unfold Meaning.tensor
      rw [same input.node ⟨node, found, input, member, rfl⟩]
    rw [tensors]

/-- Nodes that solve their equations, closed under the nodes that feed them, denote what the graph
denotes, by induction on what feeds a node.
-/
theorem eq_denote_of_solves (acyclic : WellFounded graph.Feeds) {denoted : Meaning}
    (region : NodeId → Prop)
    (closed : ∀ {source reader}, graph.Feeds source reader → region reader → region source)
    (solves : ∀ id, region id → denoted id = graph.unfolded bindings denoted id) {id : NodeId}
    (inside : region id)
    : denoted id = graph.denote acyclic bindings id := by
  induction id using acyclic.induction with
  | _ id ih =>
      rw [solves id inside, denote_eq_unfolded]
      exact unfolded_congr fun source edge => ih source edge (closed edge inside)

/-- If the tensors of an assignment solve the equations of the graph, the graph denotes them, by
induction on what feeds a node.
-/
theorem denote_of_solves (acyclic : WellFounded graph.Feeds) {denoted : Meaning}
    (solves
      : ∀ id tensors,
          denoted id = .ok tensors → graph.unfolded bindings denoted id = .ok tensors)
    {id : NodeId} {tensors : List Tensor} (known : denoted id = .ok tensors)
    : graph.denote acyclic bindings id = .ok tensors := by
  induction id using acyclic.induction generalizing tensors with
  | _ id ih =>
      rw [denote_eq_unfolded]
      have solved := solves id tensors known
      unfold unfolded at solved ⊢
      split at solved
      · cases solved
      next node found =>
        obtain ⟨inputs, picked, attempted⟩ := bind_eq_ok_iff.mp solved
        refine bind_eq_ok_iff.mpr ⟨inputs, ?_, attempted⟩
        rw [← picked]
        apply mapM_congr
        intro input member
        obtain ⟨tensor, -, denotes⟩ := exists_partner (mapM_eq_ok_iff.mp picked) member
        obtain ⟨outputs, earlier, present⟩ := Meaning.tensor_eq_ok_iff.mp denotes
        rw [denotes]
        exact Meaning.tensor_eq_ok_iff.mpr
          ⟨outputs, ih input.node ⟨node, found, input, member, rfl⟩ earlier, present⟩

end Graph
end TensorGraph
