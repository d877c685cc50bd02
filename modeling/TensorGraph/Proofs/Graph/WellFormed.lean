import TensorGraph.Graph.Order
import TensorGraph.Proofs.Graph.Inference

/-! Graphs whose references exist and whose edges close no cycle. Extending such a graph with a
node, a result or a name keeps it so.
-/

namespace TensorGraph

/-- The facts about a node that no redirection of its inputs can change. A parameter and a constant
have no inputs and one output of their own descriptor; the other operations have inputs.
-/
def Node.Settled (node : Node) : Prop :=
  match node.op with
  | .parameter desc => node.inputs = [] ∧ node.outputs = [desc]
  | .constant value =>
      node.inputs = [] ∧ ∃ desc, value.desc? = some desc ∧ node.outputs = [desc]
  | .reduction _ => node.inputs.length = 2 ∧ node.outputs.length = 1
  | .selection _ => 2 ≤ node.inputs.length ∧ node.outputs.length = 3

/-- Inference that accepts as many inputs as a node has settles the node, by cases on the
operation.
-/
theorem Node.settled_of_infer {op inferred : Op} {seen : List InferenceInput}
    {outputs : List TensorDesc} (accepted : op.infer seen = .ok (inferred, outputs))
    {id : NodeId} {name : String} {inputs : List Output} (count : seen.length = inputs.length)
    : Node.Settled ⟨id, name, inferred, inputs, outputs⟩ := by
  cases op with
  | parameter desc =>
      obtain ⟨rfl, rfl, rfl⟩ := Op.infer_parameter_eq_ok accepted
      exact ⟨List.eq_nil_of_length_eq_zero count.symm, rfl⟩
  | constant value =>
      obtain ⟨rfl, rfl, described⟩ := Op.infer_constant_eq_ok accepted
      exact ⟨List.eq_nil_of_length_eq_zero count.symm, described⟩
  | reduction op =>
      simp only [Op.infer, map_eq_ok_iff, Prod.mk.injEq] at accepted
      obtain ⟨_, accepted, rfl, rfl⟩ := accepted
      obtain ⟨data, axes, resolved, rfl, -, -, -, shapes⟩ := ReductionOp.infer_eq_ok_iff.mp accepted
      exact ⟨count.symm, congrArg List.length shapes⟩
  | selection op =>
      simp only [Op.infer, map_eq_ok_iff, Prod.mk.injEq] at accepted
      obtain ⟨_, accepted, rfl, rfl⟩ := accepted
      obtain ⟨boxes, scores, rest, _, _, _, _, rfl, -, -, rfl⟩ :=
        SelectionOp.infer_eq_ok_iff.mp accepted
      refine ⟨?_, rfl⟩
      rw [← count]
      simp

theorem Node.Settled.of_parameter {node : Node} (settled : node.Settled) {desc : TensorDesc}
    (declared : node.op.parameterDesc? = some desc)
    : node.inputs = [] ∧ node.outputs = [desc] := by
  rw [Settled, Op.parameterDesc?_eq_some_iff.mp declared] at settled
  exact settled

theorem Node.Settled.of_constant {node : Node} (settled : node.Settled) {value : Tensor}
    (constant : node.op.constantValue? = some value)
    : node.inputs = [] ∧ ∃ desc, value.desc? = some desc ∧ node.outputs = [desc] := by
  rw [Settled, Op.constantValue?_eq_some_iff.mp constant] at settled
  exact settled

namespace Graph

-----------------------------------------------------------------------------------------
-- Edges
-----------------------------------------------------------------------------------------

/-- The node `reader` reads an output of the node `source`. -/
def Feeds (graph : Graph) (source reader : NodeId) : Prop :=
  ∃ node, graph.nodes[reader]? = some node ∧ ∃ input ∈ node.inputs, input.node = source

/-- The output belongs to a node of the graph, and that node has so many outputs. -/
def HasOutput (graph : Graph) (output : Output) : Prop :=
  ∃ node, graph.nodes[output.node]? = some node ∧ output.index < node.outputs.length

/-- Every node is known by its place, every reference names an output that exists, and no node
feeds itself, directly or through others.
-/
structure WellFormed (graph : Graph) : Prop where
  placed : ∀ {id : NodeId} {node : Node}, graph.nodes[id]? = some node → node.id = id
  settled : ∀ {id : NodeId} {node : Node}, graph.nodes[id]? = some node → node.Settled
  edges
    : ∀ {id : NodeId} {node : Node},
        graph.nodes[id]? = some node → ∀ input ∈ node.inputs, graph.HasOutput input
  results : ∀ result ∈ graph.results, graph.HasOutput result
  acyclic : WellFounded graph.Feeds

/-- A node with an output has a place below the size of the graph. -/
theorem HasOutput.inside {graph : Graph} {output : Output} (owned : graph.HasOutput output)
    : output.node < graph.nodes.length := by
  obtain ⟨node, found, _⟩ := owned
  exact (List.getElem?_eq_some_iff.mp found).1

theorem WellFormed.inside_of_feeds {graph : Graph} (wellFormed : graph.WellFormed)
    {source reader : NodeId} (edge : graph.Feeds source reader)
    : source < graph.nodes.length := by
  obtain ⟨node, found, input, member, rfl⟩ := edge
  exact (wellFormed.edges found input member).inside

/-- An output is described by its node. -/
theorem outputDesc_eq_ok_iff {graph : Graph} {output : Output} {desc : TensorDesc}
    : graph.outputDesc output = .ok desc
      ↔ ∃ node,
          graph.nodes[output.node]? = some node ∧ node.outputs[output.index]? = some desc := by
  unfold outputDesc Graph.node
  cases found : graph.nodes[output.node]? with
  | none => simp
  | some node => cases described : node.outputs[output.index]? <;> simp [described]

theorem hasOutput_iff_outputDesc {graph : Graph} {output : Output}
    : graph.HasOutput output ↔ ∃ desc, graph.outputDesc output = .ok desc := by
  unfold HasOutput outputDesc Graph.node
  cases found : graph.nodes[output.node]? with
  | none => simp
  | some node =>
      cases described : node.outputs[output.index]? with
      | none =>
          have beyond := List.getElem?_eq_none_iff.mp described
          simp [Nat.not_lt.mpr beyond]
      | some desc =>
          have inside := (List.getElem?_eq_some_iff.mp described).1
          simp [inside]

/-- The value of an output is known if it is the first one of a constant. -/
theorem constantValue?_eq_some_iff {graph : Graph} {output : Output} {value : Tensor}
    : graph.constantValue? output = some value
      ↔ output.index = 0
        ∧ ∃ node, graph.nodes[output.node]? = some node ∧ node.op.constantValue? = some value := by
  rw [constantValue?]
  by_cases first : output.index = 0
  · simp [first, Option.bind_eq_some_iff]
  · simp [first]

/-- The graph without nodes is well-formed. -/
theorem empty_wellFormed : empty.WellFormed where
  placed found := absurd found (by simp [empty])
  settled found := absurd found (by simp [empty])
  edges found := absurd found (by simp [empty])
  results := by simp [empty]
  acyclic := ⟨fun id => ⟨id, fun source ⟨node, found, _⟩ => absurd found (by simp [empty])⟩⟩

-----------------------------------------------------------------------------------------
-- Adding a node
-----------------------------------------------------------------------------------------

/-- A graph with one more node at the end and the same results. -/
structure Extends (graph extended : Graph) (node : Node) : Prop where
  nodes : extended.nodes = graph.nodes ++ [node]
  results : extended.results = graph.results

/-- Adding an operation extends the graph with a node that reads existing outputs and that
inference has settled. The reported id is the place of the new node.
-/
theorem extends_of_add {graph added : Graph} {op : Op} {inputs : List Output} {id : NodeId}
    (success : graph.add op inputs = .ok (added, id))
    : id = graph.nodes.length
      ∧ ∃ seen inferred outputs name,
          inputs.mapM graph.inferenceInput = .ok seen
          ∧ op.infer seen = .ok (inferred, outputs)
          ∧ graph.Extends added ⟨id, name, inferred, inputs, outputs⟩ := by
  simp only [add, bind_eq_ok_iff, Except.ok.injEq, Prod.mk.injEq] at success
  obtain ⟨seen, known, ⟨inferred, outputs⟩, accepted, rfl, rfl⟩ := success
  exact ⟨rfl, seen, inferred, outputs, _, known, accepted, rfl, rfl⟩

namespace Extends

variable {graph extended : Graph} {node : Node}

theorem found_old (extension : graph.Extends extended node) {id : NodeId}
    (old : id < graph.nodes.length)
    : extended.nodes[id]? = graph.nodes[id]? := by
  rw [extension.nodes, List.getElem?_append_left old]

theorem found_new (extension : graph.Extends extended node)
    : extended.nodes[graph.nodes.length]? = some node := by
  rw [extension.nodes]
  simp

/-- A node of the extended graph is an old one, or the new one in its place. -/
theorem found_iff (extension : graph.Extends extended node) {id : NodeId} {other : Node}
    : extended.nodes[id]? = some other
      ↔ graph.nodes[id]? = some other ∨ id = graph.nodes.length ∧ other = node := by
  rw [extension.nodes]
  rcases Nat.lt_trichotomy id graph.nodes.length with old | rfl | beyond
  · rw [List.getElem?_append_left old]
    simp [Nat.ne_of_lt old]
  · simp [eq_comm]
  · have outside : graph.nodes[id]? = none := List.getElem?_eq_none_iff.mpr (Nat.le_of_lt beyond)
    have past : (graph.nodes ++ [node])[id]? = none := by
      rw [List.getElem?_eq_none_iff, List.length_append]
      exact beyond
    simp [outside, past, Nat.ne_of_gt beyond]

theorem hasOutput (extension : graph.Extends extended node) {output : Output}
    (owned : graph.HasOutput output)
    : extended.HasOutput output := by
  obtain ⟨owner, found, index⟩ := owned
  exact ⟨owner, extension.found_iff.mpr (.inl found), index⟩

/-- Every edge of the extended graph is an old one or an edge of the new node. -/
theorem feeds_cases (extension : graph.Extends extended node) {source reader : NodeId}
    (edge : extended.Feeds source reader)
    : graph.Feeds source reader
      ∨ reader = graph.nodes.length ∧ ∃ input ∈ node.inputs, input.node = source := by
  obtain ⟨other, found, reading⟩ := edge
  rcases extension.found_iff.mp found with old | ⟨rfl, rfl⟩
  · exact .inl ⟨other, old, reading⟩
  · exact .inr ⟨rfl, reading⟩

/-- A node that reads existing outputs closes no cycle: old nodes read only old nodes, so those are
accessible as before, and then so is the new one.
-/
theorem acyclic (extension : graph.Extends extended node) (wellFormed : graph.WellFormed)
    (existing : ∀ input ∈ node.inputs, graph.HasOutput input)
    : WellFounded extended.Feeds := by
  have oldAccessible (id : NodeId) (old : id < graph.nodes.length) : Acc extended.Feeds id := by
    induction id using wellFormed.acyclic.induction with
    | _ id ih =>
        refine ⟨id, ?_⟩
        intro source edge
        rcases extension.feeds_cases edge with before | ⟨rfl, _⟩
        · obtain ⟨reader, found, input, member, rfl⟩ := before
          exact ih _ ⟨reader, found, input, member, rfl⟩
            (wellFormed.edges found input member).inside
        · exact absurd old (Nat.lt_irrefl _)
  refine ⟨fun id => ⟨id, fun source edge => ?_⟩⟩
  rcases extension.feeds_cases edge with ⟨reader, found, input, member, rfl⟩ |
    ⟨-, input, member, rfl⟩
  · exact oldAccessible _ (wellFormed.edges found input member).inside
  · exact oldAccessible _ (existing input member).inside

theorem outputDesc (extension : graph.Extends extended node) {output : Output}
    {desc : TensorDesc} (described : graph.outputDesc output = .ok desc)
    : extended.outputDesc output = .ok desc := by
  have inside := (hasOutput_iff_outputDesc.mpr ⟨desc, described⟩).inside
  unfold Graph.outputDesc Graph.node at described ⊢
  rw [extension.found_old inside]
  exact described

theorem constantValue? (extension : graph.Extends extended node) {output : Output}
    {value : Tensor} (known : graph.constantValue? output = some value)
    : extended.constantValue? output = some value := by
  obtain ⟨first, other, found, constant⟩ := constantValue?_eq_some_iff.mp known
  exact constantValue?_eq_some_iff.mpr
    ⟨first, other, extension.found_iff.mpr (.inl found), constant⟩

/-- A settled node in its place that reads existing outputs keeps a graph well-formed. -/
theorem wellFormed (extension : graph.Extends extended node) (wellFormed : graph.WellFormed)
    (placed : node.id = graph.nodes.length) (settled : node.Settled)
    (existing : ∀ input ∈ node.inputs, graph.HasOutput input)
    : extended.WellFormed where
  placed found := by
    rcases extension.found_iff.mp found with old | ⟨rfl, rfl⟩
    · exact wellFormed.placed old
    · exact placed
  settled found := by
    rcases extension.found_iff.mp found with old | ⟨rfl, rfl⟩
    · exact wellFormed.settled old
    · exact settled
  edges found := by
    intro input member
    rcases extension.found_iff.mp found with old | ⟨rfl, rfl⟩
    · exact extension.hasOutput (wellFormed.edges old input member)
    · exact extension.hasOutput (existing input member)
  results := by
    intro result member
    rw [extension.results] at member
    exact extension.hasOutput (wellFormed.results result member)
  acyclic := extension.acyclic wellFormed existing

end Extends

/-- What inference sees of an output is only known if the output exists. -/
theorem hasOutput_of_inferenceInput {graph : Graph} {output : Output} {seen : InferenceInput}
    (known : graph.inferenceInput output = .ok seen)
    : graph.HasOutput output := by
  obtain ⟨desc, described, _⟩ := map_eq_ok_iff.mp known
  exact hasOutput_iff_outputDesc.mpr ⟨desc, described⟩

/-- Adding an operation keeps a graph well-formed. -/
theorem WellFormed.add {graph added : Graph} (wellFormed : graph.WellFormed) {op : Op}
    {inputs : List Output} {id : NodeId} (success : graph.add op inputs = .ok (added, id))
    : added.WellFormed := by
  obtain ⟨rfl, seen, inferred, outputs, name, known, accepted, extension⟩ :=
    extends_of_add success
  have pairs := mapM_eq_ok_iff.mp known
  refine extension.wellFormed wellFormed rfl
    (Node.settled_of_infer accepted pairs.length_eq.symm) ?_
  intro input member
  obtain ⟨_, -, described⟩ := exists_partner pairs member
  exact hasOutput_of_inferenceInput described

end Graph
end TensorGraph
