import TensorGraph.Proofs.Graph.Evaluation
import TensorGraph.Proofs.Graph.Replacement

/-! Constant folding changes no execution.

A node that is folded denotes the tensors that replace it, under all bindings. The constants that
folding adds stay small enough for every division, so that only a result too large for memory stops
it.
-/

namespace TensorGraph.Graph

variable {graph : Graph} {bindings : Bindings}

/-- The values of constant inputs are what the inputs denote. -/
theorem WellFormed.mapM_tensor_constants (wellFormed : graph.WellFormed)
    {references : List Output} {values : List Tensor}
    (known : references.mapM graph.constantValue? = some values)
    : references.mapM (wellFormed.denote bindings).tensor = .ok values := by
  refine mapM_eq_ok_iff.mpr ((mapM_eq_some_iff.mp known).imp ?_)
  intro reference value constant
  exact wellFormed.tensor_constant constant

theorem holds_of_mapM {references : List Output} {values : List Tensor}
    (known : references.mapM graph.constantValue? = some values)
    : ∀ value ∈ values, graph.Holds value := by
  intro value member
  obtain ⟨reference, -, constant⟩ := exists_partner (mapM_eq_some_iff.mp known).flip member
  exact holds_of_constantValue? constant

/-- A node that can be folded denotes what it is folded to. -/
theorem WellFormed.denote_folded (wellFormed : graph.WellFormed) {id : NodeId}
    {outputs : List Tensor} (folded : graph.foldedOutputs id = .ok (some outputs))
    : wellFormed.denote bindings id = .ok outputs := by
  obtain ⟨node, inputs, found, fed, known, evaluated, -⟩ := foldedOutputs_eq_some folded
  have computed : node.op.parameterDesc? = none := by
    apply Option.eq_none_iff_forall_ne_some.mpr
    intro desc declared
    exact fed ((wellFormed.settled found).of_parameter declared).1
  exact (wellFormed.denote_eq_ok_iff found).mpr
    ⟨inputs, wellFormed.mapM_tensor_constants known,
      (Node.attempt_eq_ok_iff computed).mpr evaluated⟩

/-- A node that can be folded is folded to as many tensors as it has outputs, each as inferred. -/
theorem WellFormed.described_folded (wellFormed : graph.WellFormed) {id : NodeId}
    {outputs : List Tensor} (folded : graph.foldedOutputs id = .ok (some outputs))
    : ∃ node,
        graph.nodes[id]? = some node
        ∧ List.Forall₂ (fun value desc => Tensor.desc? value = some desc) outputs
            node.outputs := by
  obtain ⟨node, inputs, found, -, -, -, agreeing⟩ := foldedOutputs_eq_some folded
  have denoted : wellFormed.denote [] id = .ok outputs := wellFormed.denote_folded folded
  have same : outputs.length = node.outputs.length := wellFormed.length_denote found denoted
  exact ⟨node, found, List.forall₂_iff_zip.mpr ⟨same, fun member => agreeing _ member⟩⟩

/-- If the constants of a graph are moderate, so are the tensors that a node is folded to. -/
theorem WellFormed.moderate_folded (wellFormed : graph.WellFormed)
    (moderate : ∀ {value}, graph.Holds value → value.Moderate) {id : NodeId}
    {outputs : List Tensor} (folded : graph.foldedOutputs id = .ok (some outputs))
    : ∀ value ∈ outputs, value.Moderate := by
  obtain ⟨other, stored, computed⟩ := computed_of_foldedOutputs wellFormed folded
  obtain ⟨node, inputs, found, -, known, evaluated, -⟩ := foldedOutputs_eq_some folded
  rw [found] at stored
  cases stored
  intro value member
  have inputsModerate (input : Tensor) (inInputs : input ∈ inputs) : input.Moderate :=
    moderate (holds_of_mapM known input inInputs)
  rcases Op.evaluate_moderate computed inputsModerate evaluated value member with result | kept
  · exact result
  · -- An output that the evaluation has not touched is still without elements.
    obtain ⟨desc, -, rfl⟩ := List.mem_map.mp kept
    exact Tensor.moderate_unshaped desc.dtype

/-- Only a result too large for memory stops the attempt to fold a node. -/
theorem foldedOutputs_eq_error (moderate : ∀ {value}, graph.Holds value → value.Moderate)
    {id : NodeId} (inside : id < graph.nodes.length) {failure : Failure GraphError}
    (failed : graph.foldedOutputs id = .error failure)
    : failure = .fault .capacityOverflow := by
  unfold foldedOutputs Graph.node at failed
  rw [List.getElem?_eq_getElem inside] at failed
  simp only at failed
  split at failed
  · cases failed
  · split at failed
    · cases failed
    next inputs known =>
      split at failed
      next fault stopped =>
        cases failed
        rw [Op.evaluate_eq_fault
          (fun input member => moderate (holds_of_mapM known input member)) stopped]
      · split at failed <;> cases failed

/-- Folding nodes of a graph with moderate constants stops at a result too large for memory, or it
succeeds and preserves what the nodes denote. By induction on the nodes to fold.
-/
theorem WellFormed.foldNodes_spec (before : graph.WellFormed)
    (moderate : ∀ {value}, graph.Holds value → value.Moderate) {order : List NodeId}
    (inside : ∀ id ∈ order, id < graph.nodes.length) (count : Nat)
    : (graph.foldNodes count order).outcome = .error (.fault .capacityOverflow)
      ∨ (∃ total, (graph.foldNodes count order).outcome = .ok total)
        ∧ ∃ after : (graph.foldNodes count order).graph.WellFormed,
            Preserves before after bindings := by
  induction order generalizing graph count with
  | nil => exact .inr ⟨⟨count, rfl⟩, before, .refl before⟩
  | cons id rest ih =>
      have here := inside id List.mem_cons_self
      have later (other : NodeId) (member : other ∈ rest) : other < graph.nodes.length :=
        inside other (List.mem_cons_of_mem _ member)
      cases folded : graph.foldedOutputs id with
      | error failure =>
          have stopped := foldedOutputs_eq_error moderate here folded
          exact .inl (by rw [foldNodes, folded, stopped])
      | ok outcome =>
          cases outcome with
          | none =>
              have skip : graph.foldNodes count (id :: rest) = graph.foldNodes count rest := by
                rw [foldNodes, folded]
              rw [skip]
              exact ih before moderate later count
          | some outputs =>
              obtain ⟨node, found, described⟩ := before.described_folded folded
              obtain ⟨relinked, replaced, holds, between, preserves⟩ :=
                before.replaceOutputs_spec found (before.denote_folded folded) List.drop_zero
                  described
              have stillModerate {value : Tensor} (held : relinked.Holds value)
                  : value.Moderate := by
                rcases holds held with new | old
                · exact before.moderate_folded moderate folded value new
                · exact moderate old
              have step
                  : graph.foldNodes count (id :: rest) = relinked.foldNodes (count + 1) rest := by
                rw [foldNodes, folded]
                simp only [replaced]
              rw [step]
              rcases ih between stillModerate
                (fun other member => preserves.inside (later other member)) (count + 1) with
                tooLarge | ⟨total, after, laterPreserves⟩
              · exact .inl tooLarge
              · exact .inr ⟨total, after, preserves.trans laterPreserves⟩

/-- Constant folding of a reachable graph succeeds, unless a result is too large for memory, and
then the graph executes as before under all bindings of its nodes, whether it succeeds or fails.
The constants of the graph fit into memory, as every buffer does that was allocated, and machine
words count what their extents ask for.
-/
theorem Reachable.execute_foldConstants (reachable : graph.Reachable)
    (stored : ∀ value, graph.Holds value → Buffer.fits value.dtype value.length)
    (counted : ∀ value, graph.Holds value → value.Counted)
    (bound : ∀ binding ∈ bindings, binding.1 < graph.size)
    (room : graph.foldConstants.outcome ≠ .error (.fault .capacityOverflow))
    : (∃ count, graph.foldConstants.outcome = .ok count)
      ∧ graph.foldConstants.graph.execute [] bindings = graph.execute [] bindings := by
  have before := reachable.wellFormed
  have inside (id : NodeId) (member : id ∈ graph.topologicalOrder) : id < graph.nodes.length :=
    before.inside_of_needed (before.mem_topologicalOrder_iff.mp member)
  rcases before.foldNodes_spec (fun held => ⟨.inl (stored _ held), counted _ held⟩) inside 0 with
    tooLarge | ⟨total, after, preserves⟩
  · exact absurd tooLarge room
  · exact ⟨total, preserves.execute_eq bound⟩

/-- The integers 1, 2 and 3. -/
def oneTwoThree : Tensor :=
  ⟨⟨.i32, [1, 2, 3]⟩, some ⟨[3]⟩, rfl⟩

/-- The sums of a parameter and of a constant. -/
def twoSums : Graph :=
  empty.performAll
    [
      .parameter ⟨.i32, ⟨[3]⟩⟩,
      .constant (axisList 0),
      .add (.reduction ⟨.sum, false, .empty⟩) [⟨0, 0⟩, ⟨1, 0⟩],
      .addResult ⟨2, 0⟩,
      .constant oneTwoThree,
      .add (.reduction ⟨.sum, false, .empty⟩) [⟨3, 0⟩, ⟨1, 0⟩],
      .addResult ⟨4, 0⟩
    ]

theorem twoSums_topologicalOrder : twoSums.topologicalOrder = [0, 1, 2, 3, 4] := by
  have source {id : NodeId} {visited : List NodeId} {stack : List Visit}
      (unfed : id = 0 ∨ id = 1 ∨ id = 3) (new : id ∉ visited)
      : twoSums.visit visited (.enter id :: stack)
        = id :: twoSums.visit (id :: visited) stack := by
    rcases unfed with rfl | rfl | rfl <;> exact visit_source new rfl rfl stack
  calc twoSums.topologicalOrder
    _ = twoSums.visit [] [.enter 2, .enter 4] := rfl
    _ = twoSums.visit [2] [.enter 0, .enter 1, .leave 2, .enter 4] := by
        rw [visit_some List.not_mem_nil rfl]
        rfl
    _ = 0 :: 1 :: 2 :: twoSums.visit [1, 0, 2] [.enter 4] := by
        simp [source, visit_leave]
    _ = 0 :: 1 :: 2 :: twoSums.visit [4, 1, 0, 2] [.enter 3, .enter 1, .leave 4] := by
        rw [visit_some (by decide) rfl]
        rfl
    _ = [0, 1, 2, 3, 4] := by
        simp [source, visit_leave, visit_known, visit]

/-- Folding replaces the second of two sums, and a run with the parameter bound is the same. -/
theorem twoSums_execute_foldConstants
    : (∀ value, twoSums.Holds value → Buffer.fits value.dtype value.length)
      ∧ (∀ value, twoSums.Holds value → value.Counted)
      ∧ (∀ binding ∈ [(0, oneTwoThree)], binding.1 < twoSums.size)
      ∧ twoSums.foldConstants.outcome ≠ .error (.fault .capacityOverflow)
      ∧ (∃ count, twoSums.foldConstants.outcome = .ok count)
      ∧ twoSums.foldConstants.graph.execute [] [(0, oneTwoThree)]
        = twoSums.execute [] [(0, oneTwoThree)] := by
  have reachable : twoSums.Reachable := ⟨_, rfl⟩
  have stored (value : Tensor) (held : twoSums.Holds value)
      : Buffer.fits value.dtype value.length :=
    held.of_listed (fun value => Buffer.fits value.dtype value.length) rfl
  have counted (value : Tensor) (held : twoSums.Holds value) : value.Counted :=
    held.of_listed Tensor.Counted rfl
  have bound (binding : NodeId × Tensor) (member : binding ∈ [(0, oneTwoThree)])
      : binding.1 < twoSums.size := by
    cases List.mem_singleton.mp member
    exact Nat.succ_pos 4
  have room : twoSums.foldConstants.outcome ≠ .error (.fault .capacityOverflow) := by
    have kept (id : Nat) (small : id < 4) : twoSums.foldedOutputs id = .ok none := by
      obtain rfl | rfl | rfl | rfl : id = 0 ∨ id = 1 ∨ id = 2 ∨ id = 3 := by omega
      all_goals rfl
    have folded
        : twoSums.foldedOutputs 4 = .ok (some [⟨⟨.i32, [6]⟩, some .scalar, rfl⟩]) :=
      rfl
    obtain ⟨node, found, described⟩ := reachable.wellFormed.described_folded folded
    have denoted : reachable.wellFormed.denote [] 4 = .ok _ :=
      reachable.wellFormed.denote_folded folded
    obtain ⟨relinked, replaced, -⟩ :=
      reachable.wellFormed.replaceOutputs_spec found denoted List.drop_zero described
    rw [foldConstants, twoSums_topologicalOrder]
    simp [foldNodes, kept, folded, replaced]
  exact ⟨stored, counted, bound, room,
    Reachable.execute_foldConstants reachable stored counted bound room⟩

/-- Four integers under extents whose product is `2 ^ 65 + 4`, which is 4 as a machine word. -/
def wrappedPairs : Tensor :=
  ⟨⟨.i32, [1, 2, 3, 4]⟩, some ⟨[2, twoPow 63 + 1, 2]⟩, rfl⟩

/-- The sum of the pairs over their first axis. -/
def wrappedSum : Graph :=
  empty.performAll
    [
      .constant wrappedPairs,
      .constant (axisList 0),
      .add (.reduction ⟨.sum, false, .empty⟩) [⟨0, 0⟩, ⟨1, 0⟩],
      .addResult ⟨2, 0⟩
    ]

theorem wrappedSum_topologicalOrder : wrappedSum.topologicalOrder = [0, 1, 2] :=
  topologicalOrder_of_sources ⟨0, 0⟩ ⟨1, 0⟩ ⟨2, 0⟩ rfl rfl rfl rfl rfl rfl rfl (by decide)

/-- Without the condition on the extents folding stops although no result is too large for memory:
the sum has fewer slots than its extents ask for, and an element is to be added beyond them.
-/
theorem exists_folding_fault
    : ∃ graph : Graph,
        graph.Reachable
        ∧ (∀ value, graph.Holds value → Buffer.fits value.dtype value.length)
        ∧ graph.foldConstants.outcome = .error (.fault .indexOutOfRange) := by
  refine ⟨wrappedSum, ⟨_, rfl⟩, ?_, ?_⟩
  · intro value held
    exact held.of_listed (fun value => Buffer.fits value.dtype value.length) rfl
  · rw [foldConstants, wrappedSum_topologicalOrder]
    rfl

end TensorGraph.Graph
