import TensorGraph.Proofs.Graph.Cutting
import TensorGraph.Proofs.Graph.Progress

/-! Which failures the replacement of reductions of empty data hides.

What no replaced reduction depends on is still needed afterwards and fails as it did. So a failure
that is hidden is that of a replaced reduction or of a node that one depends on.
-/

namespace TensorGraph

/-- A reduction has a value over no elements of a type that its kernels leave out for norms of
integers, and for sums, products and extrema of bf16.
-/
theorem ReductionOp.unlisted_neutral_iff {kind : Reduction.Kind} {dtype : DType}
    : (kernels kind).lookup dtype = none ∧ (dtype.numeric?.bind (neutral? kind)).isSome
      ↔ kind = .l2 ∧ dtype.isIntegral
        ∨ kind ∈ [.sum, .prod, .max, .min] ∧ dtype = .bf16 := by
  cases kind <;> cases dtype <;> decide

namespace Graph

variable {graph : Graph} {bindings : Bindings}

/-- The pass replaces the node, or a node that reads it directly or through others. -/
def CutAway (graph : Graph) (id : NodeId) : Prop :=
  ∃ reader,
    graph.Needed reader ∧ graph.reducesNothing reader = .ok true ∧ graph.Upstream id reader

theorem CutAway.needed {id : NodeId} (cutAway : graph.CutAway id) : graph.Needed id := by
  obtain ⟨reader, ⟨result, member, path⟩, -, upstream⟩ := cutAway
  exact ⟨result, member, upstream.trans path⟩

/-- A replaced reduction is stuck only if its kernels do not list a type for which it has a value
over no elements.
-/
theorem unlisted_of_stuck (described : graph.TypedBy Describes) {id : NodeId}
    (reduces : graph.reducesNothing id = .ok true) {node : Node}
    (found : graph.nodes[id]? = some node) {denoted : Meaning} {dtype : DType}
    (stuck : graph.Stuck denoted node dtype)
    : ∃ op,
        node.op = .reduction op
        ∧ (op.kind = .l2 ∧ dtype.isIntegral
          ∨ op.kind ∈ [.sum, .prod, .max, .min] ∧ dtype = .bf16) := by
  obtain ⟨_, _, _, desc, rest, value, -, -, -, outputs, known⟩ :=
    reducesNothing_eq_true reduces found
  cases stuck with
  | @kernel op data others dataDesc isReduction read owned unlisted =>
      obtain ⟨_, _, _, _, _, inputs, sameDesc, -, -, -, inferred⟩ :=
        described.reduction found isReduction
      rw [read] at inputs
      cases inputs
      rw [owned] at sameDesc
      cases sameDesc
      rw [outputs] at inferred
      cases inferred
      refine ⟨op, isReduction, ReductionOp.unlisted_neutral_iff.mp ⟨unlisted, ?_⟩⟩
      rw [isReduction, Op.defaultValue, ReductionOp.defaultValue] at known
      split at known
      · cases known
      next element neutral => rw [neutral, Option.isSome_some]
  | scalar isSelection =>
      rw [isSelection] at known
      cases known

/-- The pass cuts off needed nodes that reduce nothing, and only these. -/
theorem WellFormed.eliminateEmpty_cuts (before : graph.WellFormed) (typed : graph.Typed)
    : ∃ after : graph.eliminateEmpty.graph.WellFormed,
        Cuts before after bindings
          fun id => graph.Needed id ∧ graph.reducesNothing id = .ok true := by
  apply before.eliminateNodes_cuts typed before.inside_of_ordered
  intro id member reduces
  exact ⟨before.mem_topologicalOrder_iff.mp member, reduces⟩

/-- An execution that succeeds gives the same tensors after the replacement. -/
theorem WellFormed.execute_after (before : graph.WellFormed) (typed : graph.Typed)
    {results : List Tensor} (success : (graph.execute [] bindings).outcome = .ok results)
    : (graph.eliminateEmpty.graph.execute [] bindings).outcome = .ok results := by
  obtain ⟨after, cuts⟩ := before.eliminateEmpty_cuts typed
  exact cuts.execute success

/-- An execution that is given its parameters and succeeds only after the replacement fails before
it at a node that has been cut away. That node is stuck, or there is no room for its tensors.
-/
theorem WellFormed.cutAway_of_error (before : graph.WellFormed) (typed : graph.Typed)
    (held : ∀ value, graph.Holds value → value.Moderate)
    (given : ∀ binding ∈ bindings, binding.2.Moderate)
    (binds : graph.BindsParameters bindings) (supplied : graph.Supplied bindings)
    {results : List Tensor}
    (success : (graph.eliminateEmpty.graph.execute [] bindings).outcome = .ok results)
    {failure : Failure GraphError}
    (failed : (graph.execute [] bindings).outcome = .error failure)
    : ∃ id node,
        graph.CutAway id
        ∧ graph.nodes[id]? = some node
        ∧ before.denote bindings id = .error failure
        ∧ (failure = .fault .capacityOverflow
          ∨ ∃ dtype,
              graph.Stuck (before.denote bindings) node dtype
              ∧ failure = .error (.unsupportedType node.op.opType.render dtype)) := by
  obtain ⟨id, node, inputs, needed, found, picked, denoted, reason⟩ :=
    before.stuck_of_error typed.described held given binds supplied failed
  obtain ⟨after, cuts⟩ := before.eliminateEmpty_cuts typed
  obtain ⟨reader, path, readerNeeded, reduces⟩ :=
    cuts.replaced_of_error success needed found picked denoted
  exact ⟨id, node, ⟨reader, readerNeeded, reduces, path⟩, found, denoted, reason⟩

/-- An execution succeeds exactly if it does so after the replacement of reductions of empty data,
with the same tensors, and every node that the replacement has cut away denotes tensors. If it
succeeds only afterwards, a node that has been cut away was stuck or had no room for a tensor. A
replaced reduction is stuck itself only where its kernels leave out a type for which it has a value
over no elements. No command that built the graph has redirected the uses of a constant. Machine
words count what the extents of the constants and of the bound tensors ask for.
-/
theorem ReachableBy.eliminateEmpty_hides (reachable : ReachableBy sparesConstants graph)
    (stored : ∀ value, graph.Holds value → Buffer.fits value.dtype value.length)
    (counted : ∀ value, graph.Holds value → value.Counted)
    (fitting : ∀ binding ∈ bindings, Buffer.fits binding.2.dtype binding.2.length)
    (countedToo : ∀ binding ∈ bindings, binding.2.Counted)
    (binds : graph.BindsParameters bindings) (supplied : graph.Supplied bindings)
    : (∀ results,
        (graph.execute [] bindings).outcome = .ok results
        ↔ (graph.eliminateEmpty.graph.execute [] bindings).outcome = .ok results
          ∧ ∀ id,
              graph.CutAway id
              → ∃ tensors,
                  (reachable.wellFormed sparesConstants_lenient).denote bindings id = .ok tensors)
      ∧ (∀ results,
          (graph.eliminateEmpty.graph.execute [] bindings).outcome = .ok results
          → (graph.execute [] bindings).outcome = .ok results
            ∨ ∃ (id : NodeId) (node : Node) (failure : Failure GraphError),
                graph.CutAway id
                ∧ graph.nodes[id]? = some node
                ∧ (graph.execute [] bindings).outcome = .error failure
                ∧ (failure = .fault .capacityOverflow
                  ∨ ∃ dtype,
                      graph.Stuck
                        ((reachable.wellFormed sparesConstants_lenient).denote bindings) node dtype
                      ∧ failure = .error (.unsupportedType node.op.opType.render dtype)))
      ∧ ∀ (id : NodeId) (node : Node) (dtype : DType),
          graph.reducesNothing id = .ok true
          → graph.nodes[id]? = some node
          → graph.Stuck ((reachable.wellFormed sparesConstants_lenient).denote bindings) node dtype
          → ∃ op,
              node.op = .reduction op
              ∧ (op.kind = .l2 ∧ dtype.isIntegral
                ∨ op.kind ∈ [.sum, .prod, .max, .min] ∧ dtype = .bf16) := by
  have before := reachable.wellFormed sparesConstants_lenient
  have typed := reachable.typed
  have held (value : Tensor) (held : graph.Holds value) : value.Moderate :=
    ⟨.inl (stored value held), counted value held⟩
  have given (binding : NodeId × Tensor) (member : binding ∈ bindings) : binding.2.Moderate :=
    ⟨.inl (fitting binding member), countedToo binding member⟩
  refine ⟨?_, ?_, ?_⟩
  · intro results
    constructor
    · intro success
      obtain ⟨-, picked⟩ := before.execute_eq_ok_iff.mp success
      exact ⟨before.execute_after typed success, fun id cutAway =>
        before.results_eq_ok_iff.mp ⟨results, picked⟩ id cutAway.needed⟩
    · rintro ⟨success, denotes⟩
      cases outcome : (graph.execute [] bindings).outcome with
      | ok others => rw [← success, before.execute_after typed outcome]
      | error failure =>
          obtain ⟨id, node, cutAway, -, denoted, -⟩ :=
            before.cutAway_of_error typed held given binds supplied success outcome
          obtain ⟨tensors, known⟩ := denotes id cutAway
          rw [denoted] at known
          cases known
  · intro results success
    cases outcome : (graph.execute [] bindings).outcome with
    | ok others => exact .inl (by rw [← success, before.execute_after typed outcome])
    | error failure =>
        obtain ⟨id, node, cutAway, found, -, reason⟩ :=
          before.cutAway_of_error typed held given binds supplied success outcome
        exact .inr ⟨id, node, failure, cutAway, found, rfl, reason⟩
  · intro id node dtype reduces found stuck
    exact unlisted_of_stuck typed.described reduces found stuck

/-- The norms of the columns of a parameter without rows. -/
def emptyNorm : Graph :=
  empty.performAll
    [
      .parameter ⟨.i32, ⟨[0, 2]⟩⟩,
      .constant (axisList 0),
      .add (.reduction ⟨.l2, false, .empty⟩) [⟨0, 0⟩, ⟨1, 0⟩],
      .addResult ⟨2, 0⟩
    ]

theorem emptyNorm_reachable (replaceable : Replaceable) : ReachableBy replaceable emptyNorm :=
  .of_commands (by simp)

theorem emptyNorm_binds : emptyNorm.BindsParameters [(0, noRows)] := by
  intro binding member
  cases List.mem_singleton.mp member
  exact ⟨_, _, rfl, rfl⟩

theorem emptyNorm_supplied : emptyNorm.Supplied [(0, noRows)] := by
  intro id node declared _ found parameter
  match id, found with
  | 0, found =>
      cases found
      cases parameter
      exact ⟨0, noRows, rfl, rfl⟩
  | 1, found | 2, found =>
      cases found
      cases parameter
  | _ + 3, found => cases found

theorem emptyNorm_topologicalOrder : emptyNorm.topologicalOrder = [0, 1, 2] :=
  topologicalOrder_of_sources ⟨0, 0⟩ ⟨1, 0⟩ ⟨2, 0⟩ rfl rfl rfl rfl rfl rfl rfl (by decide)

/-- Integers have no kernel for the norm. -/
theorem emptyNorm_execute
    : (emptyNorm.execute [] [(0, noRows)]).outcome
      = .error (.error (.unsupportedType "v4::ReduceL2" .i32)) := by
  rw [execute, emptyNorm_topologicalOrder]
  rfl

theorem emptyNorm_eliminateEmpty
    : emptyNorm.eliminateEmpty.graph
      = (emptyNorm.perform (.constant twoZeros)).graph.redirected ⟨2, 0⟩ ⟨3, 0⟩ := by
  have added
      : emptyNorm.addDefault 2 = .ok ((emptyNorm.perform (.constant twoZeros)).graph, 3) :=
    rfl
  have relinked
      : ∃ count,
          (emptyNorm.perform (.constant twoZeros)).graph.replaceUses (.first 2) (.first 3)
          = .ok ((emptyNorm.perform (.constant twoZeros)).graph.redirected ⟨2, 0⟩ ⟨3, 0⟩, count) :=
    replaceUses_of_unfed rfl rfl rfl rfl
  obtain ⟨count, relinked⟩ := relinked
  have skipped : emptyNorm.eliminateNodes 0 [0, 1, 2] = emptyNorm.eliminateNodes 0 [2] := rfl
  have reduces : emptyNorm.reducesNothing 2 = .ok true := rfl
  rw [eliminateEmpty, emptyNorm_topologicalOrder, skipped, eliminateNodes]
  simp only [reduces, added, relinked, eliminateNodes]

/-- The zeros that take the place of the norms need no kernel. -/
theorem emptyNorm_eliminateEmpty_execute
    : (emptyNorm.eliminateEmpty.graph.execute [] [(0, noRows)]).outcome = .ok [twoZeros] := by
  have order : emptyNorm.eliminateEmpty.graph.topologicalOrder = [3] := by
    rw [emptyNorm_eliminateEmpty]
    exact topologicalOrder_of_source ⟨3, 0⟩ rfl rfl rfl
  rw [execute, order, emptyNorm_eliminateEmpty]
  rfl

/-- No command redirects anything here, and the failure is hidden all the same. -/
theorem exists_failure_hidden
    : ¬ ∀ (graph : Graph) (bindings : Bindings) (results : List Tensor),
        ReachableBy (fun _ _ => False) graph
        → graph.BindsParameters bindings
        → graph.Supplied bindings
        → (graph.eliminateEmpty.graph.execute [] bindings).outcome = .ok results
        → ∃ earlier, (graph.execute [] bindings).outcome = .ok earlier := by
  intro claimed
  obtain ⟨earlier, success⟩ := claimed emptyNorm [(0, noRows)] [twoZeros] (emptyNorm_reachable _)
    emptyNorm_binds emptyNorm_supplied emptyNorm_eliminateEmpty_execute
  rw [emptyNorm_execute] at success
  cases success

theorem emptyNorm_eliminateEmpty_hides
    : (∀ value, emptyNorm.Holds value → Buffer.fits value.dtype value.length)
      ∧ (∀ value, emptyNorm.Holds value → value.Counted)
      ∧ emptyNorm.BindsParameters [(0, noRows)]
      ∧ emptyNorm.Supplied [(0, noRows)]
      ∧ ∃ (reachable : ReachableBy sparesConstants emptyNorm) (id : NodeId) (node : Node)
          (failure : Failure GraphError),
          emptyNorm.CutAway id
          ∧ emptyNorm.nodes[id]? = some node
          ∧ (emptyNorm.execute [] [(0, noRows)]).outcome = .error failure
          ∧ (failure = .fault .capacityOverflow
            ∨ ∃ dtype,
                emptyNorm.Stuck
                  ((reachable.wellFormed sparesConstants_lenient).denote [(0, noRows)]) node dtype
                ∧ failure = .error (.unsupportedType node.op.opType.render dtype)) := by
  have reachable : ReachableBy sparesConstants emptyNorm := emptyNorm_reachable _
  have stored (value : Tensor) (held : emptyNorm.Holds value)
      : Buffer.fits value.dtype value.length :=
    held.of_listed (fun value => Buffer.fits value.dtype value.length) rfl
  have counted (value : Tensor) (held : emptyNorm.Holds value) : value.Counted :=
    held.of_listed Tensor.Counted rfl
  have fitting (binding : NodeId × Tensor) (member : binding ∈ [(0, noRows)])
      : Buffer.fits binding.2.dtype binding.2.length := by
    cases List.mem_singleton.mp member
    rfl
  have countedToo (binding : NodeId × Tensor) (member : binding ∈ [(0, noRows)])
      : binding.2.Counted := by
    cases List.mem_singleton.mp member
    decide
  refine ⟨stored, counted, emptyNorm_binds, emptyNorm_supplied, reachable, ?_⟩
  obtain ⟨-, hides, -⟩ :=
    ReachableBy.eliminateEmpty_hides reachable stored counted fitting countedToo emptyNorm_binds
      emptyNorm_supplied
  rcases hides [twoZeros] emptyNorm_eliminateEmpty_execute with success | hidden
  · rw [emptyNorm_execute] at success
    cases success
  · exact hidden

end Graph
end TensorGraph
