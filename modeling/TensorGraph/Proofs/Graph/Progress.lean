import TensorGraph.Proofs.Graph.ComputedShapes
import TensorGraph.Proofs.Graph.Declining

/-! An execution that is given its parameters stops at a stuck node or not at all.

A node is stuck if it is a reduction without a kernel for the element type of its data, or a
selection that reads a scalar of which some other selection has left no or several elements.
Inference excludes everything else that an operation could decline.
-/

namespace TensorGraph

namespace Graph

variable {graph : Graph} {bindings : Bindings}

/-- Every tensor has the element type and the rank that were inferred, and the shape if that has
more than two axes.
-/
theorem WellFormed.denote_alike (wellFormed : graph.WellFormed)
    (described : graph.TypedBy Describes) {id : NodeId} {node : Node}
    (found : graph.nodes[id]? = some node) {tensors : List Tensor}
    (denoted : wellFormed.denote bindings id = .ok tensors)
    : List.Forall₂ (Tensor.Meets Shape.Alike) tensors node.outputs := by
  refine wellFormed.denote_meets described Shape.alike_tracks (fun _ => True)
    (fun _ _ => trivial) ?_ trivial found denoted
  intro id node op inputs tensors _ found isSelection _ _ evaluated
  obtain ⟨_, _, _, _, _, _, _, _, _, _, -, -, -, -, accepts, outputs⟩ :=
    described.selection found isSelection
  have three : (unshapedOutputs node).length = 3 := by
    rw [unshapedOutputs, List.length_map, outputs, SelectionOp.length_bounds]
  obtain ⟨_, _, _, _, _, _, _, _, -, -, -, -, -, -, rows⟩ :=
    SelectionOp.evaluate_desc accepts.outputType three evaluated
  rw [outputs]
  exact SelectionOp.meets_bounds Shape.alike_tracks rows (Shape.alike_rows _ _)

theorem mem_of_bound {id : NodeId} {declared : TensorDesc} {value : Tensor}
    (isBound : bound bindings id declared = .ok value)
    : ∃ name, (name, value) ∈ bindings := by
  unfold bound at isBound
  split at isBound
  · cases isBound
  next first =>
    split at isBound
    · cases isBound
      exact ⟨_, List.mem_of_find?_eq_some first⟩
    · cases isBound

/-- Tensors are moderate if the constants and the bound tensors fit into memory and machine words
count what their extents ask for, by induction on what feeds a node.
-/
theorem WellFormed.denote_moderate (wellFormed : graph.WellFormed)
    (held : ∀ value, graph.Holds value → value.Moderate)
    (given : ∀ binding ∈ bindings, binding.2.Moderate) {id : NodeId}
    {node : Node} (found : graph.nodes[id]? = some node) {tensors : List Tensor}
    (denoted : wellFormed.denote bindings id = .ok tensors)
    : ∀ tensor ∈ tensors, tensor.Moderate := by
  induction id using wellFormed.acyclic.induction generalizing node tensors with
  | _ id ih =>
      obtain ⟨inputs, picked, attempted⟩ := (wellFormed.denote_eq_ok_iff found).mp denoted
      cases declared : node.op.parameterDesc? with
      | some desc =>
          obtain ⟨value, isBound, rfl⟩ := (Node.attempt_parameter_eq_ok_iff declared).mp attempted
          obtain ⟨name, member⟩ := mem_of_bound isBound
          intro tensor single
          rw [List.mem_singleton.mp single]
          exact given (name, value) member
      | none =>
          cases constant : node.op.constantValue? with
          | some value =>
              rw [wellFormed.denote_constant found constant] at denoted
              cases denoted
              intro tensor single
              rw [List.mem_singleton.mp single]
              exact held value ⟨id, node, found, constant⟩
          | none =>
              have inputsModerate (input : Tensor) (member : input ∈ inputs)
                  : input.Moderate := by
                obtain ⟨reference, read, denotes⟩ :=
                  exists_partner (mapM_eq_ok_iff.mp picked).flip member
                obtain ⟨others, known, present⟩ := Meaning.tensor_eq_ok_iff.mp denotes
                obtain ⟨source, owner, -⟩ := wellFormed.edges found reference read
                exact ih reference.node ⟨node, found, reference, read, rfl⟩ owner known input
                  (List.mem_of_getElem? present)
              have evaluated := (Node.attempt_eq_ok_iff declared).mp attempted
              intro tensor member
              rcases Op.evaluate_moderate constant inputsModerate evaluated tensor member with
                moderate | kept
              · exact moderate
              · obtain ⟨desc, -, rfl⟩ := List.mem_map.mp kept
                exact Tensor.moderate_unshaped desc.dtype

-----------------------------------------------------------------------------------------
-- Stuck nodes
-----------------------------------------------------------------------------------------

/-- Every parameter that the results need is bound, the first time to a tensor as declared. -/
def Supplied (graph : Graph) (bindings : Bindings) : Prop :=
  ∀ (id : NodeId) (node : Node) (declared : TensorDesc),
    graph.Needed id
    → graph.nodes[id]? = some node
    → node.op.parameterDesc? = some declared
    → ∃ name value,
        bindings.find? (fun binding => binding.1 = id) = some (name, value)
        ∧ value.desc? = some declared

/-- The node cannot evaluate, and its first input has the given element type. It is a reduction
without a kernel for that type, or a selection that reads a scalar that some selection computes or
feeds and that does not have exactly one element.
-/
inductive Stuck (graph : Graph) (denoted : Meaning) (node : Node) : DType → Prop
  | kernel {op : ReductionOp} {data : Output} {others : List Output} {desc : TensorDesc}
    (reduces : node.op = .reduction op)
    (inputs : node.inputs = data :: others)
    (described : graph.outputDesc data = .ok desc)
    (unlisted : (ReductionOp.kernels op.kind).lookup desc.dtype = none)
    : Stuck graph denoted node desc.dtype
  | scalar {op : SelectionOp} {boxes scores scalar : Output} {scalars : List Output}
    {desc : TensorDesc} {tensor : Tensor}
    (selects : node.op = .selection op)
    (inputs : node.inputs = boxes :: scores :: scalars)
    (described : graph.outputDesc boxes = .ok desc)
    (read : scalar ∈ scalars)
    (denotes : denoted.tensor scalar = .ok tensor)
    (several : tensor.length ≠ 1)
    (selected : graph.Selects scalar.node)
    : Stuck graph denoted node desc.dtype

/-- The tensor of an output is alike its descriptor. -/
theorem WellFormed.tensor_alike (wellFormed : graph.WellFormed)
    (described : graph.TypedBy Describes) {reference : Output} {desc : TensorDesc}
    (owned : graph.outputDesc reference = .ok desc) {tensor : Tensor}
    (denotes : (wellFormed.denote bindings).tensor reference = .ok tensor)
    : tensor.Meets Shape.Alike desc :=
  wellFormed.meets_input owned denotes fun _ _ found denoted =>
    wellFormed.denote_alike described found denoted

/-- The tensor of an output that no selection computes or feeds is exactly as described. -/
theorem WellFormed.tensor_exact (wellFormed : graph.WellFormed)
    (described : graph.TypedBy Describes) {reference : Output} {desc : TensorDesc}
    (owned : graph.outputDesc reference = .ok desc) (free : ¬ graph.Selects reference.node)
    {tensor : Tensor} (denotes : (wellFormed.denote bindings).tensor reference = .ok tensor)
    : tensor.desc? = some desc := by
  obtain ⟨tensors, denoted, present⟩ := Meaning.tensor_eq_ok_iff.mp denotes
  obtain ⟨node, found, declared⟩ := outputDesc_eq_ok_iff.mp owned
  exact related_of_getElem? (wellFormed.denote_exact described free found denoted) present declared

/-- A reduction that declines the tensors of its inputs is stuck. -/
theorem WellFormed.stuck_reduction (wellFormed : graph.WellFormed)
    (described : graph.TypedBy Describes) {id : NodeId} {node : Node}
    (found : graph.nodes[id]? = some node) {op : ReductionOp}
    (isReduction : node.op = .reduction op)
    {inputs : List Tensor}
    (picked : node.inputs.mapM (wellFormed.denote bindings).tensor = .ok inputs)
    (moderate : ∀ input ∈ inputs, input.Moderate) {outputs : List Tensor}
    (declined : op.evaluate (unshapedOutputs node) inputs = .ok ⟨false, outputs⟩)
    : ∃ argument others,
        inputs = argument :: others
        ∧ graph.Stuck (wellFormed.denote bindings) node argument.dtype := by
  obtain ⟨data, axes, desc, _, constant, read, owned, -, -, named, computed⟩ :=
    described.reduction found isReduction
  rw [read] at picked
  obtain ⟨argument, others, denotes, -, rfl⟩ :=
    List.forall₂_cons_left_iff.mp (mapM_eq_ok_iff.mp picked)
  obtain ⟨type, shape, shaped, alike⟩ := wellFormed.tensor_alike described owned denotes
  rw [unshapedOutputs, computed] at declined
  have below (axis : Nat) (member : axis ∈ op.axes) : axis < shape.rank := by
    rw [alike.rank]
    exact ReductionOp.resolveAxes_lt named axis member
  have unlisted := ReductionOp.unlisted_of_declined declined shaped below type.symm
    (moderate argument List.mem_cons_self)
  refine ⟨argument, others, rfl, ?_⟩
  rw [type] at unlisted ⊢
  exact .kernel isReduction read owned unlisted

/-- A selection that declines the tensors of its inputs is stuck. -/
theorem WellFormed.stuck_selection (wellFormed : graph.WellFormed)
    (described : graph.TypedBy Describes) {id : NodeId} {node : Node}
    (found : graph.nodes[id]? = some node) {op : SelectionOp}
    (isSelection : node.op = .selection op) {inputs : List Tensor}
    (picked : node.inputs.mapM (wellFormed.denote bindings).tensor = .ok inputs)
    (moderate : ∀ input ∈ inputs, input.Moderate) {outputs : List Tensor}
    (declined : op.evaluate (unshapedOutputs node) inputs = .ok ⟨false, outputs⟩)
    : ∃ argument others,
        inputs = argument :: others
        ∧ graph.Stuck (wellFormed.denote bindings) node argument.dtype := by
  obtain ⟨boxes, scores, scalars, boxesDesc, scoresDesc, scalarDescs, batches, labels, count, rows,
    read, boxesOwned, scoresOwned, scalarsOwned, accepts, computed⟩ :=
    described.selection found isSelection
  rw [read] at picked
  obtain ⟨boxTensor, _, boxesDenote, later, rfl⟩ :=
    List.forall₂_cons_left_iff.mp (mapM_eq_ok_iff.mp picked)
  obtain ⟨scoreTensor, scalarTensors, scoresDenote, scalarsDenote, rfl⟩ :=
    List.forall₂_cons_left_iff.mp later
  obtain ⟨boxesType, boxShape, boxShaped, boxAlike⟩ :=
    wellFormed.tensor_alike described boxesOwned boxesDenote
  obtain ⟨scoresType, scoreShape, scoreShaped, scoreAlike⟩ :=
    wellFormed.tensor_alike described scoresOwned scoresDenote
  have readable : SelectionOp.Readable boxTensor scoreTensor := by
    refine ⟨boxesType ▸ accepts.boxesType, scoresType ▸ accepts.scoresType, batches, labels, count,
      ?_, ?_⟩
    · rw [boxShaped, boxAlike.deep (by simp [Shape.rank, accepts.boxesDims]), ← accepts.boxesDims]
    · rw [scoreShaped, scoreAlike.deep (by simp [Shape.rank, accepts.scoresDims]),
        ← accepts.scoresDims]
  have scalarAlike {index : Nat} {tensor : Tensor} (present : scalarTensors[index]? = some tensor)
      : ∃ scalar desc,
          scalar ∈ scalars
          ∧ scalarDescs[index]? = some desc
          ∧ graph.outputDesc scalar = .ok desc
          ∧ (wellFormed.denote bindings).tensor scalar = .ok tensor
          ∧ tensor.dtype = desc.dtype := by
    obtain ⟨scalar, listed, denotes⟩ := exists_partner_at scalarsDenote.flip present
    obtain ⟨desc, declared, owned⟩ := exists_partner_at scalarsOwned listed
    exact ⟨scalar, desc, List.mem_of_getElem? listed, declared, owned, denotes,
      (wellFormed.tensor_alike described owned denotes).dtype⟩
  rw [unshapedOutputs, computed] at declined
  obtain ⟨tensor, member, several⟩ := SelectionOp.scalar_of_declined declined readable
    (moderate boxTensor List.mem_cons_self)
    (moderate scoreTensor (List.mem_cons_of_mem _ List.mem_cons_self))
    (fun tensor present => by
      obtain ⟨_, desc, -, declared, -, -, type⟩ := scalarAlike present
      exact type ▸ (accepts.limit desc declared).type)
    (fun index tensor present => by
      obtain ⟨_, desc, -, declared, -, -, type⟩ := scalarAlike present
      exact type ▸ (accepts.reals index desc declared).type)
  obtain ⟨index, present⟩ := List.getElem?_of_mem member
  obtain ⟨scalar, desc, listed, declared, owned, denotes, -⟩ := scalarAlike present
  refine ⟨boxTensor, _, rfl, ?_⟩
  rw [boxesType]
  apply Stuck.scalar isSelection read boxesOwned listed denotes several
  by_contra free
  have exact := wellFormed.tensor_exact described owned free denotes
  rw [Tensor.length_of_shape (Tensor.desc?_eq_some_iff.mp exact).2] at several
  exact several (accepts.single declared)

/-- A node that denotes tensors is not stuck. -/
theorem WellFormed.not_stuck_of_denote (wellFormed : graph.WellFormed)
    (described : graph.TypedBy Describes) {id : NodeId} {node : Node}
    (found : graph.nodes[id]? = some node) {tensors : List Tensor}
    (denoted : wellFormed.denote bindings id = .ok tensors) (dtype : DType)
    : ¬ graph.Stuck (wellFormed.denote bindings) node dtype := by
  obtain ⟨inputs, picked, attempted⟩ := (wellFormed.denote_eq_ok_iff found).mp denoted
  intro stuck
  cases stuck with
  | @kernel op data others desc isReduction read owned unlisted =>
      rw [read] at picked
      obtain ⟨argument, rest, denotes, -, rfl⟩ :=
        List.forall₂_cons_left_iff.mp (mapM_eq_ok_iff.mp picked)
      have evaluated := (Node.attempt_eq_ok_iff (by rw [isReduction]; rfl)).mp attempted
      rw [isReduction, Op.evaluate] at evaluated
      rw [← (wellFormed.tensor_alike described owned denotes).dtype] at unlisted
      exact ReductionOp.listed_of_evaluated evaluated unlisted
  | @scalar op boxes scores scalar scalars desc tensor isSelection read owned listed denotes
      several selected =>
      obtain ⟨_, _, _, _, _, scalarDescs, _, _, _, _, same, -, -, scalarsOwned, accepts, -⟩ :=
        described.selection found isSelection
      rw [read] at same picked
      cases same
      obtain ⟨boxTensor, _, -, later, rfl⟩ :=
        List.forall₂_cons_left_iff.mp (mapM_eq_ok_iff.mp picked)
      obtain ⟨scoreTensor, scalarTensors, -, scalarsDenote, rfl⟩ :=
        List.forall₂_cons_left_iff.mp later
      have few : scalarTensors.length ≤ 4 := by
        rw [← scalarsDenote.length_eq, scalarsOwned.length_eq]
        exact accepts.few
      have evaluated := (Node.attempt_eq_ok_iff (by rw [isSelection]; rfl)).mp attempted
      rw [isSelection, Op.evaluate] at evaluated
      obtain ⟨other, member, denotesOther⟩ := exists_partner scalarsDenote listed
      rw [denotes] at denotesOther
      cases denotesOther
      exact several (SelectionOp.single_of_evaluated few evaluated tensor member)

-----------------------------------------------------------------------------------------
-- Progress
-----------------------------------------------------------------------------------------

/-- A needed node that refuses the tensors of its inputs is stuck, if the parameters are supplied
and the tensors are moderate.
-/
theorem WellFormed.stuck_of_refuses (wellFormed : graph.WellFormed)
    (described : graph.TypedBy Describes) (supplied : graph.Supplied bindings) {id : NodeId}
    (needed : graph.Needed id) {node : Node} (found : graph.nodes[id]? = some node)
    {inputs : List Tensor}
    (picked : node.inputs.mapM (wellFormed.denote bindings).tensor = .ok inputs)
    (moderate : ∀ input ∈ inputs, input.Moderate) {failure : Failure GraphError}
    (refuses : node.Refuses bindings inputs failure)
    : failure = .fault .capacityOverflow
      ∨ ∃ dtype,
          graph.Stuck (wellFormed.denote bindings) node dtype
          ∧ failure = .error (.unsupportedType node.op.opType.render dtype) := by
  have placed := wellFormed.placed found
  cases refuses with
  | missing parameter unbound =>
      obtain ⟨_, _, bound, -⟩ := supplied id node _ needed found parameter
      rw [← placed, unbound] at bound
      cases bound
  | mismatch parameter first different =>
      obtain ⟨_, _, bound, same⟩ := supplied id node _ needed found parameter
      rw [← placed, first] at bound
      cases bound
      exact absurd same different
  | stopped computed stopped => exact .inl (congrArg _ (Op.evaluate_eq_fault moderate stopped))
  | @declined outputs dtype computed declined type =>
      right
      have stuck
          : ∃ argument others,
              inputs = argument :: others
              ∧ graph.Stuck (wellFormed.denote bindings) node argument.dtype := by
        cases isOp : node.op with
        | parameter desc =>
            rw [isOp] at computed
            cases computed
        | constant value =>
            -- A constant denotes its value, so it does not decline.
            have denoted : wellFormed.denote bindings id = .ok [value] :=
              wellFormed.denote_constant found (by rw [isOp]; rfl)
            obtain ⟨others, same, attempted⟩ := (wellFormed.denote_eq_ok_iff found).mp denoted
            rw [picked] at same
            cases same
            rw [Node.attempt_eq_ok_iff computed, declined] at attempted
            cases attempted
        | reduction op =>
            rw [isOp, Op.evaluate] at declined
            exact wellFormed.stuck_reduction described found isOp picked moderate declined
        | selection op =>
            rw [isOp, Op.evaluate] at declined
            exact wellFormed.stuck_selection described found isOp picked moderate declined
      obtain ⟨argument, others, rfl, stuck⟩ := stuck
      cases type
      exact ⟨argument.dtype, stuck, rfl⟩

/-- An execution that is given its parameters and fails does so at a needed node whose inputs denote
tensors. If the tensors that it starts from are moderate and there is room for the others, that node
is stuck.
-/
theorem WellFormed.stuck_of_error (wellFormed : graph.WellFormed)
    (described : graph.TypedBy Describes) (held : ∀ value, graph.Holds value → value.Moderate)
    (given : ∀ binding ∈ bindings, binding.2.Moderate)
    (binds : graph.BindsParameters bindings) (supplied : graph.Supplied bindings)
    {failure : Failure GraphError}
    (failed : (graph.execute [] bindings).outcome = .error failure)
    : ∃ id node inputs,
        graph.Needed id
        ∧ graph.nodes[id]? = some node
        ∧ node.inputs.mapM (wellFormed.denote bindings).tensor = .ok inputs
        ∧ wellFormed.denote bindings id = .error failure
        ∧ (failure = .fault .capacityOverflow
          ∨ ∃ dtype,
              graph.Stuck (wellFormed.denote bindings) node dtype
              ∧ failure = .error (.unsupportedType node.op.opType.render dtype)) := by
  obtain ⟨before, id, after, node, inputs, split, -, denoted, found, picked, refuses⟩ :=
    wellFormed.first_refusal ((wellFormed.execute_eq_error_iff binds).mp failed)
  have needed : graph.Needed id := wellFormed.mem_topologicalOrder_iff.mp (by simp [split])
  have moderate (input : Tensor) (member : input ∈ inputs) : input.Moderate := by
    obtain ⟨reference, read, denotes⟩ := exists_partner (mapM_eq_ok_iff.mp picked).flip member
    obtain ⟨others, known, present⟩ := Meaning.tensor_eq_ok_iff.mp denotes
    obtain ⟨source, owner, -⟩ := wellFormed.edges found reference read
    exact wellFormed.denote_moderate held given owner known input
      (List.mem_of_getElem? present)
  exact ⟨id, node, inputs, needed, found, picked, denoted,
    wellFormed.stuck_of_refuses described supplied needed found picked moderate refuses⟩

/-- An execution whose needed parameters are bound as declared succeeds exactly if no needed node is
stuck. Otherwise the error names a stuck node and the element type of its first input. The
constants of the graph and the bound tensors fit into memory, as every buffer does that was
allocated, and machine words count what their extents ask for.
-/
theorem Reachable.execute_progress (reachable : graph.Reachable)
    (stored : ∀ value, graph.Holds value → Buffer.fits value.dtype value.length)
    (counted : ∀ value, graph.Holds value → value.Counted)
    (fitting : ∀ binding ∈ bindings, Buffer.fits binding.2.dtype binding.2.length)
    (countedToo : ∀ binding ∈ bindings, binding.2.Counted)
    (binds : graph.BindsParameters bindings) (supplied : graph.Supplied bindings)
    (room : (graph.execute [] bindings).outcome ≠ .error (.fault .capacityOverflow))
    : ((∃ results, (graph.execute [] bindings).outcome = .ok results)
        ↔ ∀ (id : NodeId) (node : Node) (dtype : DType),
            graph.Needed id
            → graph.nodes[id]? = some node
            → ¬ graph.Stuck (reachable.wellFormed.denote bindings) node dtype)
      ∧ ((∃ results, (graph.execute [] bindings).outcome = .ok results)
        ∨ ∃ (id : NodeId) (node : Node) (dtype : DType),
            graph.Needed id
            ∧ graph.nodes[id]? = some node
            ∧ graph.Stuck (reachable.wellFormed.denote bindings) node dtype
            ∧ (graph.execute [] bindings).outcome
              = .error (.error (.unsupportedType node.op.opType.render dtype))) := by
  have wellFormed := reachable.wellFormed
  have described := reachable.described
  have held (value : Tensor) (held : graph.Holds value) : value.Moderate :=
    ⟨.inl (stored value held), counted value held⟩
  have given (binding : NodeId × Tensor) (member : binding ∈ bindings) : binding.2.Moderate :=
    ⟨.inl (fitting binding member), countedToo binding member⟩
  have progress
      : (∃ results, (graph.execute [] bindings).outcome = .ok results)
        ∨ ∃ (id : NodeId) (node : Node) (dtype : DType),
            graph.Needed id
            ∧ graph.nodes[id]? = some node
            ∧ graph.Stuck (wellFormed.denote bindings) node dtype
            ∧ (graph.execute [] bindings).outcome
              = .error (.error (.unsupportedType node.op.opType.render dtype)) := by
    cases outcome : (graph.execute [] bindings).outcome with
    | ok results => exact .inl ⟨results, rfl⟩
    | error failure =>
        obtain ⟨id, node, -, needed, found, -, -, rfl | ⟨dtype, stuck, rfl⟩⟩ :=
          wellFormed.stuck_of_error described held given binds supplied outcome
        · exact absurd outcome room
        · exact .inr ⟨id, node, dtype, needed, found, stuck, rfl⟩
  refine ⟨⟨?_, ?_⟩, progress⟩
  · rintro ⟨results, success⟩ id node dtype needed found
    obtain ⟨-, picked⟩ := wellFormed.execute_eq_ok_iff.mp success
    obtain ⟨tensors, denoted⟩ := wellFormed.results_eq_ok_iff.mp ⟨results, picked⟩ id needed
    exact wellFormed.not_stuck_of_denote described found denoted dtype
  · intro free
    rcases progress with success | ⟨id, node, dtype, needed, found, stuck, -⟩
    · exact success
    · exact absurd stuck (free id node dtype needed found)

-----------------------------------------------------------------------------------------
-- A selection that limits another one
-----------------------------------------------------------------------------------------

/-- A selection whose limit is the sum over each row that another selection leaves: inference
expects one row, so that the sum is a scalar.
-/
def chainedSelections : Graph :=
  empty.performAll
    [
      .parameter ⟨.f32, ⟨[1, 1, 4]⟩⟩,
      .parameter ⟨.f32, ⟨[1, 1, 1]⟩⟩,
      .constant (.scalar .i64 1),
      .add (.selection ⟨.corner, false, .i32⟩) [⟨0, 0⟩, ⟨1, 0⟩, ⟨2, 0⟩],
      .constant (axisList 1),
      .add (.reduction ⟨.sum, false, .empty⟩) [⟨3, 0⟩, ⟨4, 0⟩],
      .add (.selection ⟨.corner, false, .i32⟩) [⟨0, 0⟩, ⟨1, 0⟩, ⟨5, 0⟩],
      .addResult ⟨6, 0⟩
    ]

/-- The sums over the rows, where there are no rows. -/
def noLimit : Tensor :=
  ⟨⟨.i32, []⟩, some ⟨[0]⟩, (Nat.zero_mul 1).symm⟩

theorem chainedSelections_binds
    : chainedSelections.BindsParameters [(0, flatBox), (1, lowScore)] := by
  intro binding member
  simp only [List.mem_cons, List.not_mem_nil, or_false] at member
  rcases member with rfl | rfl <;> exact ⟨_, _, rfl, rfl⟩

theorem chainedSelections_supplied
    : chainedSelections.Supplied [(0, flatBox), (1, lowScore)] := by
  intro id node declared _ found parameter
  match id, found with
  | 0, found =>
      cases found
      cases parameter
      exact ⟨0, flatBox, rfl, rfl⟩
  | 1, found =>
      cases found
      cases parameter
      exact ⟨1, lowScore, rfl, rfl⟩
  | 2, found | 3, found | 4, found | 5, found | 6, found =>
      cases found
      cases parameter
  | _ + 7, found => cases found

/-- No row is left, so the limit has no element. -/
theorem chainedSelections_execute (wellFormed : chainedSelections.WellFormed)
    : (chainedSelections.execute [] [(0, flatBox), (1, lowScore)]).outcome
      = .error (.error (.unsupportedType "v5::NonMaxSuppression" .f32)) := by
  have boxes : wellFormed.denote [(0, flatBox), (1, lowScore)] 0 = .ok [flatBox] := by
    rw [wellFormed.denote_of_found rfl]
    rfl
  have scores : wellFormed.denote [(0, flatBox), (1, lowScore)] 1 = .ok [lowScore] := by
    rw [wellFormed.denote_of_found rfl]
    rfl
  have rows := denote_lowScore wellFormed rfl
  have axes : wellFormed.denote [(0, flatBox), (1, lowScore)] 4 = .ok [axisList 1] := by
    rw [wellFormed.denote_of_found rfl]
    rfl
  have limit
      : wellFormed.denote [(0, flatBox), (1, lowScore)] 5 = .ok [noLimit] := by
    refine (wellFormed.denote_eq_ok_iff rfl).mpr
      ⟨[noSelections .i32, axisList 1], mapM_eq_ok_iff.mpr ?_, rfl⟩
    refine .cons (Meaning.tensor_eq_ok_iff.mpr ⟨_, rows, rfl⟩) ?_
    exact .cons (Meaning.tensor_eq_ok_iff.mpr ⟨_, axes, rfl⟩) .nil
  have declined
      : wellFormed.denote [(0, flatBox), (1, lowScore)] 6
        = .error (.error (.unsupportedType "v5::NonMaxSuppression" .f32)) := by
    rw [wellFormed.denote_of_found rfl]
    refine bind_eq_error_iff.mpr (.inr ⟨[flatBox, lowScore, noLimit], mapM_eq_ok_iff.mpr ?_, ?_⟩)
    · refine .cons (Meaning.tensor_eq_ok_iff.mpr ⟨_, boxes, rfl⟩) ?_
      refine .cons (Meaning.tensor_eq_ok_iff.mpr ⟨_, scores, rfl⟩) ?_
      exact .cons (Meaning.tensor_eq_ok_iff.mpr ⟨_, limit, rfl⟩) .nil
    · rfl
  apply (wellFormed.execute_eq_error_iff chainedSelections_binds).mpr
  have results : chainedSelections.results = [⟨6, 0⟩] := rfl
  simp [results, Meaning.tensor, declined, bind, Except.bind]

/-- The kernels list every element type of boxes that inference accepts, but not every scalar that
it accepts is one when the graph runs. So the error can name a type that has a kernel.
-/
theorem exists_unsupported_with_kernel
    : ¬ ∀ (graph : Graph) (bindings : Bindings),
        graph.Reachable
        → graph.BindsParameters bindings
        → graph.Supplied bindings
        → (graph.execute [] bindings).outcome ≠ .error (.fault .capacityOverflow)
        → (∃ results, (graph.execute [] bindings).outcome = .ok results)
          ∨ ∃ (id : NodeId) (node : Node) (op : ReductionOp) (dtype : DType),
              graph.Needed id
              ∧ graph.nodes[id]? = some node
              ∧ node.op = .reduction op
              ∧ (ReductionOp.kernels op.kind).lookup dtype = none
              ∧ (graph.execute [] bindings).outcome
                = .error (.error (.unsupportedType node.op.opType.render dtype)) := by
  intro claimed
  have reachable : chainedSelections.Reachable := ⟨_, rfl⟩
  have outcome := chainedSelections_execute reachable.wellFormed
  have room
      : (chainedSelections.execute [] [(0, flatBox), (1, lowScore)]).outcome
        ≠ .error (.fault .capacityOverflow) := by
    rw [outcome]
    simp
  rcases claimed chainedSelections [(0, flatBox), (1, lowScore)] reachable chainedSelections_binds
    chainedSelections_supplied room with
    ⟨results, success⟩ | ⟨_, node, op, dtype, -, -, isReduction, -, named⟩
  · rw [outcome] at success
    cases success
  · rw [outcome, isReduction] at named
    have sameName : "v5::NonMaxSuppression" = (ReductionOp.typeOf op.kind).render := by
      injections
    revert sameName
    cases op.kind <;> decide

theorem chainedSelections_execute_progress
    : chainedSelections.Reachable
      ∧ (∀ value, chainedSelections.Holds value → Buffer.fits value.dtype value.length)
      ∧ (∀ value, chainedSelections.Holds value → value.Counted)
      ∧ chainedSelections.BindsParameters [(0, flatBox), (1, lowScore)]
      ∧ chainedSelections.Supplied [(0, flatBox), (1, lowScore)]
      ∧ ∃ (reachable : chainedSelections.Reachable) (id : NodeId) (node : Node) (dtype : DType),
          chainedSelections.Needed id
          ∧ chainedSelections.nodes[id]? = some node
          ∧ chainedSelections.Stuck
              (reachable.wellFormed.denote [(0, flatBox), (1, lowScore)]) node dtype
          ∧ (chainedSelections.execute [] [(0, flatBox), (1, lowScore)]).outcome
            = .error (.error (.unsupportedType node.op.opType.render dtype)) := by
  have reachable : chainedSelections.Reachable := ⟨_, rfl⟩
  have outcome := chainedSelections_execute reachable.wellFormed
  have stored (value : Tensor) (held : chainedSelections.Holds value)
      : Buffer.fits value.dtype value.length :=
    held.of_listed (fun value => Buffer.fits value.dtype value.length) rfl
  have counted (value : Tensor) (held : chainedSelections.Holds value) : value.Counted :=
    held.of_listed Tensor.Counted rfl
  have fitting (binding : NodeId × Tensor) (member : binding ∈ [(0, flatBox), (1, lowScore)])
      : Buffer.fits binding.2.dtype binding.2.length := by
    simp only [List.mem_cons, List.not_mem_nil, or_false] at member
    rcases member with rfl | rfl <;> rfl
  have countedToo (binding : NodeId × Tensor) (member : binding ∈ [(0, flatBox), (1, lowScore)])
      : binding.2.Counted := by
    simp only [List.mem_cons, List.not_mem_nil, or_false] at member
    rcases member with rfl | rfl <;> decide
  have room
      : (chainedSelections.execute [] [(0, flatBox), (1, lowScore)]).outcome
        ≠ .error (.fault .capacityOverflow) := by
    rw [outcome]
    simp
  refine ⟨reachable, stored, counted, chainedSelections_binds, chainedSelections_supplied,
    reachable, ?_⟩
  obtain ⟨-, ⟨results, success⟩ | stuck⟩ :=
    Reachable.execute_progress reachable stored counted fitting countedToo
      chainedSelections_binds chainedSelections_supplied room
  · rw [outcome] at success
    cases success
  · exact stuck

end Graph
end TensorGraph
