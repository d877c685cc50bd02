import TensorGraph.Proofs.Graph.Declining
import TensorGraph.Proofs.Graph.Replacement
import TensorGraph.Proofs.Graph.Typed

/-! Cloning a node with the inputs that it has now.

A clone is inferred anew. Descriptors of inputs never change, but the value of a constant input does
if another constant takes its place, and an input can become constant. So a clone differs from its
node at most where inference reads values: in the axes of a reduction and the rows of a selection.
-/

namespace TensorGraph.Graph

variable {graph : Graph}

-----------------------------------------------------------------------------------------
-- Inference on the inputs as they are now
-----------------------------------------------------------------------------------------

/-- Adding an operation succeeds where inference accepts the inputs. -/
theorem add_eq_ok {op inferred : Op} {inputs : List Output} {seen : List InferenceInput}
    {outputs : List TensorDesc} (known : inputs.mapM graph.inferenceInput = .ok seen)
    (accepted : op.infer seen = .ok (inferred, outputs))
    : ∃ added name,
        graph.add op inputs = .ok (added, graph.nodes.length)
        ∧ graph.Extends added ⟨graph.nodes.length, name, inferred, inputs, outputs⟩ := by
  have success : ∃ added, graph.add op inputs = .ok (added, graph.nodes.length) := by
    simp only [add, known, accepted, bind, Except.bind]
    exact ⟨_, rfl⟩
  obtain ⟨added, success⟩ := success
  obtain ⟨-, other, again, descs, name, knownToo, acceptedToo, extension⟩ := extends_of_add success
  rw [known] at knownToo
  cases knownToo
  rw [accepted] at acceptedToo
  cases acceptedToo
  exact ⟨added, name, success, extension⟩

/-- Cloning a node with the given inputs appends a node of the given operation and outputs. -/
def ClonesTo (graph : Graph) (id : NodeId) (inputs : List Output) (op : Op)
    (outputs : List TensorDesc)
    : Prop :=
  ∃ changed clone name,
    graph.cloneNode id inputs = .ok (changed, clone)
    ∧ changed.nodes[clone]? = some ⟨clone, name, op, inputs, outputs⟩

/-- A clone with the inputs of the node is what inference gives for them. -/
theorem clonesTo_iff {id : NodeId} {node : Node} (found : graph.nodes[id]? = some node) {op : Op}
    {outputs : List TensorDesc}
    : graph.ClonesTo id node.inputs op outputs
      ↔ ∃ seen,
          node.inputs.mapM graph.inferenceInput = .ok seen
          ∧ node.op.fresh.infer seen = .ok (op, outputs) := by
  have cloned : graph.cloneNode id node.inputs = graph.add node.op.fresh node.inputs := by
    simp [cloneNode, Graph.node, found, bind, Except.bind]
  rw [ClonesTo, cloned]
  constructor
  · rintro ⟨changed, clone, name, success, stored⟩
    obtain ⟨rfl, seen, inferred, descs, given, known, accepted, extension⟩ :=
      extends_of_add success
    rw [extension.found_new] at stored
    cases stored
    exact ⟨seen, known, accepted⟩
  · rintro ⟨seen, known, accepted⟩
    obtain ⟨added, name, success, extension⟩ := add_eq_ok known accepted
    exact ⟨added, _, name, success, extension.found_new⟩

/-- What inference sees of outputs now. -/
theorem mapM_inferenceInput {references : List Output} {descs : List TensorDesc}
    (described
      : List.Forall₂ (fun reference desc => graph.outputDesc reference = .ok desc) references
          descs)
    : ∃ seen,
        references.mapM graph.inferenceInput = .ok seen
        ∧ seen.map InferenceInput.desc = descs
        ∧ seen.map InferenceInput.constant = references.map graph.constantValue? := by
  induction described with
  | nil => exact ⟨[], rfl, rfl, rfl⟩
  | @cons reference desc references descs owned _ ih =>
      obtain ⟨seen, known, sameDescs, sameConstants⟩ := ih
      refine ⟨⟨desc, graph.constantValue? reference⟩ :: seen, ?_, ?_, ?_⟩
      · rw [List.mapM_cons, inferenceInput, owned, known]
        rfl
      · rw [List.map_cons, sameDescs]
      · rw [List.map_cons, List.map_cons, sameConstants]

-----------------------------------------------------------------------------------------
-- Reductions
-----------------------------------------------------------------------------------------

/-- The clone of a reduction has the axes that its second input names now, if that is a constant
that names axes at all.
-/
theorem TypedBy.clone_reduction (described : graph.TypedBy Describes) {id : NodeId} {node : Node}
    (found : graph.nodes[id]? = some node) {op : ReductionOp}
    (isReduction : node.op = .reduction op)
    : ∃ data axes desc,
        node.inputs = [data, axes]
        ∧ graph.outputDesc data = .ok desc
        ∧ node.outputs = [⟨desc.dtype, desc.shape.reduce op.axes op.keepDims⟩]
        ∧ ∀ inferred outputs,
            graph.ClonesTo id node.inputs inferred outputs
            ↔ ∃ resolved,
                op.resolveAxes (graph.constantValue? axes) desc.shape.rank = .ok resolved
                ∧ inferred = .reduction ⟨op.kind, op.keepDims, resolved⟩
                ∧ outputs = [⟨desc.dtype, desc.shape.reduce resolved op.keepDims⟩] := by
  obtain ⟨data, axes, desc, axesDesc, -, read, dataOwned, axesOwned, accepts, -, computed⟩ :=
    described.reduction found isReduction
  refine ⟨data, axes, desc, read, dataOwned, computed, ?_⟩
  intro inferred outputs
  have known
      : node.inputs.mapM graph.inferenceInput
        = .ok [⟨desc, graph.constantValue? data⟩, ⟨axesDesc, graph.constantValue? axes⟩] := by
    rw [read]
    simp [inferenceInput, dataOwned, axesOwned, Except.map, bind, Except.bind, pure, Except.pure]
  rw [clonesTo_iff found, known, isReduction]
  simp only [Except.ok.injEq, exists_eq_left', Op.fresh, Op.infer, map_eq_ok_iff, Prod.exists,
    ReductionOp.infer_eq_ok_iff]
  constructor
  · rintro ⟨_, _, ⟨dataSeen, axesSeen, resolved, same, -, named, rfl, rfl⟩, pair⟩
    cases same
    cases pair
    exact ⟨resolved, named, rfl, rfl⟩
  · rintro ⟨resolved, named, rfl, rfl⟩
    exact ⟨_, _, ⟨_, _, resolved, rfl, ⟨accepts.data, accepts.axes⟩, named, rfl, rfl⟩, rfl⟩

/-- As long as the uses of constants are not redirected, the second input of a reduction names the
recorded axes.
-/
theorem Typed.axes_named (typed : graph.Typed) {id : NodeId} {node : Node}
    (found : graph.nodes[id]? = some node) {op : ReductionOp}
    (isReduction : node.op = .reduction op)
    {data axes : Output} (read : node.inputs = [data, axes]) {desc : TensorDesc}
    (owned : graph.outputDesc data = .ok desc)
    : op.resolveAxes (graph.constantValue? axes) desc.shape.rank = .ok op.axes := by
  obtain ⟨attributes, seen, still, accepted⟩ := typed id node found
  rw [isReduction] at accepted
  obtain ⟨before, -, accepted⟩ := Op.infer_eq_reduction accepted
  obtain ⟨dataSeen, axesSeen, resolved, rfl, -, named, rfl, -⟩ :=
    ReductionOp.infer_eq_ok_iff.mp accepted
  rw [read] at still
  obtain ⟨dataStill, later⟩ := List.forall₂_cons.mp still
  obtain ⟨axesStill, -⟩ := List.forall₂_cons.mp later
  have sameDesc := dataStill.desc
  rw [owned] at sameDesc
  cases sameDesc
  cases constant : axesSeen.constant with
  | none =>
      rw [constant] at named
      cases named
  | some value =>
      rw [axesStill.constant value constant, ← constant]
      exact named

-----------------------------------------------------------------------------------------
-- Selections
-----------------------------------------------------------------------------------------

/-- The value of a constant has the descriptor of the output. -/
theorem WellFormed.desc?_of_constantValue? (wellFormed : graph.WellFormed) {output : Output}
    {value : Tensor} (known : graph.constantValue? output = some value) {desc : TensorDesc}
    (owned : graph.outputDesc output = .ok desc)
    : value.desc? = some desc := by
  obtain ⟨first, node, found, constant⟩ := constantValue?_eq_some_iff.mp known
  obtain ⟨owner, stored, present⟩ := outputDesc_eq_ok_iff.mp owned
  rw [found] at stored
  cases stored
  obtain ⟨-, other, described, outputs⟩ := (wellFormed.settled found).of_constant constant
  rw [outputs, first] at present
  cases present
  exact described

/-- The number of selections of each class can be read off a limit that is an integer scalar. -/
theorem WellFormed.perClass_eq_ok (wellFormed : graph.WellFormed) {limit : Output}
    {desc : TensorDesc} (owned : graph.outputDesc limit = .ok desc)
    (scalar : desc.IsScalar DType.isIntegral) (count : Nat)
    : ∃ most, SelectionOp.perClass (some ⟨desc, graph.constantValue? limit⟩) count = .ok most := by
  cases known : graph.constantValue? limit with
  | none => exact ⟨count, rfl⟩
  | some value =>
      obtain ⟨type, shaped⟩ :=
        Tensor.desc?_eq_some_iff.mp (wellFormed.desc?_of_constantValue? known owned)
      have single : value.length = 1 := (Tensor.length_of_shape shaped).trans scalar.single
      obtain ⟨number, read⟩ := Tensor.scalarInt64_of_single (type ▸ scalar.type) single
      exact ⟨Nat.min number.toNatClampNeg count, by simp only [SelectionOp.perClass, read]⟩

/-- The clone of a selection succeeds. Its descriptors are those of the node, but it has rows for as
many selections as the limit allows now, and the node for as many as inference saw allowed.
-/
theorem WellFormed.clone_selection (wellFormed : graph.WellFormed) {id : NodeId} {node : Node}
    (found : graph.nodes[id]? = some node) {op : SelectionOp}
    (isSelection : node.op = .selection op) {seen : List InferenceInput}
    (described : List.Forall₂ (Describes graph) node.inputs seen)
    (accepted : op.infer seen = .ok node.outputs)
    : ∃ boxes scores scalars boxesSeen scoresSeen rest current batches labels count most now,
        node.inputs = boxes :: scores :: scalars
        ∧ seen = boxesSeen :: scoresSeen :: rest
        ∧ boxesSeen.desc.shape.dims = [batches, count, 4]
        ∧ scoresSeen.desc.shape.dims = [batches, labels, count]
        ∧ scalars.mapM graph.inferenceInput = .ok current
        ∧ SelectionOp.perClass rest.head? count = .ok most
        ∧ SelectionOp.perClass current.head? count = .ok now
        ∧ node.outputs = op.bounds (word (batches * labels * most))
        ∧ graph.ClonesTo id node.inputs node.op (op.bounds (word (batches * labels * now))) := by
  obtain ⟨boxesSeen, scoresSeen, rest, batches, labels, count, most, rfl, accepts, allowed,
    outputs⟩ := SelectionOp.infer_eq_ok_iff.mp accepted
  obtain ⟨boxes, _, boxesOwned, later, read⟩ := List.forall₂_cons_right_iff.mp described
  obtain ⟨scores, scalars, scoresOwned, scalarsOwned, rfl⟩ :=
    List.forall₂_cons_right_iff.mp later
  obtain ⟨current, known, sameDescs, sameConstants⟩ :=
    mapM_inferenceInput (List.forall₂_map_right_iff.mpr scalarsOwned)
  have allowedNow : ∃ now, SelectionOp.perClass current.head? count = .ok now := by
    cases current with
    | nil => exact ⟨0, rfl⟩
    | cons limitSeen others =>
        obtain ⟨limit, restScalars, limitKnown, -, rfl⟩ :=
          List.forall₂_cons_right_iff.mp (mapM_eq_ok_iff.mp known)
        obtain ⟨desc, owned, rfl⟩ := map_eq_ok_iff.mp limitKnown
        refine wellFormed.perClass_eq_ok owned (accepts.limit desc ?_) count
        rw [← sameDescs]
        rfl
  obtain ⟨now, allowedNow⟩ := allowedNow
  refine ⟨boxes, scores, scalars, boxesSeen, scoresSeen, rest, current, batches, labels, count,
    most, now, read, rfl, accepts.boxesDims, accepts.scoresDims, known, allowed, allowedNow,
    outputs, ?_⟩
  refine (clonesTo_iff found).mpr
    ⟨⟨boxesSeen.desc, graph.constantValue? boxes⟩
      :: ⟨scoresSeen.desc, graph.constantValue? scores⟩ :: current, ?_, ?_⟩
  · rw [read, List.mapM_cons, List.mapM_cons, known]
    have first : graph.outputDesc boxes = .ok boxesSeen.desc := boxesOwned
    have second : graph.outputDesc scores = .ok scoresSeen.desc := scoresOwned
    simp [inferenceInput, first, second, Except.map, bind, Except.bind, pure, Except.pure]
  · rw [isSelection]
    refine map_eq_ok_iff.mpr ⟨_, SelectionOp.infer_eq_ok_iff.mpr
      ⟨_, _, current, batches, labels, count, now, rfl, ?_, allowedNow, rfl⟩, rfl⟩
    rw [sameDescs]
    exact accepts

/-- As long as the uses of constants are not redirected, a limit that inference saw is the limit
now, and so the clone of a selection has no more rows than the node. It has as many unless the limit
is constant now.
-/
theorem rows_of_stillSeen {scalars : List Output} {rest current : List InferenceInput}
    (still : List.Forall₂ graph.StillSeen scalars rest)
    (known : scalars.mapM graph.inferenceInput = .ok current) {count most now : Nat}
    (allowed : SelectionOp.perClass rest.head? count = .ok most)
    (allowedNow : SelectionOp.perClass current.head? count = .ok now)
    : now = most
      ∨ now ≤ most
        ∧ ∃ limit value, scalars.head? = some limit ∧ graph.constantValue? limit = some value := by
  cases still with
  | nil =>
      cases known
      cases allowed
      cases allowedNow
      exact .inl rfl
  | @cons limit saw scalars rest here _ =>
      obtain ⟨limitSeen, others, limitKnown, -, rfl⟩ :=
        List.forall₂_cons_left_iff.mp (mapM_eq_ok_iff.mp known)
      obtain ⟨desc, -, rfl⟩ := map_eq_ok_iff.mp limitKnown
      obtain ⟨sawDesc, constant⟩ := saw
      cases constant with
      | some value =>
          -- Only the value of the limit counts, and it is the one that inference saw.
          have same : graph.constantValue? limit = some value := here.constant value rfl
          simp only [List.head?_cons, same] at allowedNow
          left
          exact Except.ok.inj (allowedNow.symm.trans allowed)
      | none =>
          cases allowed
          cases constant : graph.constantValue? limit with
          | none =>
              simp only [List.head?_cons, constant] at allowedNow
              cases allowedNow
              exact .inl rfl
          | some value =>
              exact .inr ⟨SelectionOp.perClass_le allowedNow, limit, value, rfl, constant⟩

-----------------------------------------------------------------------------------------
-- Clones with the current inputs
-----------------------------------------------------------------------------------------

/-- Parameters and constants are cloned as they are. -/
theorem WellFormed.clone_source (wellFormed : graph.WellFormed) {id : NodeId} {node : Node}
    (found : graph.nodes[id]? = some node) (noReduction : ∀ op, node.op ≠ .reduction op)
    (noSelection : ∀ op, node.op ≠ .selection op)
    : graph.ClonesTo id node.inputs node.op node.outputs := by
  have settled := wellFormed.settled found
  rw [clonesTo_iff found]
  cases isOp : node.op with
  | parameter desc =>
      obtain ⟨unfed, outputs⟩ := settled.of_parameter (by rw [isOp]; rfl)
      rw [unfed, outputs]
      exact ⟨[], rfl, rfl⟩
  | constant value =>
      obtain ⟨unfed, desc, described, outputs⟩ := settled.of_constant (by rw [isOp]; rfl)
      rw [unfed, outputs]
      exact ⟨[], rfl, Op.infer_constant described⟩
  | reduction op => exact absurd isOp (noReduction op)
  | selection op => exact absurd isOp (noSelection op)

/-- As long as the uses of constants are not redirected, a clone has the operation and the outputs
of its node, or it is of a selection whose limit is constant now. It then has no more rows if a
machine word counts the scores.
-/
theorem WellFormed.clone_of_typed (wellFormed : graph.WellFormed) (typed : graph.Typed)
    {id : NodeId} {node : Node} (found : graph.nodes[id]? = some node)
    : graph.ClonesTo id node.inputs node.op node.outputs
      ∨ ∃ op rows now scores desc limit value,
          node.op = .selection op
          ∧ node.inputs[1]? = some scores
          ∧ graph.outputDesc scores = .ok desc
          ∧ node.inputs[2]? = some limit
          ∧ graph.constantValue? limit = some value
          ∧ node.outputs = op.bounds rows
          ∧ graph.ClonesTo id node.inputs node.op (op.bounds now)
          ∧ (desc.shape.numel < twoPow 64 → now ≤ rows) := by
  by_cases isReduction : ∃ op, node.op = .reduction op
  · obtain ⟨op, isReduction⟩ := isReduction
    obtain ⟨data, axes, desc, read, owned, outputs, clones⟩ :=
      typed.described.clone_reduction found isReduction
    left
    refine (clones _ _).mpr ⟨op.axes, typed.axes_named found isReduction read owned, ?_, outputs⟩
    exact isReduction
  · by_cases isSelection : ∃ op, node.op = .selection op
    · obtain ⟨op, isSelection⟩ := isSelection
      obtain ⟨attributes, seen, still, accepted⟩ := typed id node found
      rw [isSelection] at accepted
      obtain ⟨boxes, scores, scalars, _, _, rest, current, batches, labels, count, most, now, read,
        rfl, -, scoresDims, known, allowed, allowedNow, outputs, clones⟩ :=
        wellFormed.clone_selection found isSelection (still.imp fun _ _ here => here.desc)
          (Op.infer_eq_selection accepted)
      rw [read] at still
      obtain ⟨-, later⟩ := List.forall₂_cons.mp still
      obtain ⟨scoresStill, scalarsStill⟩ := List.forall₂_cons.mp later
      rcases rows_of_stillSeen scalarsStill known allowed allowedNow with
        rfl | ⟨fewer, limit, value, first, constant⟩
      · left
        rw [outputs]
        exact clones
      · refine .inr ⟨op, _, _, scores, _, limit, value, isSelection, ?_, scoresStill.desc, ?_,
          constant, outputs, clones, ?_⟩
        · rw [read]
          rfl
        · rw [read, ← first, List.head?_eq_getElem?]
          rfl
        · intro counted
          rw [Shape.numel, scoresDims, Shape.product_cons, Shape.product_cons, Shape.product_cons,
            Shape.product_nil, Nat.mul_one, ← Nat.mul_assoc] at counted
          have all := Nat.mul_le_mul_left (batches * labels) (SelectionOp.perClass_le allowed)
          have rows := Nat.mul_le_mul_left (batches * labels) fewer
          rwa [word_of_lt (by omega), word_of_lt (by omega)]
    · exact .inl (wellFormed.clone_source found (fun op isOp => isReduction ⟨op, isOp⟩)
        fun op isOp => isSelection ⟨op, isOp⟩)

/-- What a clone of a node with its current inputs is like, in every reachable graph. Parameters and
constants are cloned as they are. The clone of a reduction has the axes that its second input names
now, if that is a constant that names axes. The clone of a selection has the operation and the
outputs of the node, but rows for as many selections of each class as the limit allows now. If no
command has redirected the uses of a constant, every clone has the operation and the outputs of its
node, except that a selection whose limit is constant now can have other rows: if a machine word
counts the scores, fewer.
-/
theorem Reachable.clone_current (reachable : graph.Reachable) {id : NodeId} {node : Node}
    (found : graph.nodes[id]? = some node)
    : ((∀ op, node.op ≠ .reduction op)
        → (∀ op, node.op ≠ .selection op)
        → graph.ClonesTo id node.inputs node.op node.outputs)
      ∧ (∀ op,
          node.op = .reduction op
          → ∃ data axes desc,
              node.inputs = [data, axes]
              ∧ graph.outputDesc data = .ok desc
              ∧ node.outputs = [⟨desc.dtype, desc.shape.reduce op.axes op.keepDims⟩]
              ∧ ∀ inferred outputs,
                  graph.ClonesTo id node.inputs inferred outputs
                  ↔ ∃ resolved,
                      op.resolveAxes (graph.constantValue? axes) desc.shape.rank = .ok resolved
                      ∧ inferred = .reduction ⟨op.kind, op.keepDims, resolved⟩
                      ∧ outputs = [⟨desc.dtype, desc.shape.reduce resolved op.keepDims⟩])
      ∧ (∀ op,
          node.op = .selection op
          → ∃ boxes scores scalars boxesDesc scoresDesc current batches labels count most now,
              node.inputs = boxes :: scores :: scalars
              ∧ graph.outputDesc boxes = .ok boxesDesc
              ∧ boxesDesc.shape.dims = [batches, count, 4]
              ∧ graph.outputDesc scores = .ok scoresDesc
              ∧ scoresDesc.shape.dims = [batches, labels, count]
              ∧ scalars.mapM graph.inferenceInput = .ok current
              ∧ SelectionOp.perClass current.head? count = .ok now
              ∧ most ≤ count
              ∧ node.outputs = op.bounds (word (batches * labels * most))
              ∧ graph.ClonesTo id node.inputs node.op
                  (op.bounds (word (batches * labels * now))))
      ∧ (ReachableBy sparesConstants graph
        → graph.ClonesTo id node.inputs node.op node.outputs
          ∨ ∃ op rows now scores desc limit value,
              node.op = .selection op
              ∧ node.inputs[1]? = some scores
              ∧ graph.outputDesc scores = .ok desc
              ∧ node.inputs[2]? = some limit
              ∧ graph.constantValue? limit = some value
              ∧ node.outputs = op.bounds rows
              ∧ graph.ClonesTo id node.inputs node.op (op.bounds now)
              ∧ (desc.shape.numel < twoPow 64 → now ≤ rows)) := by
  have wellFormed := reachable.wellFormed
  have described := reachable.described
  refine ⟨wellFormed.clone_source found, ?_, ?_, ?_⟩
  · intro op isReduction
    exact described.clone_reduction found isReduction
  · intro op isSelection
    obtain ⟨attributes, seen, still, accepted⟩ := described id node found
    rw [isSelection] at accepted
    obtain ⟨boxes, scores, scalars, _, _, rest, current, batches, labels, count, most, now, read,
      rfl, boxesDims, scoresDims, known, allowed, allowedNow, outputs, clones⟩ :=
      wellFormed.clone_selection found isSelection still (Op.infer_eq_selection accepted)
    rw [read] at still
    obtain ⟨boxesOwned, later⟩ := List.forall₂_cons.mp still
    obtain ⟨scoresOwned, -⟩ := List.forall₂_cons.mp later
    exact ⟨boxes, scores, scalars, _, _, current, batches, labels, count, most, now, read,
      boxesOwned, boxesDims, scoresOwned, scoresDims, known, allowedNow,
      SelectionOp.perClass_le allowed, outputs, clones⟩
  · intro sparing
    exact wellFormed.clone_of_typed sparing.typed found

/-- A sum over the last axis of a parameter, and a constant that names the first axis. -/
def twoAxes : Graph :=
  empty.performAll
    [
      .parameter ⟨.f32, ⟨[2, 3]⟩⟩,
      .constant (axisList 1),
      .add (.reduction ⟨.sum, false, .empty⟩) [⟨0, 0⟩, ⟨1, 0⟩],
      .constant (axisList 0)
    ]

/-- A selection whose limit is a parameter, and a constant limit. -/
def twoLimits : Graph :=
  empty.performAll
    [
      .parameter ⟨.f32, ⟨[1, 3, 4]⟩⟩,
      .parameter ⟨.f32, ⟨[1, 1, 3]⟩⟩,
      .parameter ⟨.i64, .scalar⟩,
      .add (.selection ⟨.corner, true, .i64⟩) [⟨0, 0⟩, ⟨1, 0⟩, ⟨2, 0⟩],
      .constant (.scalar .i64 1)
    ]

theorem perform_replaceUses_of_unfed {old new : Output} {desc : TensorDesc}
    (owned : graph.outputDesc old = .ok desc) (described : graph.outputDesc new = .ok desc)
    {node : Node} (found : graph.nodes[new.node]? = some node) (unfed : node.inputs = [])
    : (graph.perform (.replaceUses old new)).graph = graph.redirected old new := by
  obtain ⟨count, replaced⟩ := replaceUses_of_unfed owned described found unfed
  rw [perform_eq, performAtOnce, replaced]
  rfl

/-- After the first axis has taken the place of the last one, a clone of the sum reduces the first
axis. After a constant limit has taken the place of a parameter, a clone of the selection has fewer
rows; no command has redirected the uses of a constant there.
-/
theorem exists_clone_different
    : (¬ ∀ (graph : Graph) (id : NodeId) (node : Node),
        graph.Reachable
        → graph.nodes[id]? = some node
        → graph.ClonesTo id node.inputs node.op node.outputs)
      ∧ ¬ ∀ (graph : Graph) (id : NodeId) (node : Node),
          ReachableBy sparesConstants graph
          → graph.nodes[id]? = some node
          → graph.ClonesTo id node.inputs node.op node.outputs := by
  constructor
  · intro claimed
    have reachable : (twoAxes.redirected ⟨1, 0⟩ ⟨3, 0⟩).Reachable := by
      have before : twoAxes.Reachable := ⟨_, rfl⟩
      rw [← perform_replaceUses_of_unfed rfl rfl rfl rfl]
      exact before.perform _
    obtain ⟨seen, known, accepted⟩ := (clonesTo_iff rfl).mp (claimed _ 2 _ reachable rfl)
    have now
        : [⟨⟨.f32, ⟨[2, 3]⟩⟩, none⟩, ⟨⟨.i64, ⟨[1]⟩⟩, some (axisList 0)⟩] = seen :=
      Except.ok.inj known
    subst now
    have outputs := congrArg (Except.map Prod.snd) accepted
    have columns : [⟨.f32, ⟨[3]⟩⟩] = [(⟨.f32, ⟨[2]⟩⟩ : TensorDesc)] := Except.ok.inj outputs
    exact absurd columns (by decide)
  · intro claimed
    have reachable : ReachableBy sparesConstants (twoLimits.redirected ⟨2, 0⟩ ⟨4, 0⟩) := by
      have before : ReachableBy sparesConstants twoLimits :=
        .of_commands (by simp)
      rw [← perform_replaceUses_of_unfed rfl rfl rfl rfl]
      exact before.perform rfl
    obtain ⟨seen, known, accepted⟩ := (clonesTo_iff rfl).mp (claimed _ 3 _ reachable rfl)
    have now
        : [⟨⟨.f32, ⟨[1, 3, 4]⟩⟩, none⟩, ⟨⟨.f32, ⟨[1, 1, 3]⟩⟩, none⟩,
            ⟨⟨.i64, .scalar⟩, some (.scalar .i64 1)⟩] = seen :=
      Except.ok.inj known
    subst now
    have outputs := congrArg (Except.map Prod.snd) accepted
    have rows
        : SelectionOp.bounds ⟨.corner, true, .i64⟩ 1
          = SelectionOp.bounds ⟨.corner, true, .i64⟩ 3 :=
      Except.ok.inj outputs
    exact absurd rows (by decide)

/-- The clones of the sum before and after its axis is replaced. -/
theorem twoAxes_clone_current
    : twoAxes.Reachable
      ∧ ∃ node,
          twoAxes.nodes[2]? = some node
          ∧ ∃ data axes desc,
              node.inputs = [data, axes]
              ∧ twoAxes.outputDesc data = .ok desc
              ∧ ∀ inferred outputs,
                  twoAxes.ClonesTo 2 node.inputs inferred outputs
                  ↔ ∃ resolved,
                      ReductionOp.resolveAxes ⟨.sum, false, .empty⟩ (twoAxes.constantValue? axes)
                          desc.shape.rank
                        = .ok resolved
                      ∧ inferred = .reduction ⟨.sum, false, resolved⟩
                      ∧ outputs = [⟨desc.dtype, desc.shape.reduce resolved false⟩] := by
  have reachable : twoAxes.Reachable := ⟨_, rfl⟩
  obtain ⟨-, reductions, -, -⟩ :=
    Reachable.clone_current reachable (show twoAxes.nodes[2]? = some _ from rfl)
  obtain ⟨data, axes, desc, read, owned, -, clones⟩ := reductions _ rfl
  exact ⟨reachable, _, rfl, data, axes, desc, read, owned, clones⟩

end TensorGraph.Graph
