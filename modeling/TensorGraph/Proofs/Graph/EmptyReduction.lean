import TensorGraph.Proofs.Graph.Conformance

/-! Replacing reductions of empty data changes no execution that succeeds.

Where inference leaves no elements the data has none, and every kernel leaves in each slot the value
that it starts from, which is the default of the reduction.
-/

namespace TensorGraph

-----------------------------------------------------------------------------------------
-- Kernels on no elements
-----------------------------------------------------------------------------------------

namespace Reduction

/-- A fold over no elements leaves its start in every slot. -/
theorem fold_nil {α : Type} {combine : α → α → α} {start : α} {out folded : List α}
    {shape : Shape} {axes : AxisSet} {keepDims : Bool}
    (done : fold combine start [] out shape axes keepDims = .ok folded)
    : folded = List.replicate out.length start := by
  unfold fold at done
  split at done
  · cases done
  · rw [walk] at done
    cases done
    rfl

theorem sqrt_zero {dtype : DType} {numeric : Numeric dtype.Element}
    (numbers : dtype.numeric? = some numeric) (registered : dtype ∈ ReductionOp.registered .l2)
    : numeric.sqrt numeric.zero = numeric.zero := by
  cases dtype with
  | boolean | i32 | i64 => simp [ReductionOp.registered] at registered
  | bf16 | f16 | f32 =>
      cases numbers
      rfl

/-- Over no elements the kernel of a reduction with a neutral value gives that value in every slot,
by cases on the kind.
-/
theorem kernel_nil {kind : Kind} {dtype : DType} (registered : dtype ∈ ReductionOp.registered kind)
    {kernel : Kernel dtype.Element} (known : kind.kernel? dtype = some kernel)
    {element : dtype.Element}
    (neutral : dtype.numeric?.bind (ReductionOp.neutral? kind) = some element)
    {out reduced : List dtype.Element} {shape : Shape} {axes : AxisSet} {keepDims : Bool}
    (done : kernel [] out shape axes keepDims = .ok reduced)
    : reduced = List.replicate out.length element := by
  obtain ⟨numeric, numbers, isNeutral⟩ := Option.bind_eq_some_iff.mp neutral
  have arithmetic : kind.arithmetic? numeric = some kernel := by
    cases dtype with
    | boolean => cases numbers
    | _ =>
        cases numbers
        exact known
  cases kind with
  | l1 | sum | prod | max | min =>
      cases arithmetic
      cases isNeutral
      exact fold_nil done
  | l2 =>
      cases arithmetic
      cases isNeutral
      obtain ⟨squares, folded, rfl⟩ := map_eq_ok_iff.mp done
      rw [fold_nil folded, List.map_replicate]
      exact congrArg _ (sqrt_zero numbers registered)
  | mean | logicalAnd | logicalOr => cases isNeutral

end Reduction

/-- A reduction of a tensor without elements gives what the output is filled with by default. -/
theorem ReductionOp.filled_of_empty {kind : Reduction.Kind} {dtype : DType}
    (registered : dtype ∈ registered kind) {kernel : Reduction.Kernel dtype.Element}
    (known : kind.kernel? dtype = some kernel) {element : dtype.Element}
    (neutral : dtype.numeric?.bind (neutral? kind) = some element)
    {argument out result : Tensor} {axes : AxisSet} {keepDims : Bool}
    (done : onTensors dtype kernel argument out axes keepDims = .ok result) {shape : Shape}
    (shaped : argument.shape = some shape) (empty : shape.count = 0)
    : Tensor.filled dtype element (shape.reduce axes keepDims) = .ok result := by
  obtain ⟨actual, elements, reduced, actualShape, buffer, -, fits, computed, resultBuffer,
    resultShape⟩ := onTensors_eq_ok done
  rw [shaped] at actualShape
  cases actualShape
  have none : elements = [] := by
    apply List.eq_nil_of_length_eq_zero
    have length := Tensor.length_of_shape shaped
    rw [Tensor.length, buffer, empty] at length
    exact length
  subst none
  have filled := Reduction.kernel_nil registered known neutral computed
  rw [List.length_replicate] at filled
  rw [Tensor.filled, if_pos fits]
  refine congrArg Except.ok (Tensor.eq_of_parts ?_ ?_)
  · rw [resultBuffer, filled]
  · rw [resultShape]

/-- A reduction that evaluates a tensor as inferred, where that has no elements, gives its default
value if it has one.
-/
theorem ReductionOp.default_of_evaluate {op : ReductionOp} {argument out : Tensor}
    {others results : List Tensor}
    (evaluated : op.evaluate [out] (argument :: others) = .ok ⟨true, results⟩)
    {dtype : DType} {shape : Shape} (conforms : argument.Conforms ⟨dtype, shape⟩)
    (empty : shape.count = 0)
    : op.defaultValue ⟨dtype, shape.reduce op.axes op.keepDims⟩ = .ok none
      ∨ ∃ value,
          op.defaultValue ⟨dtype, shape.reduce op.axes op.keepDims⟩ = .ok (some value)
          ∧ value.desc? = some ⟨dtype, shape.reduce op.axes op.keepDims⟩
          ∧ results = [value] := by
  obtain ⟨_, _, _, _, kernel, reduced, ⟨⟩, ⟨⟩, registered, known, done, rfl⟩ :=
    evaluate_eq_true evaluated
  obtain ⟨actual, shaped, within⟩ := conforms.shape
  rw [within.empty empty] at shaped
  -- The kernel is that of the tensor's element type, the default value that of the inferred one.
  have same : argument.dtype = dtype := conforms.dtype
  subst same
  cases neutral : argument.dtype.numeric?.bind (neutral? op.kind) with
  | none => exact .inl (by simp only [defaultValue, neutral])
  | some element =>
      have filled := filled_of_empty registered known neutral done shaped empty
      refine .inr ⟨reduced, ?_, ?_, rfl⟩
      · simp only [defaultValue, neutral, filled]
        rfl
      · obtain ⟨-, buffer, filledShape⟩ := Tensor.filled_eq_ok filled
        simp only [Tensor.desc?, Tensor.dtype, filledShape, buffer, Option.map_some]

namespace Graph

variable {graph : Graph} {bindings : Bindings}

/-- A reduction that denotes tensors, of data that is inferred to be empty, denotes its default
value if it has one.
-/
theorem WellFormed.default_of_empty (wellFormed : graph.WellFormed) (typed : graph.Typed)
    {id : NodeId} {node : Node} (found : graph.nodes[id]? = some node) {op : ReductionOp}
    (isReduction : node.op = .reduction op) {tensors : List Tensor}
    (denoted : wellFormed.denote bindings id = .ok tensors) {data : Output} {others : List Output}
    (inputs : node.inputs = data :: others) {dataDesc : TensorDesc}
    (described : graph.outputDesc data = .ok dataDesc) (empty : dataDesc.shape.count = 0)
    : ∃ desc,
        node.outputs = [desc]
        ∧ (op.defaultValue desc = .ok none
          ∨ ∃ value,
              op.defaultValue desc = .ok (some value)
              ∧ value.desc? = some desc
              ∧ tensors = [value]) := by
  obtain ⟨attributes, seen, still, accepted⟩ := typed id node found
  rw [isReduction] at accepted
  obtain ⟨before, rfl, given⟩ := Op.infer_eq_reduction accepted
  obtain ⟨saw, axes, resolved, rfl, -, -, rfl, outputs⟩ := ReductionOp.infer_eq_ok_iff.mp given
  obtain ⟨values, picked, attempted⟩ := (wellFormed.denote_eq_ok_iff found).mp denoted
  have fits := wellFormed.fits_inputs still picked fun _ _ _ _ stored known =>
    wellFormed.denote_conforms typed stored known
  obtain ⟨argument, more, argumentFits, -, rfl⟩ := List.forall₂_cons_right_iff.mp fits
  have sawData : dataDesc = saw.desc := by
    rw [inputs] at still
    have owned := (List.forall₂_cons.mp still).1.desc
    rw [described] at owned
    exact Except.ok.inj owned
  subst sawData
  have computed : node.op.parameterDesc? = none := by
    rw [isReduction]
    rfl
  rw [Node.attempt_eq_ok_iff computed, isReduction, unshapedOutputs, outputs, Op.evaluate]
    at attempted
  exact ⟨_, outputs, ReductionOp.default_of_evaluate attempted argumentFits.conforms empty⟩

-----------------------------------------------------------------------------------------
-- Replacing by the default value
-----------------------------------------------------------------------------------------

/-- Only reductions have a value over no elements. -/
theorem defaultValue_of_not_reduction {op : Op} (other : ∀ reduction, op ≠ .reduction reduction)
    (desc : TensorDesc)
    : op.defaultValue desc = .ok none := by
  cases op with
  | reduction reduction => exact absurd rfl (other reduction)
  | parameter | constant | selection => rfl

/-- A node that denotes tensors and is found to reduce nothing has one output, which denotes the
default value.
-/
theorem WellFormed.reducesNothing_cases (wellFormed : graph.WellFormed) (typed : graph.Typed)
    {id : NodeId} {node : Node} (found : graph.nodes[id]? = some node) {tensors : List Tensor}
    (denoted : wellFormed.denote bindings id = .ok tensors)
    : graph.reducesNothing id = .ok false
      ∨ graph.reducesNothing id = .ok true
        ∧ ∃ desc value,
            node.outputs = [desc]
            ∧ node.op.defaultValue desc = .ok (some value)
            ∧ value.desc? = some desc
            ∧ tensors = [value] := by
  unfold reducesNothing Graph.node
  simp only [found, orFailure, Except.mapError, bind, Except.bind]
  split
  next data others desc more inputs outputs =>
    obtain ⟨dataDesc, described⟩ :=
      hasOutput_iff_outputDesc.mp (wellFormed.edges found data (by simp [inputs]))
    simp only [described]
    by_cases empty : dataDesc.shape.count = 0
    · rw [if_neg (not_not.mpr empty)]
      by_cases isReduction : ∃ op, node.op = .reduction op
      · obtain ⟨op, isReduction⟩ := isReduction
        obtain ⟨inferred, only, none | ⟨value, known, valueDesc, single⟩⟩ :=
          wellFormed.default_of_empty typed found isReduction denoted inputs described empty
        · rw [outputs] at only
          cases only
          left
          rw [isReduction, Op.defaultValue, none]
          rfl
        · rw [outputs] at only
          cases only
          right
          rw [isReduction, Op.defaultValue, known]
          exact ⟨rfl, desc, value, outputs, known, valueDesc, single⟩
      · left
        rw [defaultValue_of_not_reduction fun op isOp => isReduction ⟨op, isOp⟩]
        rfl
    · rw [if_pos empty]
      exact .inl rfl
  · exact .inl rfl

/-- A node that reduces nothing has a value over no elements and a first input without any. -/
theorem reducesNothing_eq_true {id : NodeId} (reduces : graph.reducesNothing id = .ok true)
    {node : Node} (found : graph.nodes[id]? = some node)
    : ∃ data others dataDesc desc rest value,
        node.inputs = data :: others
        ∧ graph.outputDesc data = .ok dataDesc
        ∧ dataDesc.shape.count = 0
        ∧ node.outputs = desc :: rest
        ∧ node.op.defaultValue desc = .ok (some value) := by
  unfold reducesNothing Graph.node at reduces
  simp only [found, orFailure, Except.mapError, bind, Except.bind] at reduces
  split at reduces
  next data others desc rest inputs outputs =>
    cases described : graph.outputDesc data with
    | error cause => simp [described] at reduces
    | ok dataDesc =>
        simp only [described] at reduces
        split at reduces
        · cases reduces
        next empty =>
          obtain ⟨value, known, some⟩ := map_eq_ok_iff.mp reduces
          obtain ⟨value, rfl⟩ := Option.isSome_iff_exists.mp some
          exact ⟨data, others, dataDesc, desc, rest, value, inputs, described, not_not.mp empty,
            outputs, orFault_eq_ok_iff.mp known⟩
  · cases reduces

/-- Whether a node reduces nothing depends on its operation, its outputs, and on what describes its
inputs.
-/
theorem WellFormed.reducesNothing_congr {changed : Graph} (before : graph.WellFormed)
    {id : NodeId} {node other : Node} (found : graph.nodes[id]? = some node)
    (kept : changed.nodes[id]? = some other) (op : other.op = node.op)
    (outputs : other.outputs = node.outputs)
    (described
      : List.Forall₂
          (fun old new =>
            ∀ desc, graph.outputDesc old = .ok desc → changed.outputDesc new = .ok desc)
          node.inputs other.inputs)
    : changed.reducesNothing id = graph.reducesNothing id := by
  have edges := before.edges found
  unfold reducesNothing Graph.node
  simp only [found, kept, op, outputs, orFailure, Except.mapError, bind, Except.bind]
  generalize node.inputs = references at described edges
  generalize other.inputs = others at described
  cases described with
  | nil => rfl
  | @cons data new rest others first later =>
      obtain ⟨desc, owned⟩ := hasOutput_iff_outputDesc.mp (edges data List.mem_cons_self)
      cases node.outputs with
      | nil => rfl
      | cons => simp only [owned, first desc owned]

/-- A node that denotes tensors and is found to reduce nothing is replaced by its default value,
which preserves what the nodes denote.
-/
theorem WellFormed.replaceByDefault (before : graph.WellFormed) (typed : graph.Typed)
    {id : NodeId} {node : Node} (found : graph.nodes[id]? = some node) {desc : TensorDesc}
    {value : Tensor} (outputs : node.outputs = [desc])
    (neutral : node.op.defaultValue desc = .ok (some value))
    (described : value.desc? = some desc)
    (denoted : before.denote bindings id = .ok [value])
    : ∃ extended replacement relinked count,
        graph.addDefault id = .ok (extended, replacement)
        ∧ extended.replaceUses (.first id) (.first replacement) = .ok (relinked, count)
        ∧ relinked.Typed
        ∧ ∃ after : relinked.WellFormed, Preserves before after bindings := by
  have owned : graph.outputDesc (.first id) = .ok desc :=
    outputDesc_eq_ok_iff.mpr ⟨node, found, by rw [outputs]; rfl⟩
  have tensor : (before.denote bindings).tensor (.first id) = .ok value :=
    Meaning.tensor_eq_ok_iff.mpr ⟨[value], denoted, rfl⟩
  obtain ⟨extended, relinked, count, constant, replaced, -, after, preserves⟩ :=
    before.replaceByConstant described owned tensor
  have added : graph.addDefault id = .ok (extended, graph.nodes.length) := by
    simp only [addDefault, Graph.node, found, orFailure, Except.mapError, bind, Except.bind,
      outputs, neutral, constant]
  have computed : extended.constantValue? (.first id) = none := by
    obtain ⟨-, _, _, _, _, -, -, extension⟩ := extends_of_add constant
    exact (extension.computed (computed_of_addDefault added)).constantValue? 0
  have extendedTyped : extended.Typed := TypedBy.add stillSeen_lasting typed constant
  have relinkedTyped : relinked.Typed :=
    TypedBy.replaceUses stillSeen_lasting extendedTyped computed replaced
  exact ⟨extended, _, relinked, count, added, replaced, relinkedTyped, after, preserves⟩

/-- Replacing reductions of empty data among nodes that denote tensors succeeds and preserves what
the nodes denote. By induction on the nodes.
-/
theorem WellFormed.eliminateNodes_spec (before : graph.WellFormed) (typed : graph.Typed)
    {order : List NodeId}
    (denotes
      : ∀ id ∈ order,
          id < graph.nodes.length
          ∧ ∃ tensors, before.denote bindings id = .ok tensors)
    (count : Nat)
    : (∃ total, (graph.eliminateNodes count order).outcome = .ok total)
      ∧ ∃ after : (graph.eliminateNodes count order).graph.WellFormed,
          Preserves before after bindings := by
  induction order generalizing graph count with
  | nil => exact ⟨⟨count, rfl⟩, before, .refl before⟩
  | cons id rest ih =>
      obtain ⟨inside, tensors, denoted⟩ := denotes id List.mem_cons_self
      have found := List.getElem?_eq_getElem inside
      rcases before.reducesNothing_cases typed found denoted with
        keep | ⟨reduces, desc, value, outputs, neutral, described, rfl⟩
      · have skip : graph.eliminateNodes count (id :: rest) = graph.eliminateNodes count rest := by
          rw [eliminateNodes, keep]
        rw [skip]
        exact ih before typed (fun other member => denotes other (List.mem_cons_of_mem _ member))
          count
      · obtain ⟨extended, replacement, relinked, uses, added, replaced, relinkedTyped, between,
          preserves⟩ :=
          before.replaceByDefault typed found outputs neutral described denoted
        have step
            : graph.eliminateNodes count (id :: rest)
              = relinked.eliminateNodes (count + 1) rest := by
          rw [eliminateNodes, reduces]
          simp only [added, replaced]
        have later (other : NodeId) (member : other ∈ rest)
            : other < relinked.nodes.length
              ∧ ∃ tensors, between.denote bindings other = .ok tensors := by
          obtain ⟨old, outputs, known⟩ := denotes other (List.mem_cons_of_mem _ member)
          exact ⟨preserves.inside old, outputs, (preserves.denotes other old).trans known⟩
        obtain ⟨success, after, laterPreserves⟩ := ih between relinkedTyped later (count + 1)
        rw [step]
        exact ⟨success, after, preserves.trans laterPreserves⟩

/-- Where an execution succeeds, replacing reductions of empty data succeeds too and the execution
gives the same tensors afterwards. No command that built the graph has redirected the uses of a
constant.
-/
theorem ReachableBy.execute_eliminateEmpty (reachable : ReachableBy sparesConstants graph)
    {results : List Tensor} (success : (graph.execute [] bindings).outcome = .ok results)
    : (∃ count, graph.eliminateEmpty.outcome = .ok count)
      ∧ (graph.eliminateEmpty.graph.execute [] bindings).outcome = .ok results := by
  have before := reachable.wellFormed sparesConstants_lenient
  obtain ⟨binds, picked⟩ := before.execute_eq_ok_iff.mp success
  have denotes (id : NodeId) (member : id ∈ graph.topologicalOrder)
      : id < graph.nodes.length ∧ ∃ tensors, before.denote bindings id = .ok tensors := by
    have needed := before.mem_topologicalOrder_iff.mp member
    exact ⟨before.inside_of_needed needed, before.results_eq_ok_iff.mp ⟨results, picked⟩ id needed⟩
  have old (binding : NodeId × Tensor) (member : binding ∈ bindings)
      : binding.1 < graph.nodes.length := by
    obtain ⟨node, _, found, -⟩ := binds binding member
    exact (List.getElem?_eq_some_iff.mp found).1
  obtain ⟨succeeds, after, preserves⟩ := before.eliminateNodes_spec reachable.typed denotes 0
  refine ⟨succeeds, ?_⟩
  have same := preserves.execute_eq old
  rw [eliminateEmpty, same]
  exact success

/-- Two columns without rows. -/
def noRows : Tensor :=
  ⟨⟨.i32, []⟩, some ⟨[0, 2]⟩, rfl⟩

def twoZeros : Tensor :=
  ⟨⟨.i32, [0, 0]⟩, some ⟨[2]⟩, rfl⟩

/-- The sums of the columns of a parameter without rows. -/
def emptySum : Graph :=
  empty.performAll
    [
      .parameter ⟨.i32, ⟨[0, 2]⟩⟩,
      .constant (axisList 0),
      .add (.reduction ⟨.sum, false, .empty⟩) [⟨0, 0⟩, ⟨1, 0⟩],
      .addResult ⟨2, 0⟩
    ]

theorem emptySum_execute_eliminateEmpty
    : ReachableBy sparesConstants emptySum
      ∧ (emptySum.execute [] [(0, noRows)]).outcome = .ok [twoZeros]
      ∧ (∃ count, emptySum.eliminateEmpty.outcome = .ok count)
      ∧ (emptySum.eliminateEmpty.graph.execute [] [(0, noRows)]).outcome = .ok [twoZeros] := by
  have reachable : ReachableBy sparesConstants emptySum :=
    .of_commands (by simp)
  have success : (emptySum.execute [] [(0, noRows)]).outcome = .ok [twoZeros] := by
    have order : emptySum.topologicalOrder = [0, 1, 2] :=
      calc emptySum.topologicalOrder
        _ = emptySum.visit [] [.enter 2] := rfl
        _ = emptySum.visit [2] [.enter 0, .enter 1, .leave 2] := by
            rw [visit_some List.not_mem_nil rfl]
            rfl
        _ = 0 :: emptySum.visit [0, 2] [.enter 1, .leave 2] := visit_source (by decide) rfl rfl _
        _ = [0, 1, 2] := by
            rw [visit_source (by decide) rfl rfl, visit_leave, visit]
    rw [execute, order]
    rfl
  exact ⟨reachable, success, ReachableBy.execute_eliminateEmpty reachable success⟩

end Graph
end TensorGraph
