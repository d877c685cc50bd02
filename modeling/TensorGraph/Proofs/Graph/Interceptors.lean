import Mathlib.Data.List.Induction
import TensorGraph.Proofs.Graph.Evaluation
import TensorGraph.Proofs.Graph.Execution

/-! What becomes of one node that is offered to interceptors.

The node is offered to the interceptors in order, up to the first one that claims it. Its own
operation evaluates it exactly if all of them leave it. What they wrote until then is lost: an
operation sees no more of its outputs than their element types.

An execution evaluates a node once, and so it asks an interceptor for a node at most once. What an
interceptor that keeps a state of its own does in one execution is thus a function of what it is
asked for, too.
-/

namespace TensorGraph

-----------------------------------------------------------------------------------------
-- Operations and the outputs that they are given
-----------------------------------------------------------------------------------------

/-- The outputs that an evaluation filled in, if it did. -/
def Evaluation.filled? (evaluation : Evaluation) : Option (List Tensor) :=
  if evaluation.handled then some evaluation.outputs else none

/-- A kernel sees the element type of the output tensor only. -/
theorem ReductionOp.onTensors_congr {dtype : DType} {kernel : Reduction.Kernel dtype.Element}
    {argument out other : Tensor} (same : out.dtype = other.dtype) (axes : AxisSet)
    (keepDims : Bool)
    : onTensors dtype kernel argument out axes keepDims
      = onTensors dtype kernel argument other axes keepDims := by
  simp only [onTensors, same]

theorem ReductionOp.evaluate_congr (op : ReductionOp) {out other : Tensor}
    (same : out.dtype = other.dtype) (inputs : List Tensor)
    : (op.evaluate [out] inputs).map Evaluation.filled?
      = (op.evaluate [other] inputs).map Evaluation.filled? := by
  cases inputs with
  | nil => rfl
  | cons argument others =>
      simp only [evaluate]
      cases found : (kernels op.kind).lookup argument.dtype with
      | none => rfl
      | some run =>
          obtain ⟨-, kernel, -, rfl⟩ := lookup_kernels found
          simp only [onTensors_congr same]
          cases onTensors argument.dtype kernel argument other op.axes op.keepDims with
          | ok reduced => rfl
          | error failure => cases failure <;> rfl

theorem SelectionOp.evaluate_congr (op : SelectionOp) {outputs others : List Tensor}
    (count : outputs.length = 3) (otherCount : others.length = 3) (inputs : List Tensor)
    : (op.evaluate outputs inputs).map Evaluation.filled?
      = (op.evaluate others inputs).map Evaluation.filled? := by
  obtain ⟨first, second, third, rfl⟩ := List.length_eq_three.mp count
  obtain ⟨otherFirst, otherSecond, otherThird, rfl⟩ := List.length_eq_three.mp otherCount
  rcases inputs with _ | ⟨boxes, _ | ⟨scores, rest⟩⟩
  · rfl
  · rfl
  · simp only [evaluate]
    cases kernels.lookup boxes.dtype with
    | none => rfl
    | some widen =>
        dsimp only
        cases op.run widen boxes scores (boxes :: scores :: rest) with
        | ok results => rfl
        | error failure => cases failure <;> rfl

/-- What the operation of a node computes depends on the element types of its outputs only, by cases
on the operation. The outputs of a settled node are all replaced.
-/
theorem Node.Settled.evaluate_congr {node : Node} (settled : node.Settled)
    {outputs others : List Tensor} (count : outputs.length = node.outputs.length)
    (types : outputs.map Tensor.dtype = others.map Tensor.dtype) (inputs : List Tensor)
    : (node.op.evaluate outputs inputs).map Evaluation.filled?
      = (node.op.evaluate others inputs).map Evaluation.filled? := by
  have otherCount : others.length = node.outputs.length := by
    rw [← count]
    simpa using (congrArg List.length types).symm
  unfold Node.Settled at settled
  cases operation : node.op with
  | parameter desc => rfl
  | constant value =>
      rw [operation] at settled
      obtain ⟨-, desc, -, described⟩ := settled
      rw [described] at count otherCount
      obtain ⟨out, rfl⟩ := List.length_eq_one_iff.mp count
      obtain ⟨other, rfl⟩ := List.length_eq_one_iff.mp otherCount
      have same : out.dtype = other.dtype := by simpa using types
      simp only [Op.evaluate, same]
      split <;> rfl
  | reduction op =>
      rw [operation] at settled
      rw [settled.2] at count otherCount
      obtain ⟨out, rfl⟩ := List.length_eq_one_iff.mp count
      obtain ⟨other, rfl⟩ := List.length_eq_one_iff.mp otherCount
      exact op.evaluate_congr (by simpa using types) inputs
  | selection op =>
      rw [operation] at settled
      rw [settled.2] at count otherCount
      exact op.evaluate_congr count otherCount inputs

-----------------------------------------------------------------------------------------
-- The interceptors that a node is offered to
-----------------------------------------------------------------------------------------

namespace Interceptor

/-- The interceptor writes to the outputs in place: it adds none and removes none. -/
def InPlace (interceptor : Interceptor) : Prop :=
  ∀ (node : Node) (outputs inputs : List Tensor) (interception : Interception),
    outputs.length = node.outputs.length
    → interceptor.tryEvaluate node outputs inputs = .ok interception
    → interception.outputs.length = outputs.length

/-- Interceptors that are asked in order all leave a node. Each sees what the ones before it wrote
to the outputs.
-/
inductive AllLeave (node : Node) (inputs : List Tensor)
    : List Interceptor → (before after : List Tensor) → Prop
  | nil {outputs : List Tensor} : AllLeave node inputs [] outputs outputs
  | cons {interceptor : Interceptor} {rest : List Interceptor}
    {before written after : List Tensor}
    (leaves : interceptor.tryEvaluate node before inputs = .ok ⟨written, none⟩)
    (later : AllLeave node inputs rest written after)
    : AllLeave node inputs (interceptor :: rest) before after

/-- After the interceptors `left` have left a node, `claimer` does not: it claims the node or it
stops.
-/
structure FirstClaim (node : Node) (inputs : List Tensor) (interceptors : List Interceptor)
    (outputs : List Tensor) (left : List Interceptor) (claimer : Interceptor)
    (answer : Except Fault Interception)
    : Prop where
  registered : ∃ rest, interceptors = left ++ claimer :: rest
  reached
    : ∃ seen,
        AllLeave node inputs left outputs seen
        ∧ claimer.tryEvaluate node seen inputs = answer
  claims : ∀ written, answer ≠ .ok ⟨written, none⟩

/-- The record that a node was offered to an interceptor. -/
def offered (node : Node) (inputs : List Tensor) (interceptor : Interceptor) : Offer :=
  ⟨interceptor.name, node.id, inputs.length⟩

variable {node : Node} {inputs outputs : List Tensor} {interceptors : List Interceptor}

/-- Either all interceptors are asked and leave the node, or they are asked up to the first that
does not. By induction on the interceptors.
-/
theorem offer_cases (node : Node) (inputs outputs : List Tensor)
    (interceptors : List Interceptor)
    : (∃ seen,
        AllLeave node inputs interceptors outputs seen
        ∧ offer node inputs interceptors outputs
          = (interceptors.map (offered node inputs), .ok ⟨seen, none⟩))
      ∨ ∃ left claimer answer,
          FirstClaim node inputs interceptors outputs left claimer answer
          ∧ offer node inputs interceptors outputs
            = ((left ++ [claimer]).map (offered node inputs), answer) := by
  induction interceptors generalizing outputs with
  | nil => exact .inl ⟨outputs, .nil, rfl⟩
  | cons interceptor rest ih =>
      rw [offer]
      cases answered : interceptor.tryEvaluate node outputs inputs with
      | error fault =>
          refine .inr ⟨[], interceptor, _, ⟨⟨rest, rfl⟩, ⟨outputs, .nil, answered⟩, ?_⟩, rfl⟩
          simp
      | ok interception =>
          obtain ⟨written, claim⟩ := interception
          cases claim with
          | some handled =>
              refine .inr ⟨[], interceptor, _, ⟨⟨rest, rfl⟩, ⟨outputs, .nil, answered⟩, ?_⟩, rfl⟩
              simp
          | none =>
              rcases ih written with ⟨seen, all, offers⟩ | ⟨left, claimer, answer, first, offers⟩
              · exact .inl ⟨seen, .cons answered all, by simp [offers, offered]⟩
              · obtain ⟨⟨others, rfl⟩, ⟨seen, leave, answers⟩, claims⟩ := first
                refine .inr ⟨interceptor :: left, claimer, answer, ⟨⟨others, rfl⟩, ?_, claims⟩, ?_⟩
                · exact ⟨seen, .cons answered leave, answers⟩
                · simp [offers, offered]

/-- An interceptor among others that all leave a node leaves it when it is reached, by induction on
those before it.
-/
theorem AllLeave.at {left rest : List Interceptor} {interceptor : Interceptor}
    {seen after : List Tensor}
    (all : AllLeave node inputs (left ++ interceptor :: rest) outputs after)
    (reached : AllLeave node inputs left outputs seen)
    : ∃ written, interceptor.tryEvaluate node seen inputs = .ok ⟨written, none⟩ := by
  induction reached with
  | nil =>
      cases all with
      | cons leaves later => exact ⟨_, leaves⟩
  | cons leaves _ ih =>
      cases all with
      | cons again later =>
          rw [leaves] at again
          cases again
          exact ih later

/-- Interceptors that all leave a node are all asked. -/
theorem AllLeave.offer {before after : List Tensor}
    (all : AllLeave node inputs interceptors before after)
    : Interceptor.offer node inputs interceptors before
      = (interceptors.map (offered node inputs), .ok ⟨after, none⟩) := by
  induction all with
  | nil => rfl
  | cons leaves _ ih => simp [Interceptor.offer, leaves, ih, offered]

theorem AllLeave.snoc {interceptor : Interceptor} {before seen written : List Tensor}
    (all : AllLeave node inputs interceptors before seen)
    (leaves : interceptor.tryEvaluate node seen inputs = .ok ⟨written, none⟩)
    : AllLeave node inputs (interceptors ++ [interceptor]) before written := by
  induction all with
  | nil => exact .cons leaves .nil
  | cons first _ ih => exact .cons first (ih leaves)

/-- Interceptors that write in place leave as many outputs as there were. -/
theorem AllLeave.length {before after : List Tensor}
    (all : AllLeave node inputs interceptors before after)
    (inPlace : ∀ interceptor ∈ interceptors, interceptor.InPlace)
    (count : before.length = node.outputs.length)
    : after.length = node.outputs.length := by
  induction all with
  | nil => exact count
  | @cons interceptor _ _ _ _ leaves _ ih =>
      have written := inPlace interceptor List.mem_cons_self _ _ _ _ count leaves
      exact ih (fun other member => inPlace other (List.mem_cons_of_mem _ member))
        (written.trans count)

/-- A claim excludes that all interceptors leave the node. -/
theorem FirstClaim.not_allLeave {left : List Interceptor} {claimer : Interceptor}
    {answer : Except Fault Interception}
    (first : FirstClaim node inputs interceptors outputs left claimer answer)
    : ¬ ∃ seen, AllLeave node inputs interceptors outputs seen := by
  rintro ⟨final, all⟩
  obtain ⟨rest, rfl⟩ := first.registered
  obtain ⟨reached, leave, answers⟩ := first.reached
  obtain ⟨written, leaves⟩ := all.at leave
  exact first.claims written (answers.symm.trans leaves)

/-- An interceptor leaves a node, and the outputs with their element types; shapes and elements may
have changed.
-/
def Spares (interceptor : Interceptor) (node : Node) (outputs inputs : List Tensor) : Prop :=
  ∃ written,
    interceptor.tryEvaluate node outputs inputs = .ok ⟨written, none⟩
    ∧ written.map Tensor.dtype = outputs.map Tensor.dtype

/-- If each interceptor spares the node when it is reached, all leave it and the element types of
the outputs stay. By induction on the interceptors from the last one.
-/
theorem allLeave_of_spares (outputs : List Tensor)
    (spared
      : ∀ left interceptor rest seen,
          interceptors = left ++ interceptor :: rest
          → AllLeave node inputs left outputs seen
          → interceptor.Spares node seen inputs)
    : ∃ seen,
        AllLeave node inputs interceptors outputs seen
        ∧ seen.map Tensor.dtype = outputs.map Tensor.dtype := by
  induction interceptors using List.reverseRecOn with
  | nil => exact ⟨outputs, .nil, rfl⟩
  | append_singleton earlier last ih =>
      obtain ⟨seen, all, types⟩ := ih fun left interceptor rest seen registered =>
        spared left interceptor (rest ++ [last]) seen (by simp [registered])
      obtain ⟨written, leaves, kept⟩ := spared earlier last [] seen rfl all
      exact ⟨written, all.snoc leaves, kept.trans types⟩

end Interceptor

-----------------------------------------------------------------------------------------
-- The evaluation of one node
-----------------------------------------------------------------------------------------

namespace Node

/-- What follows from an answer for a node: the outputs if they were filled in, else the error that
names the element type of the first input, or of the first output where there is no input.
-/
inductive Verdict (node : Node) (inputs : List Tensor)
    : (handled : Bool) → List Tensor → Except (Failure GraphError) (List Tensor) → Prop
  | filled {tensors : List Tensor} : Verdict node inputs true tensors (.ok tensors)
  | unsupported {tensors : List Tensor} {dtype : DType}
    (type : (inputs.head?.map Tensor.dtype <|> node.outputs.head?.map TensorDesc.dtype)
      = some dtype)
    : Verdict node inputs false tensors
        (.error (.error (.unsupportedType node.op.opType.render dtype)))

/-- How the evaluation of a node ends, with the interceptors that it was offered to and whether its
own operation was run. The operation is run on what the interceptors left in the outputs.
-/
inductive Handled (interceptors : List Interceptor) (node : Node) (inputs : List Tensor)
    : (asked : List Interceptor) → (own : Bool) → Except (Failure GraphError) (List Tensor)
      → Prop
  | claimed {left : List Interceptor} {claimer : Interceptor} {tensors : List Tensor}
    {handled : Bool} {outcome : Except (Failure GraphError) (List Tensor)}
    (first : Interceptor.FirstClaim node inputs interceptors (Graph.unshapedOutputs node)
      left claimer (.ok ⟨tensors, some handled⟩))
    (verdict : node.Verdict inputs handled tensors outcome)
    : Handled interceptors node inputs (left ++ [claimer]) false outcome
  | interceptorStopped {left : List Interceptor} {claimer : Interceptor} {fault : Fault}
    (first : Interceptor.FirstClaim node inputs interceptors (Graph.unshapedOutputs node)
      left claimer (.error fault))
    : Handled interceptors node inputs (left ++ [claimer]) false (.error (.fault fault))
  | evaluated {seen tensors : List Tensor} {handled : Bool}
    {outcome : Except (Failure GraphError) (List Tensor)}
    (all : Interceptor.AllLeave node inputs interceptors (Graph.unshapedOutputs node) seen)
    (evaluates : node.op.evaluate seen inputs = .ok ⟨handled, tensors⟩)
    (verdict : node.Verdict inputs handled tensors outcome)
    : Handled interceptors node inputs interceptors true outcome
  | operationStopped {seen : List Tensor} {fault : Fault}
    (all : Interceptor.AllLeave node inputs interceptors (Graph.unshapedOutputs node) seen)
    (stops : node.op.evaluate seen inputs = .error fault)
    : Handled interceptors node inputs interceptors true (.error (.fault fault))

variable {node : Node} {inputs : List Tensor} {interceptors asked : List Interceptor}
  {own : Bool} {outcome : Except (Failure GraphError) (List Tensor)}

/-- The operation of a node is run exactly if all interceptors leave the node. -/
theorem Handled.own_iff (handled : node.Handled interceptors inputs asked own outcome)
    : own = true
      ↔ ∃ seen,
          Interceptor.AllLeave node inputs interceptors (Graph.unshapedOutputs node) seen := by
  cases handled with
  | claimed first verdict => simpa using first.not_allLeave
  | interceptorStopped first => simpa using first.not_allLeave
  | evaluated all evaluates verdict => exact ⟨fun _ => ⟨_, all⟩, fun _ => rfl⟩
  | operationStopped all stops => exact ⟨fun _ => ⟨_, all⟩, fun _ => rfl⟩

theorem Settled.verdict_of (settled : node.Settled) (handled : Bool) (tensors : List Tensor)
    : node.Verdict inputs handled tensors
        (if handled then .ok tensors else .error (.error (Graph.unevaluated node inputs))) := by
  cases handled with
  | true => exact .filled
  | false =>
      obtain ⟨dtype, type, unevaluated⟩ := settled.unevaluated_eq inputs
      rw [unevaluated]
      exact .unsupported type

/-- The evaluation of a node keeps to the protocol. -/
theorem Settled.handled_of (settled : node.Settled) (interceptors : List Interceptor)
    (inputs : List Tensor)
    : ∃ asked own,
        (Graph.evaluateNode interceptors node inputs).offers
          = asked.map (Interceptor.offered node inputs)
        ∧ node.Handled interceptors inputs asked own
            (Graph.evaluateNode interceptors node inputs).outcome := by
  unfold Graph.evaluateNode
  rcases Interceptor.offer_cases node inputs (Graph.unshapedOutputs node) interceptors with
    ⟨seen, all, offers⟩ | ⟨left, claimer, answer, first, offers⟩
  · simp only [offers]
    refine ⟨interceptors, true, ?_⟩
    cases evaluated : node.op.evaluate seen inputs with
    | error fault => exact ⟨rfl, .operationStopped all evaluated⟩
    | ok evaluation =>
        exact ⟨rfl, .evaluated all evaluated (settled.verdict_of _ _)⟩
  · simp only [offers]
    refine ⟨left ++ [claimer], false, ?_⟩
    cases answer with
    | error fault => exact ⟨rfl, .interceptorStopped first⟩
    | ok interception =>
        obtain ⟨tensors, claim⟩ := interception
        cases claim with
        | none => exact absurd rfl (first.claims tensors)
        | some handled => exact ⟨rfl, .claimed first (settled.verdict_of _ _)⟩

/-- A node whose outputs are filled in has as many as inference gave it. -/
theorem Handled.length {tensors : List Tensor}
    (handled : node.Handled interceptors inputs asked own (.ok tensors))
    (inPlace : ∀ interceptor ∈ interceptors, interceptor.InPlace)
    : tensors.length = node.outputs.length := by
  have start : (Graph.unshapedOutputs node).length = node.outputs.length := List.length_map _
  cases handled with
  | claimed first verdict =>
      cases verdict
      obtain ⟨rest, rfl⟩ := first.registered
      obtain ⟨seen, leave, answers⟩ := first.reached
      have reached := leave.length
        (fun interceptor member => inPlace interceptor (List.mem_append_left _ member)) start
      have written := inPlace _ (by simp) _ _ _ _ reached answers
      exact written.trans reached
  | evaluated all evaluates verdict =>
      cases verdict
      exact (Op.length_evaluate evaluates).trans (all.length inPlace start)

end Node

end TensorGraph
