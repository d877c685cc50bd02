import TensorGraph.Proofs.Graph.ConstantFolding
import TensorGraph.Proofs.Graph.Declining

/-! What an operation does to its output tensors.

An operation handles its tensors, declines them or runs out of memory, whatever it is given. If it
declines, it has written nothing. A reduction handles all tensors that pass its checks: once they
do, the shape and the element type that every tensor carries leave nothing for the kernel to refuse.
-/

namespace TensorGraph

namespace ReductionOp

variable {op : ReductionOp} {outputs inputs : List Tensor} {argument : Tensor} {shape : Shape}

-----------------------------------------------------------------------------------------
-- What a reduction takes
-----------------------------------------------------------------------------------------

/-- The first input and the first output pass the checks of a reduction: the input has a registered
element type, and the output has the same one, and the recorded axes lie below the rank of the
input.
-/
structure Takes (op : ReductionOp) (outputs inputs : List Tensor) (argument : Tensor)
    (shape : Shape)
    : Prop where
  input : inputs.head? = some argument
  output : outputs.head?.map Tensor.dtype = some argument.dtype
  listed : argument.dtype ∈ registered op.kind
  shaped : argument.shape = some shape
  below : ∀ axis ∈ op.axes, axis < shape.rank

/-- A machine word can hold the byte size of the result. -/
def ResultFits (op : ReductionOp) (argument : Tensor) (shape : Shape) : Prop :=
  Buffer.fits argument.dtype (shape.reduce op.axes op.keepDims).count

/-- The result has the element type of the argument and the reduced shape. Its elements are what the
kernel makes of the argument in any buffer of the right length.
-/
structure Reduces (op : ReductionOp) (argument : Tensor) (shape : Shape) (result : Tensor)
    : Prop where
  shaped : result.shape = some (shape.reduce op.axes op.keepDims)
  elements
    : ∃ kernel values reduced,
        op.kind.kernel? argument.dtype = some kernel
        ∧ argument.buffer = ⟨argument.dtype, values⟩
        ∧ result.buffer = ⟨argument.dtype, reduced⟩
        ∧ ∀ room,
            List.length room = (shape.reduce op.axes op.keepDims).count
            → kernel values room shape op.axes op.keepDims = .ok reduced

theorem supported_kernels (kind : Reduction.Kind) : (kernels kind).supported = registered kind := by
  cases kind <;> rfl

theorem lookup_of_registered {kind : Reduction.Kind} {dtype : DType}
    (isRegistered : dtype ∈ registered kind)
    : ∃ kernel,
        kind.kernel? dtype = some kernel
        ∧ (kernels kind).lookup dtype = some (onTensors dtype kernel) := by
  have supported : (kernels kind).supports dtype := by
    rw [KernelTable.supports_iff, supported_kernels]
    exact isRegistered
  obtain ⟨run, found⟩ := Option.isSome_iff_exists.mp supported
  obtain ⟨-, kernel, known, rfl⟩ := lookup_kernels found
  exact ⟨kernel, known, found⟩

-----------------------------------------------------------------------------------------
-- Kernels on tensors
-----------------------------------------------------------------------------------------

section Kernels

variable {out : Tensor} {axes : AxisSet}

/-- Nothing but the element types, a missing shape and the axes make a kernel refuse its tensors. -/
theorem onTensors_of_refused (kernel : Reduction.Kernel argument.dtype.Element) (keepDims : Bool)
    (refused
      : out.dtype = argument.dtype
        → ∀ shape, argument.shape = some shape → ¬ ∀ axis ∈ axes, axis < shape.rank)
    : ∃ cause,
        onTensors argument.dtype kernel argument out axes keepDims = .error (.error cause) := by
  unfold onTensors
  split
  · exact ⟨_, rfl⟩
  next same =>
    cases shaped : argument.staticShape with
    | error cause => exact ⟨cause, rfl⟩
    | ok shape =>
        cases checked : Reduction.checkAxes shape axes with
        | error cause =>
            refine ⟨cause, ?_⟩
            simp only [checked, orFailure, Except.mapError, bind, Except.bind]
        | ok _ =>
            exact absurd (Reduction.checkAxes_iff_below.mp checked)
              (refused (not_not.mp same) shape (Tensor.staticShape_eq_ok shaped))

/-- A kernel that completes gives a result for a moderate tensor, unless the result is too large for
memory.
-/
theorem onTensors_of_shape {kernel : Reduction.Kernel argument.dtype.Element}
    (completes : Reduction.Completes kernel) (keepDims : Bool)
    (same : out.dtype = argument.dtype) (shaped : argument.shape = some shape)
    (below : ∀ axis ∈ axes, axis < shape.rank) (moderate : argument.Moderate)
    : (Buffer.fits argument.dtype (shape.reduce axes keepDims).count
        → ∃ result, onTensors argument.dtype kernel argument out axes keepDims = .ok result)
      ∧ (¬ Buffer.fits argument.dtype (shape.reduce axes keepDims).count
        → onTensors argument.dtype kernel argument out axes keepDims
          = .error (.fault .capacityOverflow)) := by
  cases done : onTensors argument.dtype kernel argument out axes keepDims with
  | ok result =>
      obtain ⟨_, _, _, known, -, -, fits, -⟩ := onTensors_eq_ok done
      cases shaped.symm.trans known
      exact ⟨fun _ => ⟨result, rfl⟩, fun beyond => absurd fits beyond⟩
  | error failure =>
      cases failure with
      | error cause =>
          exact absurd done (onTensors_ne_error completes shaped below same moderate cause)
      | fault stop =>
          obtain ⟨rfl, _, known, beyond⟩ := onTensors_eq_fault completes moderate done
          cases shaped.symm.trans known
          exact ⟨fun fits => absurd fits beyond, fun _ => rfl⟩

end Kernels

/-- What a registered kernel makes of its tensors does not depend on the buffer it writes to. -/
theorem reduces_of_onTensors {kernel : Reduction.Kernel argument.dtype.Element}
    {out result : Tensor} (known : op.kind.kernel? argument.dtype = some kernel)
    (shaped : argument.shape = some shape)
    (done : onTensors argument.dtype kernel argument out op.axes op.keepDims = .ok result)
    : op.Reduces argument shape result := by
  obtain ⟨_, values, reduced, shapeKnown, stored, -, -, computed, buffer, resultShape⟩ :=
    onTensors_eq_ok done
  cases shaped.symm.trans shapeKnown
  refine ⟨resultShape, kernel, values, reduced, known, stored, buffer, ?_⟩
  intro room length
  rw [← computed]
  exact Reduction.Kind.overwrites known values shape op.axes op.keepDims
    (length.trans List.length_replicate.symm)

-----------------------------------------------------------------------------------------
-- Reductions
-----------------------------------------------------------------------------------------

/-- A reduction that takes its tensors replaces the first output by the reduced argument, unless the
result is too large for memory.
-/
theorem Takes.evaluate (takes : op.Takes outputs inputs argument shape)
    (moderate : ∀ input ∈ inputs, input.Moderate)
    : (op.ResultFits argument shape
        → ∃ result,
            op.Reduces argument shape result
            ∧ op.evaluate outputs inputs = .ok ⟨true, result :: outputs.tail⟩)
      ∧ (¬ op.ResultFits argument shape
        → op.evaluate outputs inputs = .error .capacityOverflow) := by
  obtain ⟨input, output, listed, shaped, below⟩ := takes
  obtain ⟨others, rfl⟩ := List.head?_eq_some_iff.mp input
  obtain ⟨out, first, same⟩ := Option.map_eq_some_iff.mp output
  obtain ⟨rest, rfl⟩ := List.head?_eq_some_iff.mp first
  obtain ⟨kernel, known, found⟩ := lookup_of_registered listed
  obtain ⟨completed, overflowed⟩ := onTensors_of_shape (Reduction.Kind.completes known)
    op.keepDims same shaped below (moderate argument List.mem_cons_self)
  constructor
  · intro fits
    obtain ⟨result, done⟩ := completed fits
    refine ⟨result, reduces_of_onTensors known shaped done, ?_⟩
    simp only [evaluate, found, done, List.tail_cons]
  · intro beyond
    simp only [evaluate, found, overflowed beyond]

/-- A reduction declines all tensors that it does not take. -/
theorem evaluate_of_untaken
    (untaken : ∀ argument shape, ¬ op.Takes outputs inputs argument shape)
    : op.evaluate outputs inputs = .ok (.declined outputs) := by
  unfold evaluate
  split
  next argument others out rest =>
    split
    · rfl
    next run found =>
      obtain ⟨listed, kernel, known, rfl⟩ := lookup_kernels found
      obtain ⟨cause, refused⟩ := onTensors_of_refused kernel op.keepDims
        fun same shape shaped below =>
          untaken argument shape ⟨rfl, congrArg some same, listed, shaped, below⟩
      rw [refused]
  · rfl

theorem evaluate_eq_true_iff (moderate : ∀ input ∈ inputs, input.Moderate)
    : (∃ results, op.evaluate outputs inputs = .ok ⟨true, results⟩)
      ↔ ∃ argument shape,
          op.Takes outputs inputs argument shape ∧ op.ResultFits argument shape := by
  constructor
  · rintro ⟨results, evaluated⟩
    by_contra none
    push Not at none
    by_cases taken : ∃ argument shape, op.Takes outputs inputs argument shape
    · obtain ⟨argument, shape, takes⟩ := taken
      rw [(takes.evaluate moderate).2 (none argument shape takes)] at evaluated
      cases evaluated
    · push Not at taken
      rw [evaluate_of_untaken taken] at evaluated
      cases evaluated
  · rintro ⟨argument, shape, takes, fits⟩
    obtain ⟨result, -, evaluated⟩ := (takes.evaluate moderate).1 fits
    exact ⟨_, evaluated⟩

theorem evaluate_eq_false_iff (moderate : ∀ input ∈ inputs, input.Moderate)
    : (∃ results, op.evaluate outputs inputs = .ok ⟨false, results⟩)
      ↔ ∀ argument shape, ¬ op.Takes outputs inputs argument shape := by
  constructor
  · rintro ⟨results, declined⟩ argument shape takes
    by_cases fits : op.ResultFits argument shape
    · obtain ⟨result, -, evaluated⟩ := (takes.evaluate moderate).1 fits
      rw [evaluated] at declined
      cases declined
    · rw [(takes.evaluate moderate).2 fits] at declined
      cases declined
  · exact fun untaken => ⟨outputs, evaluate_of_untaken untaken⟩

theorem outputs_of_declined {results : List Tensor}
    (declined : op.evaluate outputs inputs = .ok ⟨false, results⟩)
    : results = outputs := by
  unfold evaluate at declined
  split at declined
  · split at declined
    · cases declined
      rfl
    · split at declined
      · cases declined
      · cases declined
        rfl
      · cases declined
  · cases declined
    rfl

end ReductionOp

theorem SelectionOp.outputs_of_declined {op : SelectionOp} {outputs inputs results : List Tensor}
    (declined : op.evaluate outputs inputs = .ok ⟨false, results⟩)
    : results = outputs := by
  unfold evaluate at declined
  split at declined
  · split at declined
    · cases declined
      rfl
    · split at declined
      · cases declined
      · cases declined
        rfl
      · cases declined
  · cases declined
    rfl

/-- An operation that declines its tensors leaves the outputs as they were. -/
theorem Op.outputs_of_declined {op : Op} {outputs inputs results : List Tensor}
    (declined : op.evaluate outputs inputs = .ok ⟨false, results⟩)
    : results = outputs := by
  cases op with
  | parameter desc =>
      cases declined
      rfl
  | constant value =>
      simp only [evaluate] at declined
      split at declined
      · split at declined
        · cases declined
        · cases declined
          rfl
      · cases declined
        rfl
  | reduction op => exact op.outputs_of_declined declined
  | selection op => exact SelectionOp.outputs_of_declined declined

/-- If an operation declines its tensors, it leaves the outputs as they were, and nothing but the
size of a result stops it. A reduction gives a result if and only if it takes its tensors and the
result fits into memory: it replaces the first output by the reduced argument. It declines if and
only if it does not take its tensors. Machine words count what the extents of the inputs ask for.
-/
theorem Op.evaluate_contract (op : Op) (outputs inputs : List Tensor)
    (stored : ∀ input ∈ inputs, Buffer.fits input.dtype input.length)
    (counted : ∀ input ∈ inputs, input.Counted)
    : (∀ results, op.evaluate outputs inputs = .ok ⟨false, results⟩ → results = outputs)
      ∧ (∀ fault, op.evaluate outputs inputs = .error fault → fault = .capacityOverflow)
      ∧ ∀ reduction,
          op = .reduction reduction
          → ((∃ results, op.evaluate outputs inputs = .ok ⟨true, results⟩)
              ↔ ∃ argument shape,
                  reduction.Takes outputs inputs argument shape
                  ∧ reduction.ResultFits argument shape)
            ∧ ((∃ results, op.evaluate outputs inputs = .ok ⟨false, results⟩)
              ↔ ∀ argument shape, ¬ reduction.Takes outputs inputs argument shape)
            ∧ ∀ {argument shape},
                reduction.Takes outputs inputs argument shape
                → reduction.ResultFits argument shape
                → ∃ result,
                    reduction.Reduces argument shape result
                    ∧ op.evaluate outputs inputs = .ok ⟨true, result :: outputs.tail⟩ := by
  have moderate (input : Tensor) (member : input ∈ inputs) : input.Moderate :=
    ⟨.inl (stored input member), counted input member⟩
  refine ⟨fun _ => outputs_of_declined, fun _ => evaluate_eq_fault moderate, ?_⟩
  rintro reduction rfl
  exact ⟨ReductionOp.evaluate_eq_true_iff moderate, ReductionOp.evaluate_eq_false_iff moderate,
    fun takes => (takes.evaluate moderate).1⟩

/-- The sum over one axis, recorded without inference. -/
def sumOver (axis : Nat) : ReductionOp :=
  ⟨.sum, false, .ofList [axis]⟩

/-- The sum of a list over its axis is written to the first of two outputs. Over an axis that the
list does not have, nothing is written.
-/
theorem sumOver_evaluate_contract
    : (∀ input ∈ [Graph.oneTwoThree], Buffer.fits input.dtype input.length)
      ∧ (∀ input ∈ [Graph.oneTwoThree], input.Counted)
      ∧ (∃ result,
          (sumOver 0).Reduces Graph.oneTwoThree ⟨[3]⟩ result
          ∧ Op.evaluate (.reduction (sumOver 0)) [.unshaped .i32, Graph.axisList 0]
              [Graph.oneTwoThree]
            = .ok ⟨true, [result, Graph.axisList 0]⟩)
      ∧ ∃ results,
          Op.evaluate (.reduction (sumOver 1)) [.unshaped .i32, Graph.axisList 0]
              [Graph.oneTwoThree]
            = .ok ⟨false, results⟩
          ∧ results = [.unshaped .i32, Graph.axisList 0] := by
  have stored : ∀ input ∈ [Graph.oneTwoThree], Buffer.fits input.dtype input.length := by decide
  have counted : ∀ input ∈ [Graph.oneTwoThree], input.Counted := by decide
  have takes
      : (sumOver 0).Takes [.unshaped .i32, Graph.axisList 0] [Graph.oneTwoThree]
          Graph.oneTwoThree ⟨[3]⟩ :=
    ⟨rfl, rfl, by decide, rfl, by decide⟩
  have fits : (sumOver 0).ResultFits Graph.oneTwoThree ⟨[3]⟩ := by
    unfold ReductionOp.ResultFits
    decide
  have untaken (argument : Tensor) (shape : Shape)
      : ¬ (sumOver 1).Takes [.unshaped .i32, Graph.axisList 0] [Graph.oneTwoThree] argument
          shape := by
    intro takes
    cases takes.input
    cases takes.shaped
    exact absurd (takes.below 1 (by decide)) (by decide)
  obtain ⟨-, -, first⟩ :=
    Op.evaluate_contract (.reduction (sumOver 0)) [.unshaped .i32, Graph.axisList 0]
      [Graph.oneTwoThree] stored counted
  obtain ⟨unchanged, -, second⟩ :=
    Op.evaluate_contract (.reduction (sumOver 1)) [.unshaped .i32, Graph.axisList 0]
      [Graph.oneTwoThree] stored counted
  obtain ⟨results, declined⟩ := (second _ rfl).2.1.mpr untaken
  exact ⟨stored, counted, (first _ rfl).2.2 takes fits, results, declined,
    unchanged results declined⟩

/-- Without the condition on the extents a reduction that takes its tensors, with a result that fits
into memory, can stop: the result has fewer slots than its extents ask for.
-/
theorem exists_takes_fault
    : ∃ (op : ReductionOp) (outputs inputs : List Tensor) (argument : Tensor) (shape : Shape),
        (∀ input ∈ inputs, Buffer.fits input.dtype input.length)
        ∧ op.Takes outputs inputs argument shape
        ∧ op.ResultFits argument shape
        ∧ Op.evaluate (.reduction op) outputs inputs = .error .indexOutOfRange := by
  refine ⟨sumOver 0, [.unshaped .i32], [Graph.wrappedPairs], Graph.wrappedPairs,
    ⟨[2, twoPow 63 + 1, 2]⟩, by decide, ⟨rfl, rfl, by decide, rfl, by decide⟩, ?_, rfl⟩
  unfold ReductionOp.ResultFits
  decide

end TensorGraph
