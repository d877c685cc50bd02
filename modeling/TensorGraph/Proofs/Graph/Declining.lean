import TensorGraph.Proofs.Graph.Evaluation
import TensorGraph.Proofs.Graph.Inference

/-! When an operation declines to evaluate tensors of accepted types and ranks.

A reduction declines exactly the element types that its kernels do not list. A selection declines
exactly the scalars that do not have one element.
-/

namespace TensorGraph

-----------------------------------------------------------------------------------------
-- Axes
-----------------------------------------------------------------------------------------

/-- The axes that inference records lie below the rank of the data. -/
theorem ReductionOp.resolveAxes_lt {op : ReductionOp} {constant : Option Tensor} {rank : Nat}
    {axes : AxisSet} (resolved : op.resolveAxes constant rank = .ok axes)
    : ∀ axis ∈ axes, axis < rank := by
  unfold resolveAxes at resolved
  split at resolved
  · cases resolved
  · split at resolved
    · cases resolved
    · exact AxisSet.normalize_lt (mapError_eq_ok_iff.mp resolved)

-----------------------------------------------------------------------------------------
-- Reading and building tensors
-----------------------------------------------------------------------------------------

namespace Tensor

theorem data_of_buffer {tensor : Tensor} {dtype : DType} {elements : List dtype.Element}
    (stored : tensor.buffer = ⟨dtype, elements⟩)
    : tensor.data dtype = .ok elements := by
  obtain ⟨buffer, shape, sized⟩ := tensor
  cases stored
  simp [data, Buffer.elements?]

theorem staticShape_of_shape {tensor : Tensor} {shape : Shape} (shaped : tensor.shape = some shape)
    : tensor.staticShape = .ok shape := by
  rw [staticShape, shaped]

theorem ofElements_of_length {dtype : DType} {elements : List dtype.Element} {shape : Shape}
    (sized : elements.length = shape.count)
    : ∃ tensor, ofElements dtype elements shape = .ok tensor :=
  ⟨_, dif_pos sized⟩

theorem toInt64s_of_integral {tensor : Tensor} (integral : tensor.dtype.isIntegral)
    : ∃ values, tensor.toInt64s = .ok values ∧ values.length = tensor.length := by
  obtain ⟨⟨dtype, elements⟩, shape, sized⟩ := tensor
  change dtype.isIntegral = true at integral
  cases dtype with
  | i32 => exact ⟨_, rfl, List.length_map _⟩
  | i64 => exact ⟨_, rfl, rfl⟩
  | boolean | bf16 | f16 | f32 => cases integral

theorem toSingles_of_real {tensor : Tensor} (real : tensor.dtype.isReal)
    : ∃ values, tensor.toSingles = .ok values ∧ values.length = tensor.length := by
  obtain ⟨⟨dtype, elements⟩, shape, sized⟩ := tensor
  change dtype.isReal = true at real
  cases dtype with
  | bf16 | f16 | f32 => exact ⟨_, rfl, List.length_map _⟩
  | boolean | i32 | i64 => cases real

theorem only_of_length {α : Type} {values : List α} (single : values.length = 1)
    : ∃ value, only values = .ok value := by
  obtain ⟨value, rfl⟩ := List.length_eq_one_iff.mp single
  exact ⟨value, rfl⟩

/-- A list that is read as one value has one element. -/
theorem length_of_only {α : Type} {values : List α} {value : α} (isOnly : only values = .ok value)
    : values.length = 1 := by
  unfold only at isOnly
  split at isOnly
  · rfl
  · cases isOnly

theorem single_of_scalarInt64 {tensor : Tensor} {value : Int64}
    (read : tensor.scalarInt64 = .ok value)
    : tensor.length = 1 := by
  obtain ⟨values, converted, isOnly⟩ := bind_eq_ok_iff.mp read
  have single := length_of_only isOnly
  obtain ⟨⟨dtype, elements⟩, shape, sized⟩ := tensor
  cases dtype with
  | i32 =>
      cases converted
      rwa [List.length_map] at single
  | i64 =>
      cases converted
      exact single
  | boolean | bf16 | f16 | f32 => cases converted

theorem single_of_scalarSingle {tensor : Tensor} {value : Binary32}
    (read : tensor.scalarSingle = .ok value)
    : tensor.length = 1 := by
  obtain ⟨values, converted, isOnly⟩ := bind_eq_ok_iff.mp read
  have single := length_of_only isOnly
  unfold toSingles Buffer.toSingles at converted
  split at converted
  · cases converted
    rwa [List.length_map] at single
  · cases converted

theorem scalarInt64_of_single {tensor : Tensor} (integral : tensor.dtype.isIntegral)
    (single : tensor.length = 1)
    : ∃ value, tensor.scalarInt64 = .ok value := by
  obtain ⟨values, read, length⟩ := toInt64s_of_integral integral
  obtain ⟨value, isOnly⟩ := only_of_length (length.trans single)
  exact ⟨value, bind_eq_ok_iff.mpr ⟨values, read, isOnly⟩⟩

theorem scalarSingle_of_single {tensor : Tensor} (real : tensor.dtype.isReal)
    (single : tensor.length = 1)
    : ∃ value, tensor.scalarSingle = .ok value := by
  obtain ⟨values, read, length⟩ := toSingles_of_real real
  obtain ⟨value, isOnly⟩ := only_of_length (length.trans single)
  exact ⟨value, bind_eq_ok_iff.mpr ⟨values, read, isOnly⟩⟩

end Tensor

-----------------------------------------------------------------------------------------
-- Reductions
-----------------------------------------------------------------------------------------

namespace ReductionOp

/-- A kernel never refuses a moderate tensor with a shape whose rank exceeds the axes, if the output
has the element type of the tensor.
-/
theorem onTensors_ne_error {argument out : Tensor}
    {kernel : Reduction.Kernel argument.dtype.Element} (completes : Reduction.Completes kernel)
    {axes : AxisSet} {keepDims : Bool} {shape : Shape} (shaped : argument.shape = some shape)
    (below : ∀ axis ∈ axes, axis < shape.rank) (same : out.dtype = argument.dtype)
    (moderate : argument.Moderate) (cause : TensorError)
    : onTensors argument.dtype kernel argument out axes keepDims ≠ .error (.error cause) := by
  have axesFit := Reduction.checkAxes_iff_below.mpr below
  have fits := (moderate.counted shape shaped).reduce axes keepDims
  obtain ⟨elements, stored⟩ : ∃ elements, argument.buffer = ⟨argument.dtype, elements⟩ :=
    ⟨argument.buffer.elements, rfl⟩
  have count : elements.length = argument.length := by rw [Tensor.length, stored, Buffer.length]
  rw [onTensors, if_neg (not_not.mpr same)]
  simp only [Tensor.staticShape_of_shape shaped, axesFit, Tensor.data_of_buffer stored, orFailure,
    Except.mapError, bind, Except.bind]
  cases zeros : Tensor.zeros argument.dtype (shape.reduce axes keepDims) with
  | error fault => simp [orFault, Except.mapError]
  | ok blank =>
      obtain ⟨-, blankBuffer, -⟩ := Tensor.filled_eq_ok zeros
      have fitting
          : Reduction.Fitting elements
              (List.replicate (shape.reduce axes keepDims).count argument.dtype.zeroElement)
              shape axes keepDims :=
        ⟨count.trans (moderate.counted.length_eq shaped),
          List.length_replicate.trans fits.count_eq, axesFit⟩
      obtain ⟨reduced, computed, length⟩ := completes _ _ _ _ _ fitting (count ▸ moderate.small)
      obtain ⟨result, built⟩ := Tensor.ofElements_of_length (length.trans List.length_replicate)
      simp [orFault, Except.mapError, Tensor.data_of_buffer blankBuffer, computed, built]

/-- A reduction declines a moderate tensor of sufficient rank only if no kernel is registered for
its element type.
-/
theorem unlisted_of_declined {op : ReductionOp} {argument out : Tensor}
    {others rest outputs : List Tensor}
    (declined : op.evaluate (out :: rest) (argument :: others) = .ok ⟨false, outputs⟩)
    {shape : Shape} (shaped : argument.shape = some shape)
    (below : ∀ axis ∈ op.axes, axis < shape.rank) (same : out.dtype = argument.dtype)
    (moderate : argument.Moderate)
    : (kernels op.kind).lookup argument.dtype = none := by
  simp only [evaluate] at declined
  split at declined
  next unlisted => exact unlisted
  next run found =>
    obtain ⟨-, kernel, known, rfl⟩ := lookup_kernels found
    split at declined
    · cases declined
    next cause refused =>
      exact absurd refused
        (onTensors_ne_error (Reduction.Kind.completes known) shaped below same moderate cause)
    · cases declined

theorem listed_of_evaluated {op : ReductionOp} {argument : Tensor}
    {others outputs results : List Tensor}
    (evaluated : op.evaluate outputs (argument :: others) = .ok ⟨true, results⟩)
    : (kernels op.kind).lookup argument.dtype ≠ none := by
  intro unlisted
  cases outputs <;> simp [evaluate, unlisted, Evaluation.declined] at evaluated

end ReductionOp

-----------------------------------------------------------------------------------------
-- Selections
-----------------------------------------------------------------------------------------

namespace SelectionOp

/-- The boxes and scores of a selection are as inference accepts them: they are floating-point
tensors whose shapes fit together.
-/
structure Readable (boxes scores : Tensor) : Prop where
  boxesType : boxes.dtype.isReal
  scoresType : scores.dtype.isReal
  shapes
    : ∃ batches labels count,
        boxes.shape = some ⟨[batches, count, 4]⟩
        ∧ scores.shape = some ⟨[batches, labels, count]⟩

/-- Rows of three are as many elements as the shape of the rows asks for. -/
theorem length_rows {α β : Type} (first second third : α → β) {xs : List α}
    (few : xs.length * 3 < twoPow 64)
    : (xs.flatMap fun x => [first x, second x, third x]).length
      = (Shape.mk [xs.length, 3]).count := by
  rw [Shape.count, Shape.numel, Shape.product_cons, Shape.product_cons, Shape.product_nil,
    word_of_lt few]
  simp [List.length_flatMap]

theorem pack_eq_ok_of (op : SelectionOp) {selected : List NonMaxSuppression.Selected}
    (few : selected.length * 3 < twoPow 64)
    : ∃ outputs, op.pack selected = .ok outputs := by
  have integers (values : List Int64) (shape : Shape) (sized : values.length = shape.count)
      : ∃ tensor, integers op.outputType values shape = .ok tensor := by
    unfold SelectionOp.integers
    split
    · exact Tensor.ofElements_of_length ((List.length_map _).trans sized)
    · exact Tensor.ofElements_of_length sized
  obtain ⟨indices, indicesBuilt⟩ := integers _ _ (length_rows (fun one => .ofNat one.batch)
    (fun one => .ofNat one.label) (fun one => .ofNat one.index) few)
  obtain ⟨scores, scoresBuilt⟩ := @Tensor.ofElements_of_length .f32 _ _
    (length_rows (fun one => .ofNat one.batch) (fun one => .ofNat one.label)
      (fun one => one.score) few)
  obtain ⟨valid, validBuilt⟩ := integers [.ofNat selected.length] ⟨[1]⟩ rfl
  refine ⟨(indices, scores, valid), ?_⟩
  simp only [pack, bind_eq_ok_iff]
  exact ⟨indices, indicesBuilt, scores, scoresBuilt, valid, validBuilt, rfl⟩

/-- The optional scalars of a selection have the element types that inference accepts and one
element each.
-/
structure SingleScalars (scalars : List Tensor) : Prop where
  single : ∀ scalar ∈ scalars, scalar.length = 1
  limit : ∀ scalar, scalars[0]? = some scalar → scalar.dtype.isIntegral
  reals : ∀ (index : Nat) scalar, scalars[index + 1]? = some scalar → scalar.dtype.isReal

theorem parameters_of_scalars (op : SelectionOp) (boxes scores : Tensor) {scalars : List Tensor}
    (readable : SingleScalars scalars)
    : ∃ parameters, op.parameters (boxes :: scores :: scalars) = .ok parameters := by
  have real (index : Nat)
      : ∃ value, realInput (boxes :: scores :: scalars) (index + 3) = .ok value := by
    simp only [realInput, List.getElem?_cons_succ]
    cases present : scalars[index + 1]? with
    | none => exact ⟨_, rfl⟩
    | some scalar =>
        exact Tensor.scalarSingle_of_single (readable.reals index scalar present)
          (readable.single scalar (List.mem_of_getElem? present))
  have limit : ∃ limit, limitInput (boxes :: scores :: scalars) = .ok limit := by
    simp only [limitInput, List.getElem?_cons_succ]
    cases present : scalars[0]? with
    | none => exact ⟨_, rfl⟩
    | some scalar =>
        obtain ⟨value, read⟩ := Tensor.scalarInt64_of_single (readable.limit scalar present)
          (readable.single scalar (List.mem_of_getElem? present))
        exact ⟨_, map_eq_ok_iff.mpr ⟨value, read, rfl⟩⟩
  obtain ⟨limit, limited⟩ := limit
  obtain ⟨overlap, overlapRead⟩ := real 0
  obtain ⟨score, scoreRead⟩ := real 1
  obtain ⟨sigma, sigmaRead⟩ := real 2
  refine ⟨⟨op.encoding, limit, overlap, score, sigma, op.sortDescending⟩, ?_⟩
  simp only [parameters, bind_eq_ok_iff]
  exact ⟨limit, limited, overlap, overlapRead, score, scoreRead, sigma, sigmaRead, rfl⟩

/-- A selection runs on boxes, scores and scalars that can be read, if there are so few scores that
machine words count rows of three for all of them.
-/
theorem run_of_readable (op : SelectionOp) {boxes scores : Tensor} {scalars : List Tensor}
    (readable : Readable boxes scores) (boxesCounted : boxes.Counted)
    (scoresCounted : scores.Counted) (few : scores.length * 3 < twoPow 64)
    (singles : SingleScalars scalars)
    : ∃ outputs,
        op.run Tensor.toSingles boxes scores (boxes :: scores :: scalars) = .ok outputs := by
  obtain ⟨batches, labels, count, boxShape, scoreShape⟩ := readable.shapes
  obtain ⟨parameters, known⟩ := op.parameters_of_scalars boxes scores singles
  obtain ⟨boxValues, boxesRead, boxLength⟩ := Tensor.toSingles_of_real readable.boxesType
  obtain ⟨scoreValues, scoresRead, scoreLength⟩ := Tensor.toSingles_of_real readable.scoresType
  have short : scoreValues.length < twoPow 64 := by omega
  rw [← scoreLength] at few
  rw [boxesCounted.length_eq boxShape] at boxLength
  rw [scoresCounted.length_eq scoreShape] at scoreLength
  simp only [Shape.numel, Shape.product_cons, Shape.product_nil, Nat.mul_one, ← Nat.mul_assoc]
    at boxLength scoreLength
  obtain ⟨selected, chosen⟩ :=
    NonMaxSuppression.select_of_lengths boxLength scoreLength parameters
  have most := NonMaxSuppression.length_select_le chosen short
  obtain ⟨outputs, packed⟩ := @pack_eq_ok_of op selected (by omega)
  refine ⟨outputs, ?_⟩
  simp only [run, bind_eq_ok_iff, orFailure_eq_ok_iff]
  exact ⟨parameters, known, boxValues, boxesRead, _, Tensor.staticShape_of_shape boxShape,
    scoreValues, scoresRead, _, Tensor.staticShape_of_shape scoreShape, selected, chosen, packed⟩

/-- Moderate scores are so few that machine words count rows of three for all of them. -/
theorem Readable.few_scores {boxes scores : Tensor} (readable : Readable boxes scores)
    (moderate : scores.Moderate)
    : scores.length * 3 < twoPow 64 := by
  obtain ⟨batches, labels, count, -, shaped⟩ := readable.shapes
  have numeric : scores.dtype ≠ .boolean := by
    intro truth
    have real := readable.scoresType
    rw [truth] at real
    cases real
  have bounded := moderate.length_of_rank numeric shaped (Nat.lt_succ_self 2)
  have words : twoPow 64 = 4 * twoPow 62 := rfl
  omega

/-- Boxes of every floating-point type can be read. -/
theorem lookup_of_real {dtype : DType} (real : dtype.isReal)
    : kernels.lookup dtype = some Tensor.toSingles := by
  cases dtype with
  | bf16 | f16 | f32 => rfl
  | boolean | i32 | i64 => cases real

/-- A selection of moderate boxes and scores that can be read declines only for a scalar that does
not have exactly one element.
-/
theorem scalar_of_declined {op : SelectionOp} {boxes scores first second third : Tensor}
    {scalars rest outputs : List Tensor}
    (declined
      : op.evaluate (first :: second :: third :: rest) (boxes :: scores :: scalars)
        = .ok ⟨false, outputs⟩)
    (readable : Readable boxes scores) (boxesModerate : boxes.Moderate)
    (scoresModerate : scores.Moderate)
    (limit : ∀ scalar, scalars[0]? = some scalar → scalar.dtype.isIntegral)
    (reals : ∀ (index : Nat) scalar, scalars[index + 1]? = some scalar → scalar.dtype.isReal)
    : ∃ scalar ∈ scalars, scalar.length ≠ 1 := by
  by_contra single
  push Not at single
  have few := readable.few_scores scoresModerate
  obtain ⟨⟨indices, selectedScores, valid⟩, done⟩ :=
    op.run_of_readable readable boxesModerate.counted scoresModerate.counted few
      ⟨single, limit, reals⟩
  rw [evaluate_of_run (lookup_of_real readable.boxesType) done] at declined
  cases declined

/-- The scalars of a selection that evaluates have one element each. -/
theorem single_of_evaluated {op : SelectionOp} {boxes scores : Tensor}
    {scalars outputs results : List Tensor} (few : scalars.length ≤ 4)
    (evaluated : op.evaluate outputs (boxes :: scores :: scalars) = .ok ⟨true, results⟩)
    : ∀ scalar ∈ scalars, scalar.length = 1 := by
  obtain ⟨_, _, _, widen, _, _, _, _, _, _, _, same, -, done, -⟩ := evaluate_eq_true evaluated
  cases same
  simp only [run, parameters, bind_eq_ok_iff, orFailure_eq_ok_iff] at done
  obtain ⟨_, ⟨_, limited, _, overlap, _, score, _, sigma, -⟩, -⟩ := done
  have real {index : Nat} {value : Binary32}
      (read : realInput (boxes :: scores :: scalars) (index + 2) = .ok value) {scalar : Tensor}
      (present : scalars[index]? = some scalar)
      : scalar.length = 1 := by
    simp only [realInput, List.getElem?_cons_succ, present] at read
    exact Tensor.single_of_scalarSingle read
  intro scalar member
  obtain ⟨index, present⟩ := List.getElem?_of_mem member
  have inside := (List.getElem?_eq_some_iff.mp present).1
  obtain rfl | rfl | rfl | rfl : index = 0 ∨ index = 1 ∨ index = 2 ∨ index = 3 := by omega
  · simp only [limitInput, List.getElem?_cons_succ, present] at limited
    obtain ⟨value, read, -⟩ := map_eq_ok_iff.mp limited
    exact Tensor.single_of_scalarInt64 read
  · exact real overlap present
  · exact real score present
  · exact real sigma present

end SelectionOp

end TensorGraph
