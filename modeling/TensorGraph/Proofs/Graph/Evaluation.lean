import TensorGraph.Graph.Op
import TensorGraph.Proofs.NonMaxSuppression.Count
import TensorGraph.Proofs.Reduction.Kernel
import TensorGraph.Proofs.Tensor

/-! What the evaluation of an operation gives, and how it can stop. -/

namespace TensorGraph

-----------------------------------------------------------------------------------------
-- The size of tensors
-----------------------------------------------------------------------------------------

namespace Tensor

/-- A tensor that fits into memory, or that is as small as the outputs of a selection from tensors
that do. Machine words count what its extents ask for.
-/
structure Moderate (tensor : Tensor) : Prop where
  light
    : Buffer.fits tensor.dtype tensor.length
      ∨ (∀ shape, tensor.shape = some shape → shape.rank ≤ 2) ∧ tensor.length < 3 * twoPow 62
  counted : tensor.Counted

theorem length_of_fits {tensor : Tensor} (fits : Buffer.fits tensor.dtype tensor.length)
    : tensor.length * tensor.dtype.byteSize < twoPow 63 := by
  simpa [Buffer.fits] using fits

theorem Moderate.small {tensor : Tensor} (moderate : tensor.Moderate)
    : tensor.length + 1 < twoPow 64 := by
  have words : twoPow 64 = 18446744073709551616 ∧ twoPow 63 = 9223372036854775808
      ∧ twoPow 62 = 4611686018427387904 :=
    ⟨rfl, rfl, rfl⟩
  rcases moderate.light with fits | ⟨-, short⟩
  · have bytes := length_of_fits fits
    have least := Nat.le_mul_of_pos_right tensor.length tensor.dtype.byteSize_pos
    omega
  · omega

/-- The scores of a selection are so wide that their number is moderate thrice over. -/
theorem Moderate.length_of_rank {tensor : Tensor} (moderate : tensor.Moderate)
    (numeric : tensor.dtype ≠ .boolean) {shape : Shape} (shaped : tensor.shape = some shape)
    (rank : 2 < shape.rank)
    : tensor.length < twoPow 62 := by
  have halves : twoPow 63 = 2 * twoPow 62 := twoPow.succ 62
  rcases moderate.light with fits | ⟨flat, -⟩
  · have bytes := length_of_fits fits
    have wide : 2 ≤ tensor.dtype.byteSize := by
      cases type : tensor.dtype with
      | boolean => exact absurd type numeric
      | _ => decide
    have least := Nat.mul_le_mul_left tensor.length wide
    omega
  · exact absurd (flat shape shaped) (Nat.not_le.mpr rank)

/-- A tensor with at most two axes is moderate if there are few enough elements. -/
theorem moderate_of_flat {tensor : Tensor} {shape : Shape} (shaped : tensor.shape = some shape)
    (flat : shape.rank ≤ 2) (fits : shape.Fits) (few : shape.numel < 3 * twoPow 62)
    : tensor.Moderate := by
  have known {other : Shape} (also : tensor.shape = some other) : other = shape :=
    Option.some.inj (also.symm.trans shaped)
  refine ⟨.inr ⟨?_, ?_⟩, ?_⟩
  · intro other also
    rw [known also]
    exact flat
  · rw [length_of_shape shaped, fits.count_eq]
    exact few
  · intro other also
    rw [known also]
    exact fits

theorem moderate_of_rows {tensor : Tensor} {rows : Nat}
    (shaped : tensor.shape = some ⟨[rows, 3]⟩) (few : rows < twoPow 62)
    : tensor.Moderate := by
  have words : twoPow 64 = 4 * twoPow 62 := rfl
  have fits : Shape.Fits ⟨[rows, 3]⟩ := by
    have three : max 1 3 = 3 := rfl
    rw [Shape.fits_iff]
    simp only [Shape.span, List.map_cons, List.map_nil, Shape.product_cons, Shape.product_nil,
      Nat.mul_one, three]
    omega
  refine moderate_of_flat shaped (Nat.le_refl 2) fits ?_
  simp only [Shape.numel, Shape.product_cons, Shape.product_nil]
  omega

theorem moderate_of_single {tensor : Tensor} (shaped : tensor.shape = some ⟨[1]⟩)
    : tensor.Moderate :=
  moderate_of_flat shaped (Nat.le_succ 1) (by decide) (by decide)

/-- A tensor without elements is moderate. -/
theorem moderate_unshaped (dtype : DType) : (unshaped dtype).Moderate := by
  refine ⟨.inl ?_, fun shape shaped => by cases shaped⟩
  simp [Buffer.fits, length, unshaped, Buffer.length, twoPow.pos]

end Tensor

-----------------------------------------------------------------------------------------
-- Reductions
-----------------------------------------------------------------------------------------

namespace ReductionOp

theorem lookup_kernels {kind : Reduction.Kind} {dtype : DType} {run : TensorKernel}
    (found : (kernels kind).lookup dtype = some run)
    : dtype ∈ registered kind
      ∧ ∃ kernel, kind.kernel? dtype = some kernel ∧ run = onTensors dtype kernel := by
  unfold KernelTable.lookup at found
  obtain ⟨⟨listed, entry⟩, first, rfl⟩ := Option.map_eq_some_iff.mp found
  have same : listed = dtype := by simpa using List.find?_some first
  subst same
  obtain ⟨other, isRegistered, known⟩ := List.mem_filterMap.mp (List.mem_of_find?_eq_some first)
  obtain ⟨kernel, kernelKnown, built⟩ := Option.map_eq_some_iff.mp known
  cases built
  exact ⟨isRegistered, kernel, kernelKnown, rfl⟩

/-- A tensor that is reduced has the element type of the kernel and axes within its rank, and the
result has the reduced shape.
-/
theorem onTensors_eq_ok {dtype : DType} {kernel : Reduction.Kernel dtype.Element}
    {argument out result : Tensor} {axes : AxisSet} {keepDims : Bool}
    (done : onTensors dtype kernel argument out axes keepDims = .ok result)
    : ∃ shape elements reduced,
        argument.shape = some shape
        ∧ argument.buffer = ⟨dtype, elements⟩
        ∧ Reduction.checkAxes shape axes = .ok ()
        ∧ Buffer.fits dtype (shape.reduce axes keepDims).count
        ∧ kernel elements
            (List.replicate (shape.reduce axes keepDims).count dtype.zeroElement)
            shape axes keepDims
          = .ok reduced
        ∧ result.buffer = ⟨dtype, reduced⟩
        ∧ result.shape = some (shape.reduce axes keepDims) := by
  unfold onTensors at done
  split at done
  · cases done
  · simp only [bind_eq_ok_iff, orFailure_eq_ok_iff, orFault_eq_ok_iff] at done
    obtain ⟨shape, shaped, ⟨⟩, axesFit, elements, read, blank, zeros, room, roomRead, reduced,
      computed, built⟩ := done
    obtain ⟨fits, blankBuffer, -⟩ := Tensor.filled_eq_ok zeros
    have roomBuffer := Tensor.data_eq_ok roomRead
    rw [blankBuffer] at roomBuffer
    cases roomBuffer
    obtain ⟨resultBuffer, resultShape⟩ := Tensor.ofElements_eq_ok built
    exact ⟨shape, elements, reduced, Tensor.staticShape_eq_ok shaped, Tensor.data_eq_ok read,
      axesFit, fits, computed, resultBuffer, resultShape⟩

/-- Only a result too large for memory stops a kernel that completes. -/
theorem onTensors_eq_fault {dtype : DType} {kernel : Reduction.Kernel dtype.Element}
    (completes : Reduction.Completes kernel) {argument out : Tensor} {axes : AxisSet}
    {keepDims : Bool} {fault : Fault} (moderate : argument.Moderate)
    (stopped : onTensors dtype kernel argument out axes keepDims = .error (.fault fault))
    : fault = .capacityOverflow
      ∧ ∃ shape,
          argument.shape = some shape
          ∧ ¬ Buffer.fits dtype (shape.reduce axes keepDims).count := by
  unfold onTensors at stopped
  split at stopped
  · cases stopped
  · simp only [bind_eq_error_iff, orFailure_ne_fault, orFault_eq_fault_iff, orFailure_eq_ok_iff,
      orFault_eq_ok_iff, false_or] at stopped
    obtain ⟨shape, shaped, ⟨⟩, axesFit, elements, read, stopped⟩ := stopped
    rcases stopped with tooLarge | ⟨blank, zeros, room, roomRead, stopped⟩
    · obtain ⟨overflow, beyond⟩ := Tensor.filled_eq_error tooLarge
      exact ⟨overflow, shape, Tensor.staticShape_eq_ok shaped, beyond⟩
    · have buffer := Tensor.data_eq_ok read
      have shaped := Tensor.staticShape_eq_ok shaped
      have length : elements.length = argument.length := by
        rw [Tensor.length, buffer, Buffer.length]
      obtain ⟨-, blankBuffer, -⟩ := Tensor.filled_eq_ok zeros
      have roomBuffer := Tensor.data_eq_ok roomRead
      rw [blankBuffer] at roomBuffer
      cases roomBuffer
      have fitting
          : Reduction.Fitting elements
              (List.replicate (shape.reduce axes keepDims).count dtype.zeroElement)
              shape axes keepDims :=
        ⟨length.trans (moderate.counted.length_eq shaped),
          List.length_replicate.trans
            ((moderate.counted shape shaped).reduce axes keepDims).count_eq,
          axesFit⟩
      obtain ⟨reduced, computed, _⟩ := completes _ _ _ _ _ fitting (length ▸ moderate.small)
      rw [computed] at stopped
      simp at stopped

/-- A reduction that evaluates replaces the first output by what a kernel gives for the first input.
-/
theorem evaluate_eq_true {op : ReductionOp} {outputs inputs results : List Tensor}
    (evaluated : op.evaluate outputs inputs = .ok ⟨true, results⟩)
    : ∃ argument others out rest kernel reduced,
        inputs = argument :: others
        ∧ outputs = out :: rest
        ∧ argument.dtype ∈ registered op.kind
        ∧ op.kind.kernel? argument.dtype = some kernel
        ∧ onTensors argument.dtype kernel argument out op.axes op.keepDims = .ok reduced
        ∧ results = reduced :: rest := by
  unfold evaluate at evaluated
  split at evaluated
  next argument others out rest =>
    split at evaluated
    · cases evaluated
    next run found =>
      obtain ⟨isRegistered, kernel, known, rfl⟩ := lookup_kernels found
      split at evaluated
      next reduced computed =>
        cases evaluated
        exact ⟨argument, others, out, rest, kernel, reduced, rfl, rfl, isRegistered, known,
          computed, rfl⟩
      · cases evaluated
      · cases evaluated
  · cases evaluated

/-- Only a result too large for memory stops the evaluation of a reduction. -/
theorem evaluate_eq_fault {op : ReductionOp} {outputs inputs : List Tensor} {fault : Fault}
    (moderate : ∀ input ∈ inputs, input.Moderate)
    (stopped : op.evaluate outputs inputs = .error fault)
    : fault = .capacityOverflow := by
  unfold evaluate at stopped
  split at stopped
  next argument others out rest =>
    split at stopped
    · cases stopped
    next run found =>
      obtain ⟨-, kernel, known, rfl⟩ := lookup_kernels found
      split at stopped
      · cases stopped
      · cases stopped
      next computed =>
        cases stopped
        exact (onTensors_eq_fault (Reduction.Kind.completes known)
          (moderate argument List.mem_cons_self) computed).1
  · cases stopped

end ReductionOp

-----------------------------------------------------------------------------------------
-- Selections
-----------------------------------------------------------------------------------------

namespace SelectionOp

theorem integers_eq_ok {dtype : DType} {values : List Int64} {shape : Shape} {tensor : Tensor}
    (built : integers dtype values shape = .ok tensor)
    : tensor.shape = some shape ∧ (dtype = .i32 ∨ dtype = .i64 → tensor.dtype = dtype) := by
  unfold integers at built
  split at built
  next narrow =>
    obtain ⟨buffer, shaped⟩ := Tensor.ofElements_eq_ok built
    exact ⟨shaped, fun _ => by rw [Tensor.dtype, buffer, narrow]⟩
  next wide =>
    obtain ⟨buffer, shaped⟩ := Tensor.ofElements_eq_ok built
    exact ⟨shaped, fun integral => by rw [Tensor.dtype, buffer, integral.resolve_left wide]⟩

/-- The outputs report as many rows as there are selections. -/
theorem pack_eq_ok {op : SelectionOp} {selected : List NonMaxSuppression.Selected}
    {indices scores valid : Tensor} (packed : op.pack selected = .ok (indices, scores, valid))
    : indices.shape = some ⟨[selected.length, 3]⟩
      ∧ scores.shape = some ⟨[selected.length, 3]⟩
      ∧ valid.shape = some ⟨[1]⟩
      ∧ scores.dtype = .f32
      ∧ (op.outputType = .i32 ∨ op.outputType = .i64
        → indices.dtype = op.outputType ∧ valid.dtype = op.outputType) := by
  simp only [pack, bind_eq_ok_iff, Except.ok.injEq, Prod.mk.injEq] at packed
  obtain ⟨_, indicesBuilt, _, scoresBuilt, _, validBuilt, rfl, rfl, rfl⟩ := packed
  obtain ⟨indicesShape, indicesType⟩ := integers_eq_ok indicesBuilt
  obtain ⟨scoresBuffer, scoresShape⟩ := Tensor.ofElements_eq_ok scoresBuilt
  obtain ⟨validShape, validType⟩ := integers_eq_ok validBuilt
  exact ⟨indicesShape, scoresShape, validShape, by rw [Tensor.dtype, scoresBuffer],
    fun integral => ⟨indicesType integral, validType integral⟩⟩

/-- A selection that runs has boxes and scores that fit together, and each class of each batch has
no more selections than its limit and its boxes allow.
-/
theorem run_eq_ok {op : SelectionOp} {widen : Tensor → Except TensorError (List Binary32)}
    {boxes scores : Tensor} {inputs : List Tensor} {outputs : Tensor × Tensor × Tensor}
    (done : op.run widen boxes scores inputs = .ok outputs)
    : ∃ batches labels count limit selected,
        boxes.shape = some ⟨[batches, count, 4]⟩
        ∧ scores.shape = some ⟨[batches, labels, count]⟩
        ∧ scores.length = batches * labels * count
        ∧ scores.dtype ≠ .boolean
        ∧ limitInput inputs = .ok limit
        ∧ List.length selected ≤ batches * labels * min limit count
        ∧ op.pack selected = .ok outputs := by
  simp only [run, parameters, bind_eq_ok_iff, orFailure_eq_ok_iff, Except.ok.injEq] at done
  obtain ⟨_, ⟨limit, limited, _, -, _, -, _, -, rfl⟩, _, -, boxShape, boxShaped, _, read,
    scoreShape, scoreShaped, selected, chosen, packed⟩ := done
  have boxesShape := Tensor.staticShape_eq_ok boxShaped
  have scoresShape := Tensor.staticShape_eq_ok scoreShaped
  have length := Tensor.length_of_toSingles read
  have short : scores.length < twoPow 64 := by
    rw [Tensor.length_of_shape scoresShape]
    exact scoreShape.count_lt
  obtain ⟨batches, labels, count, boxDims, scoreDims, scoreCount, most⟩ :=
    NonMaxSuppression.select_eq_ok chosen (length ▸ short)
  obtain ⟨_⟩ := boxShape
  obtain ⟨_⟩ := scoreShape
  cases boxDims
  cases scoreDims
  exact ⟨batches, labels, count, limit, selected, boxesShape, scoresShape,
    length ▸ scoreCount, Tensor.dtype_ne_boolean_of_toSingles read, limited, most, packed⟩

/-- A selection that evaluates has three outputs or more and replaces the first three. -/
theorem evaluate_eq_true {op : SelectionOp} {outputs inputs results : List Tensor}
    (evaluated : op.evaluate outputs inputs = .ok ⟨true, results⟩)
    : ∃ boxes scores others widen indices selectedScores valid first second third rest,
        inputs = boxes :: scores :: others
        ∧ outputs = first :: second :: third :: rest
        ∧ op.run widen boxes scores inputs = .ok (indices, selectedScores, valid)
        ∧ results = indices :: selectedScores :: valid :: rest := by
  unfold evaluate at evaluated
  split at evaluated
  next boxes scores others first second third rest =>
    split at evaluated
    · cases evaluated
    next widen found =>
      split at evaluated
      next indices selectedScores valid done =>
        cases evaluated
        exact ⟨boxes, scores, others, widen, indices, selectedScores, valid, first, second, third,
          rest, rfl, rfl, done, rfl⟩
      · cases evaluated
      · cases evaluated
  · cases evaluated

/-- A selection whose boxes can be read evaluates to what it runs to. -/
theorem evaluate_of_run {op : SelectionOp} {boxes scores : Tensor} {others : List Tensor}
    {widen : Tensor → Except TensorError (List Binary32)}
    (readable : kernels.lookup boxes.dtype = some widen) {indices selectedScores valid : Tensor}
    (done
      : op.run widen boxes scores (boxes :: scores :: others)
        = .ok (indices, selectedScores, valid))
    {first second third : Tensor} {rest : List Tensor}
    : op.evaluate (first :: second :: third :: rest) (boxes :: scores :: others)
      = .ok ⟨true, indices :: selectedScores :: valid :: rest⟩ := by
  simp only [evaluate, readable, done]

theorem lookup_kernels {dtype : DType} {widen : Tensor → Except TensorError (List Binary32)}
    (found : kernels.lookup dtype = some widen)
    : widen = Tensor.toSingles := by
  cases dtype with
  | bf16 | f16 | f32 =>
      cases found
      rfl
  | boolean | i32 | i64 => cases found

/-- Boxes and scores whose extents machine words count are selected from without a fault. -/
theorem run_ne_fault {op : SelectionOp} {boxes scores : Tensor} (boxesCounted : boxes.Counted)
    (scoresCounted : scores.Counted) (inputs : List Tensor) (fault : Fault)
    : op.run Tensor.toSingles boxes scores inputs ≠ .error (.fault fault) := by
  intro stopped
  simp only [run, bind_eq_error_iff, orFailure_ne_fault, orFailure_eq_ok_iff, false_or] at stopped
  obtain ⟨parameters, -, boxValues, boxesRead, boxShape, boxShaped, scoreValues, scoresRead,
    scoreShape, scoreShaped, stopped⟩ := stopped
  simp only [and_false, exists_false, or_false] at stopped
  refine NonMaxSuppression.select_ne_fault ?_ ?_ parameters fault stopped
  · rw [Tensor.length_of_toSingles boxesRead]
    exact boxesCounted.length_eq (Tensor.staticShape_eq_ok boxShaped)
  · rw [Tensor.length_of_toSingles scoresRead]
    exact scoresCounted.length_eq (Tensor.staticShape_eq_ok scoreShaped)

theorem evaluate_ne_fault {op : SelectionOp} {outputs inputs : List Tensor}
    (counted : ∀ input ∈ inputs, input.Counted) (fault : Fault)
    : op.evaluate outputs inputs ≠ .error fault := by
  intro stopped
  unfold evaluate at stopped
  split at stopped
  next boxes scores others first second third rest =>
    split at stopped
    · cases stopped
    next widen found =>
      cases lookup_kernels found
      split at stopped
      · cases stopped
      · cases stopped
      next done =>
        exact run_ne_fault (counted boxes (by simp)) (counted scores (by simp)) _ _ done
  · cases stopped

end SelectionOp

-----------------------------------------------------------------------------------------
-- The size of results
-----------------------------------------------------------------------------------------

theorem ReductionOp.evaluate_moderate {op : ReductionOp} {outputs inputs results : List Tensor}
    (moderate : ∀ input ∈ inputs, input.Moderate)
    (evaluated : op.evaluate outputs inputs = .ok ⟨true, results⟩)
    : ∀ result ∈ results, result.Moderate ∨ result ∈ outputs := by
  obtain ⟨argument, others, out, rest, kernel, reduced, rfl, rfl, -, -, done, rfl⟩ :=
    evaluate_eq_true evaluated
  obtain ⟨shape, _, _, known, -, -, fits, -, buffer, shaped⟩ := onTensors_eq_ok done
  intro result member
  rcases List.mem_cons.mp member with rfl | kept
  · refine .inl ⟨.inl ?_, ?_⟩
    · rw [Tensor.length_of_shape shaped, Tensor.dtype, buffer]
      exact fits
    · intro other also
      cases shaped.symm.trans also
      exact ((moderate argument List.mem_cons_self).counted shape known).reduce _ _
  · exact .inr (List.mem_cons_of_mem _ kept)

/-- Moderate scores are so few that the selections are moderate: there are no more of them. -/
theorem SelectionOp.evaluate_moderate {op : SelectionOp} {outputs inputs results : List Tensor}
    (moderate : ∀ input ∈ inputs, input.Moderate)
    (evaluated : op.evaluate outputs inputs = .ok ⟨true, results⟩)
    : ∀ result ∈ results, result.Moderate ∨ result ∈ outputs := by
  obtain ⟨boxes, scores, others, widen, indices, selectedScores, valid, _, _, _, rest, rfl, rfl,
    done, rfl⟩ := evaluate_eq_true evaluated
  obtain ⟨batches, labels, count, limit, selected, -, scoresShape, scoreCount, numeric, -, most,
    packed⟩ := run_eq_ok done
  obtain ⟨indicesShape, selectedShape, validShape, -, -⟩ := pack_eq_ok packed
  have few : selected.length < twoPow 62 := by
    have bounded := (moderate scores (by simp)).length_of_rank numeric scoresShape
      (Nat.lt_succ_self 2)
    have limited : min limit count ≤ count := Nat.min_le_right _ _
    have enough := Nat.mul_le_mul_left (batches * labels) limited
    omega
  intro result member
  simp only [List.mem_cons] at member
  rcases member with rfl | rfl | rfl | kept
  · exact .inl (Tensor.moderate_of_rows indicesShape few)
  · exact .inl (Tensor.moderate_of_rows selectedShape few)
  · exact .inl (Tensor.moderate_of_single validShape)
  · exact .inr (by simp [kept])

/-- An operation other than a constant evaluates moderate tensors to moderate tensors and to outputs
that it leaves as they were.
-/
theorem Op.evaluate_moderate {op : Op} {outputs inputs results : List Tensor}
    (computed : op.constantValue? = none) (moderate : ∀ input ∈ inputs, input.Moderate)
    (evaluated : op.evaluate outputs inputs = .ok ⟨true, results⟩)
    : ∀ result ∈ results, result.Moderate ∨ result ∈ outputs := by
  cases op with
  | parameter desc => cases evaluated
  | constant value => cases computed
  | reduction op => exact ReductionOp.evaluate_moderate moderate evaluated
  | selection op => exact SelectionOp.evaluate_moderate moderate evaluated

/-- Only a result too large for memory stops the evaluation of an operation. -/
theorem Op.evaluate_eq_fault {op : Op} {outputs inputs : List Tensor} {fault : Fault}
    (moderate : ∀ input ∈ inputs, input.Moderate)
    (stopped : op.evaluate outputs inputs = .error fault)
    : fault = .capacityOverflow := by
  cases op with
  | parameter desc => cases stopped
  | constant value =>
      simp only [Op.evaluate] at stopped
      split at stopped
      · split at stopped <;> cases stopped
      · cases stopped
  | reduction op => exact ReductionOp.evaluate_eq_fault moderate stopped
  | selection op =>
      exact absurd stopped
        (SelectionOp.evaluate_ne_fault (fun input member => (moderate input member).counted) fault)

end TensorGraph
