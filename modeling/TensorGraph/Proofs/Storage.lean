import TensorGraph.Proofs.Encoding
import TensorGraph.Proofs.Graph.Handling
import TensorGraph.Tensor.Storage

/-! The three fields in which a tensor is stored always agree, which is what a tensor is. -/

namespace TensorGraph

namespace Stored

/-- The buffer has the recorded element type and holds as many elements as the recorded shape asks
for, and none without a shape.
-/
structure Consistent (stored : Stored) : Prop where
  typed : stored.buffer.dtype = stored.dtype
  counted : stored.buffer.length = stored.shape.elim 0 Shape.count

/-- The fields agree exactly if they are those of a tensor. -/
theorem consistent_iff {stored : Stored}
    : stored.Consistent ↔ ∃ tensor : Tensor, tensor.stored = stored := by
  constructor
  · obtain ⟨dtype, shape, ⟨held, elements⟩⟩ := stored
    rintro ⟨typed, counted⟩
    change held = dtype at typed
    subst typed
    exact ⟨⟨⟨held, elements⟩, shape, counted⟩, rfl⟩
  · rintro ⟨tensor, rfl⟩
    exact ⟨rfl, tensor.sized⟩

-----------------------------------------------------------------------------------------
-- What a step does
-----------------------------------------------------------------------------------------

section Steps

variable {stored : Stored} {dtype : DType} {shape : Shape}

theorem step_filled_of_fits (stored : Stored) {element : dtype.Element}
    (fits : Buffer.fits dtype shape.count)
    : stored.step (.filled dtype element shape)
      = (.ok (), ⟨dtype, some shape, ⟨dtype, List.replicate shape.count element⟩⟩) := by
  rw [step, perform, run_ofExcept_bind, Buffer.filled, if_pos fits]
  rfl

theorem step_filled_of_beyond (stored : Stored) {element : dtype.Element}
    (beyond : ¬ Buffer.fits dtype shape.count)
    : stored.step (.filled dtype element shape)
      = (.error (.fault .capacityOverflow), stored) := by
  rw [step, perform, run_ofExcept_bind, Buffer.filled, if_neg beyond]
  rfl

theorem step_ofElements_of_length (stored : Stored) {elements : List dtype.Element}
    (sized : elements.length = shape.count)
    : stored.step (.ofElements dtype elements shape)
      = (.ok (), ⟨dtype, some shape, ⟨dtype, elements⟩⟩) := by
  rw [step, perform, if_neg (not_not.mpr sized)]
  rfl

theorem step_ofElements_of_resized (stored : Stored) {elements : List dtype.Element}
    (resized : elements.length ≠ shape.count)
    : stored.step (.ofElements dtype elements shape)
      = (.error (.error (.lengthMismatch shape.count elements.length)), stored) := by
  rw [step, perform, if_pos resized]
  rfl

/-- Bytes that are as many as the shape asks for are a whole number of elements. -/
theorem step_ofBytes_of_length (stored : Stored) {bytes : Bytes}
    (sized : bytes.length = shape.count * dtype.byteSize)
    : stored.step (.ofBytes dtype shape bytes)
      = (.ok (), ⟨dtype, some shape, .decode dtype bytes⟩) := by
  have whole : dtype.byteSize ∣ bytes.length := ⟨shape.count, sized.trans (Nat.mul_comm _ _)⟩
  rw [step, perform, if_neg (not_not.mpr sized), Buffer.ofBytes_eq_ok_iff.mpr ⟨whole, rfl⟩]
  rfl

theorem step_ofBytes_of_resized (stored : Stored) {bytes : Bytes}
    (resized : bytes.length ≠ shape.count * dtype.byteSize)
    : stored.step (.ofBytes dtype shape bytes)
      = (.error (.error (.lengthMismatch (shape.count * dtype.byteSize) bytes.length)),
          stored) := by
  rw [step, perform, if_pos resized]
  rfl

theorem step_setShape_of_length (kept : stored.buffer.length = shape.count)
    : stored.step (.setShape shape) = (.ok (), ⟨stored.dtype, some shape, stored.buffer⟩) := by
  rw [step, perform, run_get_bind]
  dsimp only
  rw [if_neg (not_not.mpr kept)]
  rfl

/-- A shape that asks for another number of elements fills the fields with zeros. -/
theorem step_setShape_of_resized (resized : stored.buffer.length ≠ shape.count)
    : stored.step (.setShape shape)
      = stored.step (.filled stored.dtype stored.dtype.zeroElement shape) := by
  rw [step, perform, run_get_bind]
  dsimp only
  rw [if_pos resized, step, perform, run_ofExcept_bind, run_ofExcept_bind, Buffer.zeros]
  cases Buffer.filled stored.dtype shape.count stored.dtype.zeroElement <;> rfl

theorem step_setShape_eq_ok_iff (stored : Stored) (shape : Shape)
    : (stored.step (.setShape shape)).1 = .ok ()
      ↔ stored.buffer.length = shape.count ∨ Buffer.fits stored.dtype shape.count := by
  by_cases kept : stored.buffer.length = shape.count
  · rw [step_setShape_of_length kept]
    simp [kept]
  · rw [step_setShape_of_resized kept]
    by_cases fits : Buffer.fits stored.dtype shape.count = true
    · rw [step_filled_of_fits stored fits]
      simp [fits]
    · rw [step_filled_of_beyond stored fits]
      simp [kept, fits]

theorem step_setShape_eq_ok {changed : Stored}
    (done : stored.step (.setShape shape) = (.ok (), changed))
    : changed.dtype = stored.dtype
      ∧ changed.shape = some shape
      ∧ (changed.buffer = stored.buffer ↔ stored.buffer.length = shape.count)
      ∧ (stored.buffer.length ≠ shape.count
        → changed.buffer
          = ⟨stored.dtype, List.replicate shape.count stored.dtype.zeroElement⟩) := by
  by_cases kept : stored.buffer.length = shape.count
  · rw [step_setShape_of_length kept] at done
    cases done
    exact ⟨rfl, rfl, iff_of_true rfl kept, fun resized => absurd kept resized⟩
  · rw [step_setShape_of_resized kept] at done
    by_cases fits : Buffer.fits stored.dtype shape.count = true
    · rw [step_filled_of_fits stored fits] at done
      cases done
      have replaced
          : Buffer.mk stored.dtype (List.replicate shape.count stored.dtype.zeroElement)
            ≠ stored.buffer := by
        intro same
        rw [← same, Buffer.length, List.length_replicate] at kept
        exact kept rfl
      exact ⟨rfl, rfl, iff_of_false replaced kept, fun _ => rfl⟩
    · rw [step_filled_of_beyond stored fits] at done
      cases done

theorem step_write_of_read {elements : List dtype.Element}
    (read : stored.buffer.elements? dtype = some elements) (index : Nat) (element : dtype.Element)
    : stored.step (.write dtype index element)
      = if index < elements.length then
          (.ok (), ⟨stored.dtype, stored.shape, ⟨dtype, elements.set index element⟩⟩)
        else (.error (.fault .indexOutOfRange), stored) := by
  rw [step, perform, run_get_bind, read]
  dsimp only
  split <;> rfl

theorem step_write_of_unread (unread : stored.buffer.elements? dtype = none) (index : Nat)
    (element : dtype.Element)
    : stored.step (.write dtype index element)
      = (.error (.error (.dtypeMismatch dtype stored.dtype)), stored) := by
  rw [step, perform, run_get_bind, unread]
  rfl

/-- A write that is refused names both types, and one out of range stops. -/
theorem step_write_outcome (stored : Stored) (index : Nat) (element : dtype.Element)
    : (stored.step (.write dtype index element)).1
      = if stored.buffer.dtype = dtype then
          if index < stored.buffer.length then .ok () else .error (.fault .indexOutOfRange)
        else .error (.error (.dtypeMismatch dtype stored.dtype)) := by
  by_cases same : stored.buffer.dtype = dtype
  · obtain ⟨elements, read⟩ := Option.isSome_iff_exists.mp (Buffer.elements?_isSome.mpr same)
    have length : stored.buffer.length = elements.length := by
      rw [Buffer.eq_of_elements? read, Buffer.length]
    rw [step_write_of_read read, if_pos same, length]
    split <;> rfl
  · have unread : stored.buffer.elements? dtype = none := dif_neg same
    rw [step_write_of_unread unread, if_neg same]

theorem data_eq_ok_iff (stored : Stored) (dtype : DType)
    : (∃ elements, stored.data dtype = .ok elements) ↔ stored.buffer.dtype = dtype := by
  rw [← Buffer.elements?_isSome, data]
  cases stored.buffer.elements? dtype <;> simp

end Steps

-----------------------------------------------------------------------------------------
-- Steps in place are steps on tensors
-----------------------------------------------------------------------------------------

/-- In place the step does to the fields of the tensor what it does to the tensor. -/
def InStep (tensor : Tensor) (edit : Tensor.Edit) : Prop :=
  tensor.stored.step edit = ((tensor.edit edit).2, (tensor.edit edit).1.stored)

theorem inStep_of_ok {tensor : Tensor} {edit : Tensor.Edit} {changed : Stored}
    (done : tensor.stored.step edit = (.ok (), changed))
    (result : ∃ built, edit.result tensor = .ok built ∧ built.stored = changed)
    : InStep tensor edit := by
  obtain ⟨built, given, rfl⟩ := result
  rw [InStep, done, Tensor.edit, given]

theorem inStep_of_error {tensor : Tensor} {edit : Tensor.Edit}
    {failure : Failure TensorError}
    (stopped : tensor.stored.step edit = (.error failure, tensor.stored))
    (refused : edit.result tensor = .error failure)
    : InStep tensor edit := by
  rw [InStep, stopped, Tensor.edit, refused]

section Tensors

variable (tensor : Tensor) (dtype : DType) (shape : Shape)

theorem inStep_ofElements (elements : List dtype.Element)
    : InStep tensor (.ofElements dtype elements shape) := by
  by_cases sized : elements.length = shape.count
  · exact inStep_of_ok (step_ofElements_of_length tensor.stored sized)
      ⟨_, congrArg orFailure (dif_pos sized), rfl⟩
  · exact inStep_of_error (step_ofElements_of_resized tensor.stored sized)
      (congrArg orFailure (dif_neg sized))

theorem inStep_filled (element : dtype.Element) : InStep tensor (.filled dtype element shape) := by
  by_cases fits : Buffer.fits dtype shape.count = true
  · exact inStep_of_ok (step_filled_of_fits tensor.stored fits)
      ⟨_, congrArg orFault (if_pos fits), rfl⟩
  · exact inStep_of_error (step_filled_of_beyond tensor.stored fits)
      (congrArg orFault (if_neg fits))

theorem inStep_ofBytes (bytes : Bytes) : InStep tensor (.ofBytes dtype shape bytes) := by
  by_cases sized : bytes.length = shape.count * dtype.byteSize
  · exact inStep_of_ok (step_ofBytes_of_length tensor.stored sized)
      ⟨_, congrArg orFailure (dif_pos sized), rfl⟩
  · exact inStep_of_error (step_ofBytes_of_resized tensor.stored sized)
      (congrArg orFailure (dif_neg sized))

theorem inStep_setShape : InStep tensor (.setShape shape) := by
  by_cases sized : tensor.stored.buffer.length = shape.count
  · exact inStep_of_ok (step_setShape_of_length sized)
      ⟨_, congrArg orFault (dif_pos sized), rfl⟩
  · have zeros : tensor.setShape shape = Tensor.zeros tensor.dtype shape := dif_neg sized
    have same
        : tensor.edit (.setShape shape)
          = tensor.edit (.filled tensor.dtype tensor.dtype.zeroElement shape) := by
      rw [Tensor.edit, Tensor.edit, Tensor.Edit.result, Tensor.Edit.result, zeros, Tensor.zeros]
    rw [InStep, step_setShape_of_resized sized, same]
    exact inStep_filled tensor tensor.dtype shape tensor.dtype.zeroElement

theorem inStep_write (index : Nat) (element : dtype.Element)
    : InStep tensor (.write dtype index element) := by
  by_cases same : tensor.buffer.dtype = dtype
  · subst same
    have read
        : tensor.stored.buffer.elements? tensor.buffer.dtype = some tensor.buffer.elements :=
      Buffer.elements?_self _
    have written
        : tensor.stored.step (.write tensor.buffer.dtype index element)
          = if index < tensor.length then
              (.ok (), ⟨tensor.dtype, tensor.shape,
                ⟨tensor.buffer.dtype, tensor.buffer.elements.set index element⟩⟩)
            else (.error (.fault .indexOutOfRange), tensor.stored) :=
      step_write_of_read read index element
    by_cases inside : index < tensor.length
    · rw [if_pos inside] at written
      exact inStep_of_ok written ⟨_, (dif_pos rfl).trans (if_pos inside), rfl⟩
    · rw [if_neg inside] at written
      exact inStep_of_error written ((dif_pos rfl).trans (if_neg inside))
  · have unread : tensor.stored.buffer.elements? dtype = none := dif_neg same
    exact inStep_of_error (step_write_of_unread unread index element) (dif_neg same)

end Tensors

/-- Every step in place is the step on tensors, by cases on the step. -/
theorem step_stored (tensor : Tensor) (edit : Tensor.Edit)
    : tensor.stored.step edit = ((tensor.edit edit).2, (tensor.edit edit).1.stored) := by
  cases edit with
  | unshaped dtype =>
      have room : Buffer.zeros dtype 0 = .ok ⟨dtype, []⟩ := by
        rw [Buffer.zeros, Buffer.filled, if_pos (by simp [Buffer.fits, twoPow.pos])]
        rfl
      rw [step, perform, run_ofExcept_bind, room]
      rfl
  | ofElements dtype elements shape => exact inStep_ofElements tensor dtype shape elements
  | scalar dtype element => rfl
  | zeros dtype shape => exact inStep_filled tensor dtype shape dtype.zeroElement
  | filled dtype element shape => exact inStep_filled tensor dtype shape element
  | ofBytes dtype shape bytes => exact inStep_ofBytes tensor dtype shape bytes
  | setShape shape => exact inStep_setShape tensor shape
  | write dtype index element => exact inStep_write tensor dtype index element

/-- Steps in place are steps on tensors, by induction on the steps. -/
theorem steps_stored (tensor : Tensor) (edits : List Tensor.Edit)
    : tensor.stored.steps edits = (tensor.edits edits).stored := by
  induction edits generalizing tensor with
  | nil => rfl
  | cons edit rest ih =>
      rw [steps, List.foldl_cons, step_stored]
      exact ih (tensor.edit edit).1

-----------------------------------------------------------------------------------------
-- Fields that agree
-----------------------------------------------------------------------------------------

/-- The fields agree, and so the recorded type is the one at which the elements can be read and
written, a shape keeps the elements if it asks for as many and gives zeros if it does not, and a
step that fails has written nothing.
-/
structure Sound (stored : Stored) : Prop where
  consistent : stored.Consistent
  reads
    : ∀ dtype, (∃ elements, stored.data dtype = .ok elements) ↔ dtype = stored.dtype
  writes
    : ∀ (dtype : DType) (index : Nat) (element : dtype.Element),
        ((stored.step (.write dtype index element)).1
            = .error (.error (.dtypeMismatch dtype stored.dtype))
          ↔ dtype ≠ stored.dtype)
        ∧ ((stored.step (.write dtype index element)).1 = .ok ()
          ↔ dtype = stored.dtype ∧ index < stored.buffer.length)
  shapes
    : ∀ shape,
        ((stored.step (.setShape shape)).1 = .ok ()
          ↔ stored.buffer.length = shape.count ∨ Buffer.fits stored.dtype shape.count)
        ∧ ∀ changed,
            stored.step (.setShape shape) = (.ok (), changed)
            → changed.dtype = stored.dtype
              ∧ changed.shape = some shape
              ∧ (changed.buffer = stored.buffer ↔ stored.buffer.length = shape.count)
              ∧ (stored.buffer.length ≠ shape.count
                → changed.buffer
                  = ⟨stored.dtype, List.replicate shape.count stored.dtype.zeroElement⟩)
  failures
    : ∀ edit failure, (stored.step edit).1 = .error failure → (stored.step edit).2 = stored

section Consistent

variable {stored : Stored}

/-- A step keeps the fields in agreement. -/
theorem Consistent.step (consistent : stored.Consistent) (edit : Tensor.Edit)
    : (stored.step edit).2.Consistent := by
  obtain ⟨tensor, rfl⟩ := consistent_iff.mp consistent
  rw [step_stored]
  exact consistent_iff.mpr ⟨_, rfl⟩

/-- Steps keep the fields in agreement, by induction on the steps. -/
theorem Consistent.steps (consistent : stored.Consistent) (edits : List Tensor.Edit)
    : (stored.steps edits).Consistent := by
  induction edits generalizing stored with
  | nil => exact consistent
  | cons edit rest ih => exact ih (consistent.step edit)

theorem Consistent.step_of_error (consistent : stored.Consistent) {edit : Tensor.Edit}
    {failure : Failure TensorError} (failed : (stored.step edit).1 = .error failure)
    : (stored.step edit).2 = stored := by
  obtain ⟨tensor, rfl⟩ := consistent_iff.mp consistent
  rw [step_stored, Tensor.edit] at failed
  rw [step_stored, Tensor.edit]
  cases result : edit.result tensor with
  | ok built =>
      rw [result] at failed
      cases failed
  | error failure => rfl

theorem Consistent.sound (consistent : stored.Consistent) : stored.Sound where
  consistent := consistent
  reads dtype := by
    rw [data_eq_ok_iff, consistent.typed]
    exact eq_comm
  writes dtype index element := by
    rw [step_write_outcome, consistent.typed]
    by_cases same : dtype = stored.dtype
    · subst same
      by_cases inside : index < stored.buffer.length <;> simp [inside]
    · simp [same, Ne.symm same]
  shapes shape := ⟨step_setShape_eq_ok_iff stored shape, fun _ => step_setShape_eq_ok⟩
  failures _ _ := consistent.step_of_error

end Consistent

end Stored

-----------------------------------------------------------------------------------------
-- What operations write
-----------------------------------------------------------------------------------------

open Stored

/-- The fields of a list of integers among the outputs of a selection. -/
def SelectionOp.storedIntegers (dtype : DType) (values : List Int64) (shape : Shape) : Stored :=
  if dtype = .i32 then ⟨.i32, some shape, ⟨.i32, values.map Int64.toInt32⟩⟩
  else ⟨.i64, some shape, ⟨.i64, values⟩⟩

/-- What an operation writes to an output, field by field: a constant its value, a reduction what
its kernel makes of the first input in a buffer of zeros, and a selection the rows and the number of
what it selects.
-/
inductive Op.Writes (inputs : List Tensor) : Op → Stored → Prop
  | constant (value : Tensor) : Writes inputs (.constant value) value.stored
  | reduction {op : ReductionOp} {argument : Tensor} {shape : Shape}
      {kernel : Reduction.Kernel argument.dtype.Element}
      {elements reduced : List argument.dtype.Element}
      (first : inputs.head? = some argument) (shaped : argument.shape = some shape)
      (read : argument.buffer = ⟨argument.dtype, elements⟩)
      (known : op.kind.kernel? argument.dtype = some kernel)
      (computed
        : kernel elements
            (List.replicate (shape.reduce op.axes op.keepDims).count argument.dtype.zeroElement)
            shape op.axes op.keepDims
          = .ok reduced)
      : Writes inputs (.reduction op)
          ⟨argument.dtype, some (shape.reduce op.axes op.keepDims), ⟨argument.dtype, reduced⟩⟩
  | indices (op : SelectionOp) {selected : List NonMaxSuppression.Selected}
      (few : selected.length * 3 < twoPow 64)
      : Writes inputs (.selection op)
          (SelectionOp.storedIntegers op.outputType
            (selected.flatMap fun one => [.ofNat one.batch, .ofNat one.label, .ofNat one.index])
            ⟨[selected.length, 3]⟩)
  | scores (op : SelectionOp) {selected : List NonMaxSuppression.Selected}
      (few : selected.length * 3 < twoPow 64)
      : Writes inputs (.selection op)
          ⟨.f32, some ⟨[selected.length, 3]⟩, ⟨.f32,
            selected.flatMap fun one => [.ofNat one.batch, .ofNat one.label, one.score]⟩⟩
  | valid (op : SelectionOp) (selected : List NonMaxSuppression.Selected)
      : Writes inputs (.selection op)
          (SelectionOp.storedIntegers op.outputType [.ofNat selected.length] ⟨[1]⟩)

theorem Tensor.consistent_stored (tensor : Tensor) : tensor.stored.Consistent :=
  consistent_iff.mpr ⟨tensor, rfl⟩

theorem Tensor.stored_of_parts {tensor : Tensor} {dtype : DType} {elements : List dtype.Element}
    {shape : Shape} (buffer : tensor.buffer = ⟨dtype, elements⟩)
    (shaped : tensor.shape = some shape)
    : tensor.stored = ⟨dtype, some shape, ⟨dtype, elements⟩⟩ := by
  rw [stored, Tensor.dtype, buffer, shaped]

theorem Tensor.stored_of_ofElements {dtype : DType} {elements : List dtype.Element}
    {shape : Shape} {tensor : Tensor} (built : ofElements dtype elements shape = .ok tensor)
    : tensor.stored = ⟨dtype, some shape, ⟨dtype, elements⟩⟩ :=
  stored_of_parts (ofElements_eq_ok built).1 (ofElements_eq_ok built).2

theorem SelectionOp.consistent_storedIntegers (dtype : DType) {values : List Int64}
    {shape : Shape} (sized : values.length = shape.count)
    : (storedIntegers dtype values shape).Consistent := by
  unfold storedIntegers
  split
  · exact ⟨rfl, (List.length_map _).trans sized⟩
  · exact ⟨rfl, sized⟩

/-- The fields that an operation writes agree: a kernel fills the buffer that was made for the
reduced shape, and rows of three are as many elements as their shape asks for.
-/
theorem Op.Writes.consistent {op : Op} {inputs : List Tensor} {stored : Stored}
    (written : Writes inputs op stored)
    : stored.Consistent := by
  cases written with
  | constant value => exact value.consistent_stored
  | reduction first shaped read known computed =>
      exact ⟨rfl, (Reduction.Kind.keepsLength known computed).trans List.length_replicate⟩
  | indices op few =>
      exact SelectionOp.consistent_storedIntegers _ (SelectionOp.length_rows _ _ _ few)
  | scores op few => exact ⟨rfl, SelectionOp.length_rows _ _ _ few⟩
  | valid op selected => exact SelectionOp.consistent_storedIntegers _ rfl

/-- Rows of three that are as many elements as their shape asks for are counted by machine words. -/
theorem SelectionOp.few_of_rows {α β : Type} (first second third : α → β) {xs : List α}
    (sized
      : (xs.flatMap fun x => [first x, second x, third x]).length
        = (Shape.mk [xs.length, 3]).count)
    : xs.length * 3 < twoPow 64 := by
  have counted := Shape.count_lt ⟨[xs.length, 3]⟩
  rw [← sized] at counted
  simpa [List.length_flatMap] using counted

theorem SelectionOp.stored_of_integers {dtype : DType} {values : List Int64} {shape : Shape}
    {tensor : Tensor} (built : integers dtype values shape = .ok tensor)
    : tensor.stored = storedIntegers dtype values shape := by
  unfold integers at built
  split at built
  next narrow => rw [Tensor.stored_of_ofElements built, storedIntegers, if_pos narrow]
  next wide => rw [Tensor.stored_of_ofElements built, storedIntegers, if_neg wide]

theorem ReductionOp.evaluate_writes {op : ReductionOp} {outputs inputs results : List Tensor}
    (evaluated : op.evaluate outputs inputs = .ok ⟨true, results⟩) {place : Nat} {result : Tensor}
    (found : results[place]? = some result)
    : outputs[place]? = some result ∨ Op.Writes inputs (.reduction op) result.stored := by
  obtain ⟨argument, others, out, rest, kernel, reduced, rfl, rfl, -, known, done, rfl⟩ :=
    evaluate_eq_true evaluated
  cases place with
  | succ place => exact .inl found
  | zero =>
      cases found
      obtain ⟨shape, elements, values, shaped, read, -, -, computed, buffer, reducedShape⟩ :=
        onTensors_eq_ok done
      rw [Tensor.stored_of_parts buffer reducedShape]
      exact .inr (.reduction rfl shaped read known computed)

theorem SelectionOp.evaluate_writes {op : SelectionOp} {outputs inputs results : List Tensor}
    (evaluated : op.evaluate outputs inputs = .ok ⟨true, results⟩) {place : Nat} {result : Tensor}
    (found : results[place]? = some result)
    : outputs[place]? = some result ∨ Op.Writes inputs (.selection op) result.stored := by
  obtain ⟨boxes, scores, others, widen, indices, selectedScores, valid, first, second, third, rest,
    rfl, rfl, done, rfl⟩ := evaluate_eq_true evaluated
  obtain ⟨_, _, _, _, selected, -, -, -, -, -, -, packed⟩ := run_eq_ok done
  simp only [pack, bind_eq_ok_iff, Except.ok.injEq, Prod.mk.injEq] at packed
  obtain ⟨_, indicesBuilt, _, scoresBuilt, _, validBuilt, rfl, rfl, rfl⟩ := packed
  have few := few_of_rows _ _ _ (Tensor.length_of_ofElements scoresBuilt)
  rcases place with _ | _ | _ | place
  · cases found
    rw [stored_of_integers indicesBuilt]
    exact .inr (.indices op few)
  · cases found
    rw [Tensor.stored_of_ofElements scoresBuilt]
    exact .inr (.scores op few)
  · cases found
    rw [stored_of_integers validBuilt]
    exact .inr (.valid op selected)
  · exact .inl found

/-- Every output of an operation is what it was or what the operation writes. -/
theorem Op.evaluate_writes {op : Op} {outputs inputs : List Tensor} {evaluation : Evaluation}
    (evaluated : op.evaluate outputs inputs = .ok evaluation) {place : Nat} {result : Tensor}
    (found : evaluation.outputs[place]? = some result)
    : outputs[place]? = some result ∨ op.Writes inputs result.stored := by
  obtain ⟨handled, results⟩ := evaluation
  cases handled with
  | false =>
      rw [Op.outputs_of_declined evaluated] at found
      exact .inl found
  | true =>
      cases op with
      | parameter desc => cases evaluated
      | constant value =>
          cases outputs with
          | nil => cases evaluated
          | cons out rest =>
              simp only [Op.evaluate] at evaluated
              split at evaluated
              · cases evaluated
                cases place with
                | zero =>
                    cases found
                    exact .inr (.constant _)
                | succ place => exact .inl found
              · cases evaluated
      | reduction op => exact ReductionOp.evaluate_writes evaluated found
      | selection op => exact SelectionOp.evaluate_writes evaluated found

-----------------------------------------------------------------------------------------
-- What can be obtained
-----------------------------------------------------------------------------------------

namespace Stored

/-- The fields that come of steps in place, from those without a shape and from what operations
write.
-/
inductive Obtained : Stored → Prop
  | unshaped (dtype : DType) : Obtained (unshaped dtype)
  | written {op : Op} {inputs : List Tensor} {stored : Stored} (writes : op.Writes inputs stored)
      : Obtained stored
  | step {stored : Stored} (before : Obtained stored) (edit : Tensor.Edit)
      : Obtained (stored.step edit).2

/-- The fields of every tensor can be obtained, and nothing else can. -/
theorem obtained_iff {stored : Stored} : Obtained stored ↔ stored.Consistent := by
  constructor
  · intro obtained
    induction obtained with
    | unshaped dtype => exact ⟨rfl, rfl⟩
    | written writes => exact writes.consistent
    | step before edit ih => exact ih.step edit
  · intro consistent
    obtain ⟨⟨⟨dtype, elements⟩, shape, sized⟩, rfl⟩ := consistent_iff.mp consistent
    cases shape with
    | none =>
        have empty : elements = [] := List.length_eq_zero_iff.mp sized
        subst empty
        exact .unshaped dtype
    | some shape =>
        have built := step_ofElements_of_length (unshaped dtype) sized
        have obtained := (Obtained.unshaped dtype).step (.ofElements dtype elements shape)
        rw [built] at obtained
        exact obtained

/-- The fields of every tensor that is built by steps or written by an operation agree, so they are
read and written at the recorded type only, a new shape keeps the elements or gives zeros, and a
step that fails writes nothing. Reading and stepping on the fields is reading and stepping on
tensors, and an operation leaves each of its outputs or writes it.
-/
theorem obtained_sound
    : (∀ stored, Obtained stored → stored.Sound)
      ∧ (∀ tensor : Tensor,
          (∀ dtype, tensor.stored.data dtype = tensor.data dtype)
          ∧ ∀ edit,
              tensor.stored.step edit = ((tensor.edit edit).2, (tensor.edit edit).1.stored))
      ∧ (∀ (dtype : DType) (edits : List Tensor.Edit),
          (unshaped dtype).steps edits = ((Tensor.unshaped dtype).edits edits).stored
          ∧ Obtained ((unshaped dtype).steps edits))
      ∧ ∀ (op : Op) (outputs inputs : List Tensor) (evaluation : Evaluation),
          op.evaluate outputs inputs = .ok evaluation
          → ∀ (place : Nat) (result : Tensor),
              evaluation.outputs[place]? = some result
              → outputs[place]? = some result ∨ op.Writes inputs result.stored := by
  refine ⟨?_, fun tensor => ⟨fun _ => rfl, step_stored tensor⟩, ?_, ?_⟩
  · intro stored obtained
    exact (obtained_iff.mp obtained).sound
  · intro dtype edits
    refine ⟨steps_stored (.unshaped dtype) edits, obtained_iff.mpr ?_⟩
    exact (Tensor.unshaped dtype).consistent_stored.steps edits
  · intro op outputs inputs evaluation evaluated place result found
    exact Op.evaluate_writes evaluated found

/-- A list in which an element was written keeps it under a shape of as many elements and loses it
under another. The sum of a list is written.
-/
theorem obtained_sound_reshaped
    : ∃ stored,
        Obtained stored
        ∧ stored.Sound
        ∧ stored.data .i32 = .ok [1, 7, 3]
        ∧ (stored.step (.setShape ⟨[1, 3]⟩)).2.data .i32 = .ok [1, 7, 3]
        ∧ (stored.step (.setShape ⟨[2]⟩)).2.data .i32 = .ok [0, 0]
        ∧ Op.Writes [Graph.oneTwoThree] (.reduction (sumOver 0))
            ⟨.i32, some .scalar, ⟨.i32, [6]⟩⟩ := by
  obtain ⟨sound, -, built, written⟩ := obtained_sound
  have obtained := (built .i32 [.ofElements .i32 [1, 2, 3] ⟨[3]⟩, .write .i32 1 7]).2
  refine ⟨_, obtained, sound _ obtained, rfl, rfl, rfl, ?_⟩
  have evaluated
      : Op.evaluate (.reduction (sumOver 0)) [.unshaped .i32] [Graph.oneTwoThree]
        = .ok ⟨true, [.scalar .i32 6]⟩ :=
    rfl
  exact (written _ _ _ _ evaluated 0 _ rfl).resolve_left (by decide)

end Stored

end TensorGraph
