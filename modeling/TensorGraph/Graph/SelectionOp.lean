import TensorGraph.Graph.Inference
import TensorGraph.KernelTable
import TensorGraph.NonMaxSuppression.Selection

/-! The operation that selects boxes by non-max suppression.

Its inputs are boxes `[B, N, 4]` and scores `[B, C, N]` and up to four scalars: the number of
selections for each class, the overlap threshold, the score threshold and the width of the decay.
Its outputs are the selected indices `[M, 3]`, the selected scores `[M, 3]` and the number of
selections `[1]`. Inference gives an upper bound for `M`.
-/

namespace TensorGraph

open NonMaxSuppression

/-- A selection of boxes with its attributes. -/
structure SelectionOp where
  encoding : BoxEncoding
  sortDescending : Bool
  outputType : DType
  deriving DecidableEq, Repr

namespace SelectionOp

def opType : OpType :=
  ⟨"NonMaxSuppression", 5⟩

/-- The element types of boxes that can be evaluated, with their reading in single precision. -/
def kernels : KernelTable (Tensor → Except TensorError (List Binary32)) :=
  ⟨[(.bf16, Tensor.toSingles), (.f16, Tensor.toSingles), (.f32, Tensor.toSingles)]⟩

-----------------------------------------------------------------------------------------
-- Inference
-----------------------------------------------------------------------------------------

/-- Checks that an optional input is a scalar of a type that `allowed` admits. -/
def checkScalar (input : Option InferenceInput) (name : String) (allowed : DType → Bool)
    : Except GraphError Unit :=
  match input with
  | none => .ok ()
  | some ⟨desc, _⟩ =>
      let shape := desc.shape.render
      let dtype := desc.dtype.name
      if 1 < desc.shape.rank ∨ desc.shape.count ≠ 1 then
        .error (opType.shapeError s!"{name} must be a scalar, got shape {shape}")
      else if allowed desc.dtype then .ok ()
      else .error (opType.shapeError s!"{name} has unsupported element type {dtype}")

/-- The number of batches, classes and boxes that the first two inputs describe. -/
def extents (boxes scores : Shape) : Except GraphError (Nat × Nat × Nat) :=
  let boxesText := boxes.render
  let scoresText := scores.render
  match boxes.dims with
  | [batches, count, 4] =>
      match scores.dims with
      | [scoreBatches, labels, scoreCount] =>
          if scoreBatches = batches ∧ scoreCount = count then .ok (batches, labels, count)
          else
            .error (opType.shapeError
              s!"scores shape {scoresText} does not match boxes shape {boxesText}")
      | _ =>
          .error (opType.shapeError
            s!"scores shape {scoresText} does not match boxes shape {boxesText}")
  | _ =>
      .error (opType.shapeError
        ("boxes must have shape [batches, boxes, 4], got " ++ boxesText))

/-- The selections that one class can have: none without a limit, at most the limit where it is
constant, and at most every box.
-/
def perClass (limit : Option InferenceInput) (count : Nat) : Except GraphError Nat :=
  match limit with
  | none => .ok 0
  | some ⟨_, none⟩ => .ok count
  | some ⟨_, some value⟩ =>
      match value.scalarInt64 with
      | .error cause => .error (.tensor cause)
      | .ok most => .ok (Nat.min most.toNatClampNeg count)

/-- Checks the inputs and gives the outputs. The number of rows is computed in a machine word. -/
def infer (op : SelectionOp) (inputs : List InferenceInput)
    : Except GraphError (List TensorDesc) := do
  opType.checkInputCount 2 6 inputs.length
  let name := op.outputType.name
  if op.outputType ≠ .i32 ∧ op.outputType ≠ .i64 then
    .error (opType.shapeError s!"output_type must be i32 or i64, got {name}")
  else
    match inputs with
    | boxes :: scores :: _ =>
        let boxesName := boxes.desc.dtype.name
        let scoresName := scores.desc.dtype.name
        if !boxes.desc.dtype.isReal || !scores.desc.dtype.isReal then
          .error (opType.shapeError
            s!"boxes and scores must be floating point, got {boxesName} and {scoresName}")
        else
          let (batches, labels, count) ← extents boxes.desc.shape scores.desc.shape
          checkScalar inputs[2]? "max_output_boxes_per_class" DType.isIntegral
          checkScalar inputs[3]? "iou_threshold" DType.isReal
          checkScalar inputs[4]? "score_threshold" DType.isReal
          checkScalar inputs[5]? "soft_nms_sigma" DType.isReal
          let most ← perClass inputs[2]? count
          let rows := word (batches * labels * most)
          .ok [⟨op.outputType, ⟨[rows, 3]⟩⟩, ⟨.f32, ⟨[rows, 3]⟩⟩, ⟨op.outputType, ⟨[1]⟩⟩]
    | _ => .error (opType.shapeError "missing input descriptor")

-----------------------------------------------------------------------------------------
-- Evaluation
-----------------------------------------------------------------------------------------

/-- An optional scalar input in single precision; 0 if it is absent. -/
def realInput (inputs : List Tensor) (index : Nat) : Except TensorError Binary32 :=
  match inputs[index]? with
  | none => .ok (.zero false)
  | some tensor => tensor.scalarSingle

/-- The limit of selections for each class; 0 if it is absent or negative. -/
def limitInput (inputs : List Tensor) : Except TensorError Nat :=
  match inputs[2]? with
  | none => .ok 0
  | some tensor => tensor.scalarInt64.map Int64.toNatClampNeg

/-- The parameters of a selection on the given inputs. -/
def parameters (op : SelectionOp) (inputs : List Tensor) : Except TensorError Parameters := do
  let limit ← limitInput inputs
  let overlap ← realInput inputs 3
  let score ← realInput inputs 4
  let sigma ← realInput inputs 5
  .ok ⟨op.encoding, limit, overlap, score, sigma, op.sortDescending⟩

/-- Integers as a tensor of 32-bit elements where those are asked for, else of 64-bit elements.
-/
def integers (dtype : DType) (values : List Int64) (shape : Shape) : Except TensorError Tensor :=
  if dtype = .i32 then Tensor.ofElements .i32 (values.map Int64.toInt32) shape
  else Tensor.ofElements .i64 values shape

/-- The three outputs that report the selections. -/
def pack (op : SelectionOp) (selected : List Selected)
    : Except TensorError (Tensor × Tensor × Tensor) := do
  let rows : Shape := ⟨[selected.length, 3]⟩
  let indices ← integers op.outputType
    (selected.flatMap fun one => [.ofNat one.batch, .ofNat one.label, .ofNat one.index]) rows
  let scores ← Tensor.ofElements .f32
    (selected.flatMap fun one => [.ofNat one.batch, .ofNat one.label, one.score]) rows
  let valid ← integers op.outputType [.ofNat selected.length] ⟨[1]⟩
  .ok (indices, scores, valid)

/-- The outputs for boxes and scores, with the boxes read by `widen`. -/
def run (op : SelectionOp) (widen : Tensor → Except TensorError (List Binary32))
    (boxes scores : Tensor) (inputs : List Tensor)
    : Except (Failure TensorError) (Tensor × Tensor × Tensor) := do
  let parameters ← orFailure (op.parameters inputs)
  let boxValues ← orFailure (widen boxes)
  let boxShape ← orFailure boxes.staticShape
  let scoreValues ← orFailure scores.toSingles
  let scoreShape ← orFailure scores.staticShape
  let selected ← select boxValues boxShape.dims scoreValues scoreShape.dims parameters
  orFailure (op.pack selected)

/-- Replaces the first three outputs. -/
def evaluate (op : SelectionOp) (outputs inputs : List Tensor) : Except Fault Evaluation :=
  match inputs, outputs with
  | boxes :: scores :: _, _ :: _ :: _ :: rest =>
      match kernels.lookup boxes.dtype with
      | none => .ok (.declined outputs)
      | some widen =>
          match op.run widen boxes scores inputs with
          | .ok (indices, selectedScores, valid) =>
              .ok ⟨true, indices :: selectedScores :: valid :: rest⟩
          | .error (.error _) => .ok (.declined outputs)
          | .error (.fault fault) => .error fault
  | _, _ => .ok (.declined outputs)

end SelectionOp

end TensorGraph
