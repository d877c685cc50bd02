import TensorGraph.Graph.Inference
import TensorGraph.KernelTable
import TensorGraph.Reduction.Kind

/-! The reduction operations.

A reduction has two inputs: the data, and a constant that lists the axes. Inference resolves the
axes against the rank of the data and records them for the evaluation.
-/

namespace TensorGraph

/-- A reduction with its attribute and the axes that inference recorded. -/
structure ReductionOp where
  kind : Reduction.Kind
  keepDims : Bool
  axes : AxisSet := .empty
  deriving DecidableEq, Repr

namespace ReductionOp

-----------------------------------------------------------------------------------------
-- Properties of the kind of reduction
-----------------------------------------------------------------------------------------

def typeOf : Reduction.Kind → OpType
  | .l1 => ⟨"ReduceL1", 4⟩
  | .l2 => ⟨"ReduceL2", 4⟩
  | .sum => ⟨"ReduceSum", 1⟩
  | .mean => ⟨"ReduceMean", 1⟩
  | .prod => ⟨"ReduceProd", 1⟩
  | .max => ⟨"ReduceMax", 1⟩
  | .min => ⟨"ReduceMin", 1⟩
  | .logicalAnd => ⟨"ReduceLogicalAnd", 1⟩
  | .logicalOr => ⟨"ReduceLogicalOr", 1⟩

/-- The element types that a reduction evaluates. -/
def registered : Reduction.Kind → List DType
  | .l1 => [.i32, .i64, .bf16, .f16, .f32]
  | .l2 => [.bf16, .f16, .f32]
  | .sum | .mean | .prod | .max | .min => [.i32, .i64, .f16, .f32]
  | .logicalAnd | .logicalOr => [.boolean]

/-- The value that a reduction has over no elements; the mean has none. -/
def neutral? (kind : Reduction.Kind) {α : Type} (numeric : Numeric α) : Option α :=
  match kind with
  | .l1 | .l2 | .sum => some numeric.zero
  | .prod => some numeric.one
  | .max => some numeric.lowest
  | .min => some numeric.highest
  | .mean | .logicalAnd | .logicalOr => none

-----------------------------------------------------------------------------------------
-- Kernels on tensors
-----------------------------------------------------------------------------------------

/-- A reduction of a tensor into an output tensor over a set of axes. -/
abbrev TensorKernel :=
  (argument out : Tensor) → AxisSet → (keepDims : Bool) → Except (Failure TensorError) Tensor

/-- Runs a kernel on the elements of a tensor and gives the result the reduced shape. Of the
output tensor only the element type matters.
-/
def onTensors (dtype : DType) (kernel : Reduction.Kernel dtype.Element) : TensorKernel :=
  fun argument out axes keepDims => do
    if out.dtype ≠ dtype then .error (.error (.dtypeMismatch dtype out.dtype))
    else
      let shape ← orFailure argument.staticShape
      orFailure (Reduction.checkAxes shape axes)
      let elements ← orFailure (argument.data dtype)
      let blank ← orFault (Tensor.zeros dtype (shape.reduce axes keepDims))
      let room ← orFailure (blank.data dtype)
      let reduced ← kernel elements room shape axes keepDims
      orFailure (Tensor.ofElements dtype reduced (shape.reduce axes keepDims))

/-- The kernels of a reduction by element type. -/
def kernels (kind : Reduction.Kind) : KernelTable TensorKernel :=
  ⟨(registered kind).filterMap fun dtype =>
    (kind.kernel? dtype).map fun kernel => (dtype, onTensors dtype kernel)⟩

-----------------------------------------------------------------------------------------
-- The operation
-----------------------------------------------------------------------------------------

def opType (op : ReductionOp) : OpType :=
  typeOf op.kind

/-- The reduction without recorded axes. -/
def fresh (op : ReductionOp) : ReductionOp :=
  ⟨op.kind, op.keepDims, .empty⟩

/-- Arithmetic reductions take numbers and logical reductions take truth values. -/
def checkData (op : ReductionOp) (dtype : DType) : Except GraphError Unit :=
  let name := dtype.name
  if op.kind.isLogical then
    if dtype = .boolean then .ok ()
    else .error (op.opType.shapeError s!"data input must be boolean, got {name}")
  else if dtype.isNumeric then .ok ()
  else .error (op.opType.shapeError s!"data input must be numeric, got {name}")

/-- The list of axes is an integer scalar or an integer list. -/
def checkAxesInput (op : ReductionOp) (axes : TensorDesc) : Except GraphError Unit :=
  let name := axes.dtype.name
  let shape := axes.shape.render
  if !axes.dtype.isIntegral then
    .error (op.opType.shapeError s!"reduction axes must be integral, got {name}")
  else if 1 < axes.shape.rank then
    .error (op.opType.shapeError
      s!"reduction axes must be a scalar or 1D tensor, got {shape}")
  else .ok ()

/-- Words an axis out of range as an error of the operation. -/
def axisError (op : ReductionOp) : TensorError → GraphError
  | .invalidAxis axis rank =>
      let value := axis.toInt
      op.opType.shapeError s!"reduction axis {value} is out of range for rank {rank}"
  | cause => .tensor cause

/-- The axes that a constant names in data of the given rank. -/
def resolveAxes (op : ReductionOp) (constant : Option Tensor) (rank : Nat)
    : Except GraphError AxisSet :=
  match constant with
  | none => .error (op.opType.shapeError "reduction axes must be a constant")
  | some value =>
      match value.toInt64s with
      | .error cause => .error (.tensor cause)
      | .ok values => (AxisSet.normalize values rank).mapError op.axisError

/-- Checks the inputs; gives the reduction with its axes recorded and its output. -/
def infer (op : ReductionOp) (inputs : List InferenceInput)
    : Except GraphError (ReductionOp × List TensorDesc) := do
  op.opType.checkInputCount 2 2 inputs.length
  match inputs with
  | data :: axes :: _ =>
      op.checkData data.desc.dtype
      op.checkAxesInput axes.desc
      let resolved ← op.resolveAxes axes.constant data.desc.shape.rank
      .ok (⟨op.kind, op.keepDims, resolved⟩,
        [⟨data.desc.dtype, data.desc.shape.reduce resolved op.keepDims⟩])
  | _ => .error (op.opType.shapeError "missing input descriptor")

/-- The inference of the reduction that is the state: it is checked as it is, and the axes are
recorded last.
-/
def recordAxes (inputs : List InferenceInput)
    : ExceptT GraphError (StateM ReductionOp) (List TensorDesc) := do
  let op ← get
  MonadExcept.ofExcept (op.opType.checkInputCount 2 2 inputs.length)
  match inputs with
  | data :: axes :: _ =>
      MonadExcept.ofExcept (op.checkData data.desc.dtype)
      MonadExcept.ofExcept (op.checkAxesInput axes.desc)
      let resolved ←
        MonadExcept.ofExcept (op.resolveAxes axes.constant data.desc.shape.rank)
      set { op with axes := resolved }
      pure [⟨data.desc.dtype, data.desc.shape.reduce resolved op.keepDims⟩]
  | _ => throw (op.opType.shapeError "missing input descriptor")

/-- The outcome of an inference in place, and the reduction after it. -/
def inferInPlace (op : ReductionOp) (inputs : List InferenceInput)
    : Except GraphError (List TensorDesc) × ReductionOp :=
  (recordAxes inputs).run.run op

/-- A tensor of the described output that holds the value over no elements. -/
def defaultValue (op : ReductionOp) (output : TensorDesc) : Except Fault (Option Tensor) :=
  match output.dtype.numeric?.bind (neutral? op.kind) with
  | none => .ok none
  | some element => (Tensor.filled output.dtype element output.shape).map some

/-- Reduces the first input into the first output. -/
def evaluate (op : ReductionOp) (outputs inputs : List Tensor) : Except Fault Evaluation :=
  match inputs, outputs with
  | argument :: _, out :: rest =>
      match (kernels op.kind).lookup argument.dtype with
      | none => .ok (.declined outputs)
      | some kernel =>
          match kernel argument out op.axes op.keepDims with
          | .ok reduced => .ok ⟨true, reduced :: rest⟩
          | .error (.error _) => .ok (.declined outputs)
          | .error (.fault fault) => .error fault
  | _, _ => .ok (.declined outputs)

end ReductionOp

end TensorGraph
