import TensorGraph.DType
import TensorGraph.Sequence

/-! Why a tensor operation refuses its arguments, and the text that says so. -/

namespace TensorGraph

/-- A refused tensor operation. -/
inductive TensorError
  | shapeMismatch (expected got : List Nat)
  | dtypeMismatch (expected got : DType)
  | invalidAxis (axis : Int64) (rank : Nat)
  | lengthMismatch (expected got : Nat)
  | shapeUnset
  | unsupportedDType (reason : String)
  | other (reason : String)
  deriving DecidableEq, Repr

namespace TensorError

def message : TensorError → String
  | shapeMismatch expected got =>
      s!"shape mismatch: expected {bracketed expected}, got {bracketed got}"
  | dtypeMismatch expected got =>
      s!"dtype mismatch: expected {expected.name}, got {got.name}"
  | invalidAxis axis rank =>
      s!"invalid axis {axis.toInt} for tensor with {rank} dimensions"
  | lengthMismatch expected got =>
      s!"buffer length mismatch: expected {expected} elements, got {got}"
  | shapeUnset => "tensor shape is not set"
  | unsupportedDType reason => "unsupported dtype: " ++ reason
  | other reason => reason

end TensorError

end TensorGraph
