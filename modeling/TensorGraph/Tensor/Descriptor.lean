import TensorGraph.Shape

/-! Element type and shape of a tensor, known without its elements. -/

namespace TensorGraph

/-- What is known of a tensor before its elements are computed. -/
structure TensorDesc where
  dtype : DType
  shape : Shape
  deriving DecidableEq, Repr

namespace TensorDesc

def render (desc : TensorDesc) : String :=
  desc.dtype.name ++ desc.shape.render

end TensorDesc

end TensorGraph
