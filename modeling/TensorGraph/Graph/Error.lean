import TensorGraph.Graph.Reference
import TensorGraph.Tensor.Error

/-! Why an operation on a graph is refused, and the text that says so. -/

namespace TensorGraph

/-- A refused operation on a graph. -/
inductive GraphError
  | shapeInference (op reason : String)
  | argumentCount (op : String) (expected got : Nat)
  | unsupportedType (op : String) (dtype : DType)
  | invalidNode (node : NodeId)
  | invalidOutput (output : Output)
  | duplicateName (name : String)
  | parameterMismatch (node : NodeId) (expected got : String)
  | missingParameter (node : NodeId)
  | noDefaultValue (op : String)
  | tensor (cause : TensorError)
  | other (reason : String)
  deriving DecidableEq, Repr

namespace GraphError

def message : GraphError → String
  | shapeInference op reason => s!"shape inference failed for {op}: {reason}"
  | argumentCount op expected got => s!"{op} expects {expected} inputs, got {got}"
  | unsupportedType op dtype => s!"{op} has no kernel for element type {dtype.name}"
  | invalidNode node => s!"node {node.render} does not exist"
  | invalidOutput output => s!"output {output.render} does not exist"
  | duplicateName name => "node name '" ++ name ++ "' is already in use"
  | parameterMismatch node expected got =>
      s!"parameter {node.render} expects {expected}, got {got}"
  | missingParameter node => s!"no value bound for parameter {node.render}"
  | noDefaultValue op => s!"{op} has no default value"
  | tensor cause => "tensor error: " ++ cause.message
  | other reason => reason

end GraphError

end TensorGraph
