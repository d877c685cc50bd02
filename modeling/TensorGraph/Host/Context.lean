import TensorGraph.Graph.Preparation
import TensorGraph.Host.Status

/-! The graph that a host program builds, and the operations on it by raw indices and bytes. -/

namespace TensorGraph.Host

/-- A graph under construction with the configuration of its preparation. -/
structure Context where
  graph : Graph
  config : Graph.Config

namespace Context

/-- A context with an empty graph. -/
def create (config : Graph.Config) : Context :=
  ⟨.empty, config⟩

/-- A reference to an output that exists. -/
def output (context : Context) (node index : Nat) : Except GraphError Output := do
  let id ← context.graph.nodeId node
  let _ ← context.graph.outputDesc ⟨id, index⟩
  .ok ⟨id, index⟩

/-- The descriptor of an output that exists. -/
def outputDesc (context : Context) (node index : Nat) : Except GraphError TensorDesc := do
  let output ← context.output node index
  context.graph.outputDesc output

/-- A binding of a node to the tensor of its first output's descriptor with the given byte image.
-/
def bind (context : Context) (node : Nat) (bytes : Bytes)
    : Except GraphError (NodeId × Tensor) := do
  let id ← context.graph.nodeId node
  let desc ← context.graph.outputDesc (.first id)
  let value ← (Tensor.ofBytes desc.dtype desc.shape bytes).mapError .tensor
  .ok (id, value)

/-- The result tensors under bindings. -/
def execute (context : Context) (bindings : Graph.Bindings)
    : Except (Failure GraphError) (List Tensor) :=
  (context.graph.execute [] bindings).outcome

end Context

end TensorGraph.Host
