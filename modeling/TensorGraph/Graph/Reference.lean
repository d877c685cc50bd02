/-! References to the nodes of a graph and to their outputs. -/

namespace TensorGraph

/-- The place of a node in its graph. -/
abbrev NodeId := Nat

namespace NodeId

def render (id : NodeId) : String :=
  "#" ++ toString id

end NodeId

/-- One output of a node. -/
structure Output where
  node : NodeId
  index : Nat
  deriving DecidableEq, Repr

namespace Output

/-- The first output of a node. -/
def first (node : NodeId) : Output :=
  ⟨node, 0⟩

def render (output : Output) : String :=
  NodeId.render output.node ++ ":" ++ toString output.index

end Output

end TensorGraph
