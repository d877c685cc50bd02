import TensorGraph.Graph.NameTable
import TensorGraph.Graph.Op

/-! Graphs of operations.

Nodes are only ever appended, and the id of a node is its place. A node enters the graph after
inference accepted its inputs; later only its input edges and its name can change.
-/

namespace TensorGraph

/-- An operation with the outputs that it reads and the descriptors of its own outputs. -/
structure Node where
  id : NodeId
  name : String
  op : Op
  inputs : List Output
  outputs : List TensorDesc

/-- Nodes, the outputs marked as results, and the names in use. -/
structure Graph where
  nodes : List Node
  results : List Output
  names : NameTable

namespace Graph

def empty : Graph :=
  ⟨[], [], .empty⟩

/-- The number of nodes, needed by a result or not. -/
def size (graph : Graph) : Nat :=
  graph.nodes.length

def isEmpty (graph : Graph) : Bool :=
  graph.nodes.isEmpty

/-- The node at a place. -/
def node (graph : Graph) (id : NodeId) : Except GraphError Node :=
  match graph.nodes[id]? with
  | some node => .ok node
  | none => .error (.invalidNode id)

/-- The id of the node at a place. -/
def nodeId (graph : Graph) (index : Nat) : Except GraphError NodeId :=
  (graph.node index).map fun _ => index

/-- A reference to an output of a node, if the node has that output. -/
def nodeOutput (graph : Graph) (id : NodeId) (index : Nat) : Except GraphError (Option Output) :=
  (graph.node id).map fun node =>
    if index < node.outputs.length then some ⟨node.id, index⟩ else none

/-- The inferred descriptor of an output. -/
def outputDesc (graph : Graph) (output : Output) : Except GraphError TensorDesc :=
  match graph.node output.node with
  | .error cause => .error cause
  | .ok node =>
      match node.outputs[output.index]? with
      | some desc => .ok desc
      | none => .error (.invalidOutput output)

/-- The value of an output that is the first one of a constant. -/
def constantValue? (graph : Graph) (output : Output) : Option Tensor :=
  if output.index ≠ 0 then none
  else graph.nodes[output.node]?.bind fun node => node.op.constantValue?

-----------------------------------------------------------------------------------------
-- Adding nodes
-----------------------------------------------------------------------------------------

/-- What inference sees of an output. -/
def inferenceInput (graph : Graph) (output : Output) : Except GraphError InferenceInput :=
  (graph.outputDesc output).map fun desc => ⟨desc, graph.constantValue? output⟩

/-- Appends an operation under a generated name, if inference accepts its inputs. -/
def add (graph : Graph) (op : Op) (inputs : List Output) : Except GraphError (Graph × NodeId) := do
  let seen ← inputs.mapM graph.inferenceInput
  let (inferred, outputs) ← op.infer seen
  let (names, name) := graph.names.fresh op.opType.name
  let id := graph.nodes.length
  .ok (⟨graph.nodes ++ [⟨id, name, inferred, inputs, outputs⟩], graph.results, names⟩, id)

/-- Appends a graph input. -/
def addParameter (graph : Graph) (desc : TensorDesc) : Except GraphError (Graph × NodeId) :=
  graph.add (.parameter desc) []

/-- Appends a fixed value. -/
def addConstant (graph : Graph) (value : Tensor) : Except GraphError (Graph × NodeId) :=
  graph.add (.constant value) []

/-- Appends a node with the attributes of another one and inputs of its own, as many as the other
one has.
-/
def cloneNode (graph : Graph) (id : NodeId) (inputs : List Output)
    : Except GraphError (Graph × NodeId) := do
  let node ← graph.node id
  if inputs.length ≠ node.inputs.length then
    .error (.argumentCount node.op.opType.render node.inputs.length inputs.length)
  else graph.add node.op.fresh inputs

/-- Appends a constant that holds the value that a node has when nothing flows into it. -/
def addDefault (graph : Graph) (id : NodeId) : Except (Failure GraphError) (Graph × NodeId) := do
  let node ← orFailure (graph.node id)
  match node.outputs with
  | [] => .error (.error (.invalidOutput (.first id)))
  | desc :: _ =>
      match node.op.defaultValue desc with
      | .error fault => .error (.fault fault)
      | .ok none => .error (.error (.noDefaultValue node.op.opType.render))
      | .ok (some value) => orFailure (graph.addConstant value)

-----------------------------------------------------------------------------------------
-- Names and results
-----------------------------------------------------------------------------------------

/-- Renames a node. A name in use is refused unless it is the node's own. -/
def setName (graph : Graph) (id : NodeId) (name : String) : Except GraphError Graph := do
  let node ← graph.node id
  if node.name = name then .ok graph
  else if name ∈ graph.names.used then .error (.duplicateName name)
  else
    .ok ⟨graph.nodes.modify id fun node => { node with name := name },
      graph.results, graph.names.rename node.name name⟩

/-- The first node with a name. -/
def findByName? (graph : Graph) (name : String) : Option NodeId :=
  (graph.nodes.find? fun node => node.name = name).map Node.id

/-- Marks an output as a result, after the earlier ones. -/
def addResult (graph : Graph) (output : Output) : Except GraphError Graph := do
  let _ ← graph.outputDesc output
  .ok { graph with results := graph.results ++ [output] }

-----------------------------------------------------------------------------------------
-- Views
-----------------------------------------------------------------------------------------

/-- The ids of the nodes that satisfy a condition, in the order of the nodes. -/
def nodesWhere (graph : Graph) (condition : Node → Bool) : List NodeId :=
  (graph.nodes.filter condition).map Node.id

/-- The graph inputs. -/
def parameters (graph : Graph) : List NodeId :=
  graph.nodesWhere fun node => node.op.parameterDesc?.isSome

/-- The nodes that read some output of a node. -/
def consumers (graph : Graph) (id : NodeId) : List NodeId :=
  graph.nodesWhere fun node => node.inputs.any fun input => input.node = id

end Graph

end TensorGraph
