import TensorGraph.Graph.Relink

/-! The operations that change a graph, in place.

Each operation is a series of steps on the graph, in the order in which they are made. An error or
a fault ends the series where it is, and nothing undoes the steps before it.
-/

namespace TensorGraph.Graph

/-- A series of steps on a graph. -/
abbrev Change (α : Type) :=
  ExceptT (Failure GraphError) (StateM Graph) α

namespace Change

/-- How a change of a graph ends, and the graph then. -/
def apply {α : Type} (change : Change α) (graph : Graph)
    : Except (Failure GraphError) α × Graph :=
  change.run.run graph

/-- A step that may be refused and changes nothing. -/
def check {α : Type} (outcome : Except GraphError α) : Change α :=
  MonadExcept.ofExcept (orFailure outcome)

/-- A step that is refused. -/
def refuse {α : Type} (cause : GraphError) : Change α :=
  throw (.error cause)

/-- Takes a generated name of a type into use. -/
def takeName (type : String) : Change String := do
  let graph ← get
  let (names, name) := graph.names.fresh type
  set { graph with names := names }
  pure name

/-- Appends an operation under a generated name. The operation records what is inferred before it
has a node.
-/
def add (op : Op) (inputs : List Output) : Change NodeId := do
  let graph ← get
  let seen ← check (inputs.mapM graph.inferenceInput)
  let (inferred, recorded) := op.inferInPlace seen
  let outputs ← check inferred
  let name ← takeName recorded.opType.name
  let id := graph.nodes.length
  modify fun graph =>
    { graph with nodes := graph.nodes ++ [⟨id, name, recorded, inputs, outputs⟩] }
  pure id

/-- Appends a node with the attributes of another one. -/
def clone (id : NodeId) (inputs : List Output) : Change NodeId := do
  let graph ← get
  let node ← check (graph.node id)
  if inputs.length ≠ node.inputs.length then
    refuse (.argumentCount node.op.opType.render node.inputs.length inputs.length)
  else add node.op.fresh inputs

/-- Appends a constant that holds the value that a node has when nothing flows into it. -/
def addDefault (id : NodeId) : Change NodeId := do
  let graph ← get
  let node ← check (graph.node id)
  match node.outputs with
  | [] => refuse (.invalidOutput (.first id))
  | desc :: _ =>
      match ← MonadExcept.ofExcept (orFault (node.op.defaultValue desc)) with
      | none => refuse (.noDefaultValue node.op.opType.render)
      | some value => add (.constant value) []

/-- Renames a node: the table of names first, then the node. -/
def setName (id : NodeId) (name : String) : Change Unit := do
  let graph ← get
  let node ← check (graph.node id)
  if node.name = name then pure ()
  else if name ∈ graph.names.used then refuse (.duplicateName name)
  else
    modify fun graph => { graph with names := graph.names.rename node.name name }
    modify fun graph =>
      { graph with nodes := graph.nodes.modify id fun node => { node with name := name } }

/-- Marks an output as a result. -/
def addResult (output : Output) : Change Unit := do
  let graph ← get
  let _ ← check (graph.outputDesc output)
  modify fun graph => { graph with results := graph.results ++ [output] }

/-- Redirects the uses of an output: the edges first, then the results. -/
def replaceUses (old new : Output) : Change Nat := do
  let graph ← get
  let oldDesc ← check (graph.outputDesc old)
  let newDesc ← check (graph.outputDesc new)
  if oldDesc ≠ newDesc then refuse (mismatched old new oldDesc newDesc)
  else
    match (graph.ancestors new.node).find? (graph.reads old) with
    | some reader => refuse (cycleThrough old new reader)
    | none =>
        modify fun graph => { graph with nodes := graph.nodes.map (redirectNode old new) }
        modify fun graph => { graph with results := redirect old new graph.results }
        pure ((graph.redirectable new).count old)

end Change

end TensorGraph.Graph
