import TensorGraph.Graph.InPlace
import TensorGraph.Graph.Preparation

/-! The operations that change a graph, as data, and the graphs that they reach. -/

namespace TensorGraph.Graph

/-- An operation that changes a graph. -/
inductive Command
  | parameter (desc : TensorDesc)
  | constant (value : Tensor)
  | add (op : Op) (inputs : List Output)
  | clone (id : NodeId) (inputs : List Output)
  | addDefault (id : NodeId)
  | replaceUses (old new : Output)
  | setName (id : NodeId) (name : String)
  | addResult (output : Output)
  | foldConstants
  | eliminateEmpty
  | prepare (config : Config)

/-- What a command that succeeds reports. -/
inductive Reply
  | done
  | node (id : NodeId)
  | count (number : Nat)
  deriving DecidableEq, Repr

/-- A graph after a command, and what the command reports or how it failed. -/
structure Step where
  graph : Graph
  outcome : Except (Failure GraphError) Reply

namespace Step

/-- A change of the graph in place, with what it reports if it comes to its end. -/
def ofChange {α : Type} (graph : Graph) (reply : α → Reply) (change : Change α) : Step :=
  let (outcome, changed) := change.apply graph
  ⟨changed, outcome.map reply⟩

/-- A simplification. The changes made before it failed stay. -/
def ofSimplification (simplified : Simplification) : Step :=
  ⟨simplified.graph, simplified.outcome.map .count⟩

end Step

/-- Performs a command. -/
def perform (graph : Graph) : Command → Step
  | .parameter desc => .ofChange graph .node (.add (.parameter desc) [])
  | .constant value => .ofChange graph .node (.add (.constant value) [])
  | .add op inputs => .ofChange graph .node (.add op inputs)
  | .clone id inputs => .ofChange graph .node (.clone id inputs)
  | .addDefault id => .ofChange graph .node (.addDefault id)
  | .replaceUses old new => .ofChange graph .count (.replaceUses old new)
  | .setName id name => .ofChange graph (fun () => .done) (.setName id name)
  | .addResult output => .ofChange graph (fun () => .done) (.addResult output)
  | .foldConstants => .ofSimplification graph.foldConstants
  | .eliminateEmpty => .ofSimplification graph.eliminateEmpty
  | .prepare config => .ofSimplification (graph.prepare config)

/-- The graph after a sequence of commands, whether they succeed or fail. -/
def performAll (graph : Graph) (commands : List Command) : Graph :=
  commands.foldl (fun current command => (current.perform command).graph) graph

/-- A graph that some sequence of commands builds from nothing. -/
def Reachable (graph : Graph) : Prop :=
  ∃ commands, empty.performAll commands = graph

/-- Which outputs may lose their uses by a command to replace them, depending on the graph. -/
abbrev Replaceable := Graph → Output → Prop

/-- Every output is replaceable except that of a constant. -/
def sparesConstants : Replaceable :=
  fun graph old => graph.constantValue? old = none

/-- A command to replace uses is admitted where its old output is replaceable; other commands
always are.
-/
def Command.Admitted (replaceable : Replaceable) (graph : Graph) : Command → Prop
  | .replaceUses old _ => replaceable graph old
  | _ => True

/-- A graph that some sequence of admitted commands builds from nothing. -/
inductive ReachableBy (replaceable : Replaceable) : Graph → Prop
  | empty : ReachableBy replaceable .empty
  | perform {graph : Graph} {command : Command} (before : ReachableBy replaceable graph)
    (admitted : command.Admitted replaceable graph)
    : ReachableBy replaceable (graph.perform command).graph

end TensorGraph.Graph
