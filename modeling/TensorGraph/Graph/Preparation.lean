import TensorGraph.Graph.Execution
import TensorGraph.Graph.Relink

/-! Simplification of a graph before it runs.

Nodes that can be computed from constants alone are replaced by constants, and so are reductions of
data without elements. Replaced nodes stay in the graph, but the results no longer need them. A
simplification that fails keeps the changes made until then.
-/

namespace TensorGraph.Graph

/-- A graph after a simplification, and the number of nodes replaced or how it failed. -/
structure Simplification where
  graph : Graph
  outcome : Except (Failure GraphError) Nat

/-- Appends a constant for each tensor and redirects the uses of the node's outputs to them, the
output number `index` being the first.
-/
def replaceOutputs (graph : Graph) (id : NodeId) (index : Nat)
    : List Tensor → Graph × Except GraphError Unit
  | [] => (graph, .ok ())
  | value :: rest =>
      match graph.addConstant value with
      | .error cause => (graph, .error cause)
      | .ok (extended, replacement) =>
          match extended.replaceUses ⟨id, index⟩ (.first replacement) with
          | .error cause => (extended, .error cause)
          | .ok (relinked, _) => relinked.replaceOutputs id (index + 1) rest

/-- Whether a tensor is as inferred. -/
def agrees (value : Tensor) (desc : TensorDesc) : Bool :=
  value.desc? = some desc

/-- The output tensors of a node whose inputs are all constant, if it has inputs, can be evaluated
and gives what was inferred.
-/
def foldedOutputs (graph : Graph) (id : NodeId)
    : Except (Failure GraphError) (Option (List Tensor)) :=
  match graph.node id with
  | .error cause => .error (.error cause)
  | .ok node =>
      if node.inputs.isEmpty then .ok none
      else
        match node.inputs.mapM graph.constantValue? with
        | none => .ok none
        | some inputs =>
            match node.op.evaluate (unshapedOutputs node) inputs with
            | .error fault => .error (.fault fault)
            | .ok ⟨handled, outputs⟩ =>
                if handled && (outputs.zip node.outputs).all fun (value, desc) => agrees value desc
                then .ok (some outputs)
                else .ok none

/-- Folds the given nodes in order, after `count` earlier ones. -/
def foldNodes (graph : Graph) (count : Nat) : List NodeId → Simplification
  | [] => ⟨graph, .ok count⟩
  | id :: rest =>
      match graph.foldedOutputs id with
      | .error failure => ⟨graph, .error failure⟩
      | .ok none => graph.foldNodes count rest
      | .ok (some outputs) =>
          match graph.replaceOutputs id 0 outputs with
          | (relinked, .error cause) => ⟨relinked, .error (.error cause)⟩
          | (relinked, .ok ()) => relinked.foldNodes (count + 1) rest

/-- Replaces every needed node with constant inputs by constants. -/
def foldConstants (graph : Graph) : Simplification :=
  graph.foldNodes 0 graph.topologicalOrder

/-- Whether the first input of a node has no elements while the node has a value over none. -/
def reducesNothing (graph : Graph) (id : NodeId) : Except (Failure GraphError) Bool := do
  let node ← orFailure (graph.node id)
  match node.inputs, node.outputs with
  | data :: _, desc :: _ =>
      let dataDesc ← orFailure (graph.outputDesc data)
      if dataDesc.shape.count ≠ 0 then .ok false
      else (orFault (node.op.defaultValue desc)).map Option.isSome
  | _, _ => .ok false

/-- Replaces those of the given nodes that reduce nothing, in order, after `count` earlier ones. -/
def eliminateNodes (graph : Graph) (count : Nat) : List NodeId → Simplification
  | [] => ⟨graph, .ok count⟩
  | id :: rest =>
      match graph.reducesNothing id with
      | .error failure => ⟨graph, .error failure⟩
      | .ok false => graph.eliminateNodes count rest
      | .ok true =>
          match graph.addDefault id with
          | .error failure => ⟨graph, .error failure⟩
          | .ok (extended, replacement) =>
              match extended.replaceUses (.first id) (.first replacement) with
              | .error cause => ⟨extended, .error (.error cause)⟩
              | .ok (relinked, _) => relinked.eliminateNodes (count + 1) rest

/-- Replaces every needed reduction of data without elements by its value over none. -/
def eliminateEmpty (graph : Graph) : Simplification :=
  graph.eliminateNodes 0 graph.topologicalOrder

/-- Which simplifications a preparation makes. -/
structure Config where
  foldConstants : Bool := true
  eliminateEmpty : Bool := true
  deriving DecidableEq, Repr

namespace Config

/-- The preparation that changes nothing. -/
def disabled : Config :=
  ⟨false, false⟩

end Config

/-- Makes a simplification after an earlier one that succeeded, and adds up the counts. -/
def Simplification.andThen (first : Simplification) (next : Graph → Simplification)
    : Simplification :=
  match first.outcome with
  | .error _ => first
  | .ok count =>
      let second := next first.graph
      ⟨second.graph, second.outcome.map (count + ·)⟩

/-- Makes a simplification on condition. -/
def simplifyIf (enabled : Bool) (simplify : Graph → Simplification) (graph : Graph)
    : Simplification :=
  if enabled then simplify graph else ⟨graph, .ok 0⟩

/-- Makes the enabled simplifications: first empty reductions, then constants. -/
def prepare (graph : Graph) (config : Config) : Simplification :=
  (simplifyIf config.eliminateEmpty eliminateEmpty graph).andThen
    (simplifyIf config.foldConstants foldConstants)

end TensorGraph.Graph
