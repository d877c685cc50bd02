import TensorGraph.Graph.Interceptor
import TensorGraph.Graph.Order

/-! Evaluation of a graph under bindings of its parameters.

The nodes are evaluated one at a time, each after its inputs. A node is first offered to the
interceptors; its own operation evaluates it if none of them claims it.
-/

namespace TensorGraph.Graph

/-- A tensor for each parameter; of several tensors for one parameter the first counts. -/
abbrev Bindings := List (NodeId × Tensor)

/-- The output tensors of the nodes evaluated so far. -/
abbrev Values := NodeId → Option (List Tensor)

namespace Values

def none : Values :=
  fun _ => .none

def set (values : Values) (id : NodeId) (outputs : List Tensor) : Values :=
  fun other => if other = id then some outputs else values other

/-- The tensor of an output of an evaluated node. -/
def get (values : Values) (output : Output) : Except GraphError Tensor :=
  match (values output.node).bind fun outputs => outputs[output.index]? with
  | some tensor => .ok tensor
  | .none => .error (.invalidOutput output)

end Values

/-- The offers made to interceptors, and how it ended. -/
structure Run (α : Type) where
  offers : List Offer
  outcome : Except (Failure GraphError) α

/-- Only parameters can be bound. -/
def checkBindings (graph : Graph) : Bindings → Except GraphError Unit
  | [] => .ok ()
  | (id, _) :: rest => do
      let node ← graph.node id
      if node.op.parameterDesc?.isNone then
        let idText := id.render
        .error (.other s!"node {idText} is not a parameter")
      else graph.checkBindings rest

/-- What a bound tensor is in the text of an error. -/
def describe (tensor : Tensor) : String :=
  match tensor.desc? with
  | some desc => desc.render
  | none => tensor.dtype.name ++ " with no shape"

/-- The tensor bound to a parameter, which must be as declared. -/
def bound (bindings : Bindings) (id : NodeId) (declared : TensorDesc)
    : Except GraphError Tensor :=
  match bindings.find? fun binding => binding.1 = id with
  | none => .error (.missingParameter id)
  | some (_, value) =>
      if value.desc? = some declared then .ok value
      else .error (.parameterMismatch id declared.render (describe value))

/-- The error for a node that no one could evaluate. -/
def unevaluated (node : Node) (inputs : List Tensor) : GraphError :=
  let op := node.op.opType.render
  match inputs.head?.map Tensor.dtype <|> node.outputs.head?.map TensorDesc.dtype with
  | some dtype => .unsupportedType op dtype
  | none => .other s!"{op} could not be evaluated"

/-- The output tensors of a node before it is evaluated. -/
def unshapedOutputs (node : Node) : List Tensor :=
  node.outputs.map fun desc => .unshaped desc.dtype

/-- Evaluates a node from the tensors of its inputs. -/
def evaluateNode (interceptors : List Interceptor) (node : Node) (inputs : List Tensor)
    : Run (List Tensor) :=
  let (offers, intercepted) :=
    Interceptor.offer node inputs interceptors (unshapedOutputs node)
  let refused : Except (Failure GraphError) (List Tensor) :=
    .error (.error (unevaluated node inputs))
  match intercepted with
  | .error fault => ⟨offers, .error (.fault fault)⟩
  | .ok ⟨outputs, some handled⟩ => ⟨offers, if handled then .ok outputs else refused⟩
  | .ok ⟨outputs, none⟩ =>
      match node.op.evaluate outputs inputs with
      | .error fault => ⟨offers, .error (.fault fault)⟩
      | .ok ⟨handled, evaluated⟩ => ⟨offers, if handled then .ok evaluated else refused⟩

/-- The output tensors of a node: the bound one of a parameter, else the evaluated ones. -/
def nodeValues (graph : Graph) (interceptors : List Interceptor) (bindings : Bindings)
    (values : Values) (id : NodeId)
    : Run (List Tensor) :=
  match graph.node id with
  | .error cause => ⟨[], .error (.error cause)⟩
  | .ok node =>
      match node.op.parameterDesc? with
      | some declared =>
          ⟨[], orFailure ((bound bindings id declared).map fun value => [value])⟩
      | none =>
          match node.inputs.mapM values.get with
          | .error cause => ⟨[], .error (.error cause)⟩
          | .ok inputs => evaluateNode interceptors node inputs

/-- Evaluates nodes in order, up to the first that fails. -/
def evaluateAll (graph : Graph) (interceptors : List Interceptor) (bindings : Bindings)
    : (order : List NodeId) → Values → Run Values
  | [], values => ⟨[], .ok values⟩
  | id :: rest, values =>
      let evaluated := graph.nodeValues interceptors bindings values id
      match evaluated.outcome with
      | .error failure => ⟨evaluated.offers, .error failure⟩
      | .ok outputs =>
          let later := graph.evaluateAll interceptors bindings rest (values.set id outputs)
          ⟨evaluated.offers ++ later.offers, later.outcome⟩

/-- Evaluates the results of a graph, one tensor for each, with the given interceptors. -/
def execute (graph : Graph) (interceptors : List Interceptor) (bindings : Bindings)
    : Run (List Tensor) :=
  match graph.checkBindings bindings with
  | .error cause => ⟨[], .error (.error cause)⟩
  | .ok () =>
      let evaluated := graph.evaluateAll interceptors bindings graph.topologicalOrder .none
      ⟨evaluated.offers,
        match evaluated.outcome with
        | .error failure => .error failure
        | .ok values => orFailure (graph.results.mapM values.get)⟩

end TensorGraph.Graph
