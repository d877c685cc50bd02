import TensorGraph.Graph.Basic

/-! Evaluators that may take a node over from its own operation.

A node is offered to the interceptors in order, until one claims it. An interceptor may write to
the outputs even if it does not claim the node.
-/

namespace TensorGraph

/-- What an interceptor leaves in the outputs, and its claim: that it filled them in, that nobody
can, or none.
-/
structure Interception where
  outputs : List Tensor
  claim : Option Bool

/-- An evaluator with a name. It sees the node, the outputs as they stand and the inputs. -/
structure Interceptor where
  name : String
  tryEvaluate : Node → (outputs inputs : List Tensor) → Except Fault Interception

/-- A record that a node was offered to an interceptor. -/
structure Offer where
  interceptor : String
  node : NodeId
  inputs : Nat
  deriving DecidableEq, Repr

namespace Interceptor

/-- Offers a node to the interceptors in order, until one claims it; gives the offers made and
what the last one left.
-/
def offer (node : Node) (inputs : List Tensor)
    : List Interceptor → (outputs : List Tensor) → List Offer × Except Fault Interception
  | [], outputs => ([], .ok ⟨outputs, none⟩)
  | interceptor :: rest, outputs =>
      let made : Offer := ⟨interceptor.name, node.id, inputs.length⟩
      match interceptor.tryEvaluate node outputs inputs with
      | .error fault => ([made], .error fault)
      | .ok ⟨written, none⟩ =>
          let (later, outcome) := offer node inputs rest written
          (made :: later, outcome)
      | .ok ⟨written, some handled⟩ => ([made], .ok ⟨written, some handled⟩)

end Interceptor

end TensorGraph
