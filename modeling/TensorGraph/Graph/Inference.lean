import TensorGraph.Graph.Error
import TensorGraph.Tensor.Basic

/-! What operations have in common: their type tags, what inference sees of their inputs, and the
outcome of an evaluation.
-/

namespace TensorGraph

/-- The name of an operation and the version of the set of operations that it belongs to. -/
structure OpType where
  name : String
  version : Nat
  deriving DecidableEq, Repr

namespace OpType

def render (info : OpType) : String :=
  "v" ++ toString info.version ++ "::" ++ info.name

/-- The error of an operation whose inputs do not fit. -/
def shapeError (info : OpType) (reason : String) : GraphError :=
  .shapeInference info.render reason

/-- Checks that the number of inputs lies between two bounds. -/
def checkInputCount (info : OpType) (least most got : Nat) : Except GraphError Unit :=
  if least ≤ got ∧ got ≤ most then .ok ()
  else
    let expected :=
      if least = most then toString least else toString least ++ " to " ++ toString most
    .error (info.shapeError s!"expected {expected} inputs, got {got}")

end OpType

/-- What inference sees of an input: its descriptor, and its value if that is constant. -/
structure InferenceInput where
  desc : TensorDesc
  constant : Option Tensor

/-- The output tensors after an evaluation, and whether the operation filled them in. -/
structure Evaluation where
  handled : Bool
  outputs : List Tensor

/-- An evaluation that leaves the outputs as they were. -/
def Evaluation.declined (outputs : List Tensor) : Evaluation :=
  ⟨false, outputs⟩

end TensorGraph
