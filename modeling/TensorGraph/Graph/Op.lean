import TensorGraph.Graph.ReductionOp
import TensorGraph.Graph.SelectionOp

/-! The operations that a node can have. -/

namespace TensorGraph

/-- An operation with its attributes and what inference recorded. -/
inductive Op
  /-- A graph input. Its value is bound when the graph runs. -/
  | parameter (desc : TensorDesc)
  /-- A fixed value. -/
  | constant (value : Tensor)
  | reduction (op : ReductionOp)
  | selection (op : SelectionOp)

namespace Op

def opType : Op → OpType
  | parameter _ => ⟨"Parameter", 0⟩
  | constant _ => ⟨"Constant", 0⟩
  | reduction op => op.opType
  | selection _ => SelectionOp.opType

/-- Checks the inputs; gives the operation with what inference recorded, and its outputs. -/
def infer (op : Op) (inputs : List InferenceInput)
    : Except GraphError (Op × List TensorDesc) :=
  match op with
  | parameter desc => do
      op.opType.checkInputCount 0 0 inputs.length
      .ok (op, [desc])
  | constant value => do
      op.opType.checkInputCount 0 0 inputs.length
      match value.desc? with
      | none => .error (op.opType.shapeError "constant value has no shape")
      | some desc => .ok (op, [desc])
  | reduction attributes =>
      (attributes.infer inputs).map fun (inferred, outputs) => (.reduction inferred, outputs)
  | selection attributes => (attributes.infer inputs).map fun outputs => (op, outputs)

/-- The outcome of an inference in place, and the operation after it. Only a reduction records
anything.
-/
def inferInPlace (op : Op) (inputs : List InferenceInput)
    : Except GraphError (List TensorDesc) × Op :=
  match op with
  | reduction attributes =>
      let (outcome, after) := attributes.inferInPlace inputs
      (outcome, .reduction after)
  | other => ((other.infer inputs).map Prod.snd, other)

/-- The operation with its attributes and nothing recorded. -/
def fresh : Op → Op
  | reduction op => reduction op.fresh
  | op => op

/-- A value for an output that nothing flows into, if the operation has one. -/
def defaultValue (op : Op) (output : TensorDesc) : Except Fault (Option Tensor) :=
  match op with
  | reduction op => op.defaultValue output
  | _ => .ok none

/-- The value of a constant. -/
def constantValue? : Op → Option Tensor
  | constant value => some value
  | _ => none

/-- The declared descriptor of a parameter. -/
def parameterDesc? : Op → Option TensorDesc
  | parameter desc => some desc
  | _ => none

/-- Computes the outputs from the inputs. An operation that cannot leaves the outputs as they
were.
-/
def evaluate (op : Op) (outputs inputs : List Tensor) : Except Fault Evaluation :=
  match op with
  | parameter _ => .ok (.declined outputs)
  | constant value =>
      match outputs with
      | out :: rest =>
          if out.dtype = value.dtype then .ok ⟨true, value :: rest⟩
          else .ok (.declined outputs)
      | [] => .ok (.declined outputs)
  | reduction op => op.evaluate outputs inputs
  | selection op => op.evaluate outputs inputs

end Op

end TensorGraph
