import TensorGraph.Tensor.Basic

/-! Steps that build and change one tensor. A step that fails leaves the tensor as it was. -/

namespace TensorGraph.Tensor

/-- A step on a tensor. -/
inductive Edit
  | unshaped (dtype : DType)
  | ofElements (dtype : DType) (elements : List dtype.Element) (shape : Shape)
  | scalar (dtype : DType) (element : dtype.Element)
  | zeros (dtype : DType) (shape : Shape)
  | filled (dtype : DType) (element : dtype.Element) (shape : Shape)
  | ofBytes (dtype : DType) (shape : Shape) (bytes : Bytes)
  | setShape (shape : Shape)
  | write (dtype : DType) (index : Nat) (element : dtype.Element)

/-- The tensor after a step that succeeds. -/
def Edit.result (tensor : Tensor) : Edit → Except (Failure TensorError) Tensor
  | unshaped dtype => .ok (Tensor.unshaped dtype)
  | ofElements dtype elements shape => orFailure (Tensor.ofElements dtype elements shape)
  | scalar dtype element => .ok (Tensor.scalar dtype element)
  | zeros dtype shape => orFault (Tensor.zeros dtype shape)
  | filled dtype element shape => orFault (Tensor.filled dtype element shape)
  | ofBytes dtype shape bytes => orFailure (Tensor.ofBytes dtype shape bytes)
  | setShape shape => orFault (tensor.setShape shape)
  | write dtype index element => tensor.write dtype index element

/-- The tensor after a step, and why the step failed if it did. -/
def edit (tensor : Tensor) (step : Edit) : Tensor × Except (Failure TensorError) Unit :=
  match step.result tensor with
  | .ok changed => (changed, .ok ())
  | .error failure => (tensor, .error failure)

/-- The tensor after a sequence of steps. -/
def edits (tensor : Tensor) (steps : List Edit) : Tensor :=
  steps.foldl (fun current step => (current.edit step).1) tensor

end TensorGraph.Tensor
