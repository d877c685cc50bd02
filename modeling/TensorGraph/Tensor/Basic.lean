import TensorGraph.Buffer
import TensorGraph.Tensor.Descriptor

/-! Dense tensors: a typed buffer with a shape that may not be known yet.

A tensor without a shape holds no elements; a tensor with a shape holds as many as the shape asks
for. An operation that computes a tensor can be handed one without a shape to fill in.
-/

namespace TensorGraph

/-- A typed buffer in row-major order under a shape. -/
structure Tensor where
  buffer : Buffer
  shape : Option Shape
  sized : buffer.length = shape.elim 0 Shape.count
  deriving DecidableEq

namespace Tensor

def dtype (tensor : Tensor) : DType :=
  tensor.buffer.dtype

def length (tensor : Tensor) : Nat :=
  tensor.buffer.length

def isEmpty (tensor : Tensor) : Bool :=
  tensor.buffer.isEmpty

/-- The tensor of an element type with no shape and no elements. -/
def unshaped (dtype : DType) : Tensor :=
  ⟨⟨dtype, []⟩, none, rfl⟩

/-- The elements in row-major order under a shape that asks for as many. -/
def ofElements (dtype : DType) (elements : List dtype.Element) (shape : Shape)
    : Except TensorError Tensor :=
  if sized : elements.length = shape.count then .ok ⟨⟨dtype, elements⟩, some shape, sized⟩
  else .error (.lengthMismatch shape.count elements.length)

/-- The tensor of rank 0 with one element. -/
def scalar (dtype : DType) (element : dtype.Element) : Tensor :=
  ⟨⟨dtype, [element]⟩, some .scalar, rfl⟩

/-- The tensor that holds `element` throughout. -/
def filled (dtype : DType) (element : dtype.Element) (shape : Shape) : Except Fault Tensor :=
  if Buffer.fits dtype shape.count then
    .ok ⟨⟨dtype, List.replicate shape.count element⟩, some shape, by simp [Buffer.length]⟩
  else .error .capacityOverflow

def zeros (dtype : DType) (shape : Shape) : Except Fault Tensor :=
  filled dtype dtype.zeroElement shape

/-- The tensor whose elements have the given byte image. The byte size of the shape is taken not to
overflow.
-/
def ofBytes (dtype : DType) (shape : Shape) (bytes : Bytes) : Except TensorError Tensor :=
  if sized : bytes.length = shape.count * dtype.byteSize then
    .ok ⟨.decode dtype bytes, some shape, by
      rw [Buffer.length_decode, sized]
      exact Nat.mul_div_cancel _ dtype.byteSize_pos⟩
  else .error (.lengthMismatch (shape.count * dtype.byteSize) bytes.length)

/-- Gives the tensor a shape. The elements stay if the shape asks for as many; otherwise they are
replaced by zeros.
-/
def setShape (tensor : Tensor) (shape : Shape) : Except Fault Tensor :=
  if sized : tensor.length = shape.count then .ok ⟨tensor.buffer, some shape, sized⟩
  else zeros tensor.dtype shape

def staticShape (tensor : Tensor) : Except TensorError Shape :=
  match tensor.shape with
  | some shape => .ok shape
  | none => .error .shapeUnset

def desc? (tensor : Tensor) : Option TensorDesc :=
  tensor.shape.map fun shape => ⟨tensor.dtype, shape⟩

/-- The elements, read at an expected type. -/
def data (tensor : Tensor) (dtype : DType) : Except TensorError (List dtype.Element) :=
  match tensor.buffer.elements? dtype with
  | some elements => .ok elements
  | none => .error (.dtypeMismatch dtype tensor.dtype)

/-- Replaces the element at `index`, written at an expected type. -/
def write (tensor : Tensor) (dtype : DType) (index : Nat) (element : dtype.Element)
    : Except (Failure TensorError) Tensor :=
  if same : tensor.buffer.dtype = dtype then
    if index < tensor.length then
      .ok ⟨⟨tensor.buffer.dtype, tensor.buffer.elements.set index (same ▸ element)⟩,
        tensor.shape, by simpa [Buffer.length] using tensor.sized⟩
    else .error (.fault .indexOutOfRange)
  else .error (.error (.dtypeMismatch dtype tensor.dtype))

def toBytes (tensor : Tensor) : Bytes :=
  tensor.buffer.toBytes

def toInt64s (tensor : Tensor) : Except TensorError (List Int64) :=
  tensor.buffer.toInt64s

def toSingles (tensor : Tensor) : Except TensorError (List Binary32) :=
  tensor.buffer.toSingles

/-- The one value of a list of values. -/
def only {α : Type} : List α → Except TensorError α
  | [value] => .ok value
  | values => .error (.lengthMismatch 1 values.length)

/-- The one element of an integer tensor. -/
def scalarInt64 (tensor : Tensor) : Except TensorError Int64 :=
  tensor.toInt64s >>= only

/-- The one element of a numeric tensor in single precision. -/
def scalarSingle (tensor : Tensor) : Except TensorError Binary32 :=
  tensor.toSingles >>= only

/-- Equality of type and shape and, by the rules of the type, of every element. -/
def same (left right : Tensor) : Bool :=
  left.shape = right.shape && left.buffer.same right.buffer

end Tensor

end TensorGraph
