import TensorGraph.Tensor.Edit

/-! How a tensor is stored: three fields that are written one at a time, and that nothing but the
steps on them keeps together. What a step has written before it fails stays written.
-/

namespace TensorGraph

/-- The fields in which a tensor is stored. -/
structure Stored where
  dtype : DType
  shape : Option Shape
  buffer : Buffer

namespace Stored

/-- A computation on the fields. What it has written before it fails stays written. -/
abbrev InPlace := ExceptT (Failure TensorError) (StateM Stored)

/-- A step, in the order in which it checks and writes the fields. -/
def perform : Tensor.Edit → InPlace Unit
  | .unshaped dtype => do
      let buffer ← MonadExcept.ofExcept (orFault (Buffer.zeros dtype 0))
      set (Stored.mk dtype none buffer)
  | .ofElements dtype elements shape => do
      if elements.length ≠ shape.count then
        throw (.error (.lengthMismatch shape.count elements.length))
      set (Stored.mk dtype (some shape) ⟨dtype, elements⟩)
  | .scalar dtype element => set (Stored.mk dtype (some .scalar) ⟨dtype, [element]⟩)
  | .zeros dtype shape => do
      let buffer ← MonadExcept.ofExcept (orFault (Buffer.zeros dtype shape.count))
      set (Stored.mk dtype (some shape) buffer)
  | .filled dtype element shape => do
      let buffer ← MonadExcept.ofExcept (orFault (Buffer.filled dtype shape.count element))
      set (Stored.mk dtype (some shape) buffer)
  | .ofBytes dtype shape bytes => do
      if bytes.length ≠ shape.count * dtype.byteSize then
        throw (.error (.lengthMismatch (shape.count * dtype.byteSize) bytes.length))
      let buffer ← MonadExcept.ofExcept (orFailure (Buffer.ofBytes dtype bytes))
      set (Stored.mk dtype (some shape) buffer)
  | .setShape shape => do
      let stored ← get
      if stored.buffer.length ≠ shape.count then
        let buffer ← MonadExcept.ofExcept (orFault (Buffer.zeros stored.dtype shape.count))
        modify fun stored => { stored with buffer }
      modify fun stored => { stored with shape := some shape }
  | .write dtype index element => do
      let stored ← get
      match stored.buffer.elements? dtype with
      | none => throw (.error (.dtypeMismatch dtype stored.dtype))
      | some elements =>
          if index < elements.length then
            modify fun stored => { stored with buffer := ⟨dtype, elements.set index element⟩ }
          else throw (.fault .indexOutOfRange)

/-- How a step ends, and the fields after it. -/
def step (stored : Stored) (edit : Tensor.Edit) : Except (Failure TensorError) Unit × Stored :=
  (perform edit).run.run stored

/-- The fields after a sequence of steps. -/
def steps (stored : Stored) (edits : List Tensor.Edit) : Stored :=
  edits.foldl (fun current edit => (current.step edit).2) stored

/-- The fields of a tensor without a shape. -/
def unshaped (dtype : DType) : Stored :=
  ⟨dtype, none, ⟨dtype, []⟩⟩

/-- The elements, read at an expected type. -/
def data (stored : Stored) (dtype : DType) : Except TensorError (List dtype.Element) :=
  match stored.buffer.elements? dtype with
  | some elements => .ok elements
  | none => .error (.dtypeMismatch dtype stored.dtype)

end Stored

/-- The fields in which a tensor is stored. -/
def Tensor.stored (tensor : Tensor) : Stored :=
  ⟨tensor.dtype, tensor.shape, tensor.buffer⟩

end TensorGraph
