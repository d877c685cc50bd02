import TensorGraph.Element
import TensorGraph.Tensor.Error

/-! Typed runs of elements without a shape, and their byte image. -/

namespace TensorGraph

/-- Elements of one type in order. -/
structure Buffer where
  dtype : DType
  elements : List dtype.Element

namespace Buffer

instance : DecidableEq Buffer := fun left right =>
  match left, right with
  | ⟨dtype, xs⟩, ⟨other, ys⟩ =>
    if same : dtype = other then by
      subst same
      exact decidable_of_iff (xs = ys) (by simp)
    else
      isFalse fun equal => same (congrArg Buffer.dtype equal)

def length (buffer : Buffer) : Nat :=
  buffer.elements.length

def isEmpty (buffer : Buffer) : Bool :=
  buffer.elements.isEmpty

/-- The elements, if they have the requested type. -/
def elements? (buffer : Buffer) (dtype : DType) : Option (List dtype.Element) :=
  if same : buffer.dtype = dtype then some (same ▸ buffer.elements) else none

/-- Whether a signed machine word can hold the byte size of a buffer of `count` elements. -/
def fits (dtype : DType) (count : Nat) : Bool :=
  count * dtype.byteSize < twoPow 63

/-- A buffer that holds `element` throughout. -/
def filled (dtype : DType) (count : Nat) (element : dtype.Element) : Except Fault Buffer :=
  if fits dtype count then .ok ⟨dtype, List.replicate count element⟩
  else .error .capacityOverflow

def zeros (dtype : DType) (count : Nat) : Except Fault Buffer :=
  filled dtype count dtype.zeroElement

/-- The elements whose bytes follow each other; a rest too short for an element is dropped. -/
def decode (dtype : DType) (bytes : Bytes) : Buffer :=
  ⟨dtype,
    (bytes.pieces dtype.byteSize (bytes.length / dtype.byteSize)).map dtype.decode⟩

/-- The elements in a byte sequence that holds a whole number of them. -/
def ofBytes (dtype : DType) (bytes : Bytes) : Except TensorError Buffer :=
  let count := bytes.length
  let name := dtype.name
  let size := dtype.byteSize
  if count % size = 0 then .ok (decode dtype bytes)
  else
    .error (.other s!"{count} bytes is not a multiple of the {name} element size {size}")

/-- The bytes of the elements one after the other. -/
def toBytes (buffer : Buffer) : Bytes :=
  buffer.elements.flatMap buffer.dtype.encode

/-- Equality of type and, by the rules of the type, of every element. -/
def same (left right : Buffer) : Bool :=
  match right.elements? left.dtype with
  | none => false
  | some elements =>
      left.length = elements.length
        && (left.elements.zip elements).all fun (x, y) => left.dtype.sameElement x y

/-- The elements of an integer buffer as 64-bit integers. -/
def toInt64s : Buffer → Except TensorError (List Int64)
  | ⟨.i32, elements⟩ => .ok (elements.map Int32.toInt64)
  | ⟨.i64, elements⟩ => .ok elements
  | ⟨dtype, _⟩ =>
      .error (.unsupportedDType ("expected integral storage, got " ++ dtype.name))

/-- The elements of a numeric buffer in single precision. -/
def toSingles (buffer : Buffer) : Except TensorError (List Binary32) :=
  match buffer.dtype.numeric? with
  | some numeric => .ok (buffer.elements.map numeric.toSingle)
  | none => .error (.unsupportedDType "boolean storage has no numeric value")

@[simp]
theorem elements?_self (buffer : Buffer)
    : buffer.elements? buffer.dtype = some buffer.elements := by
  simp [elements?]

theorem elements?_isSome {buffer : Buffer} {dtype : DType}
    : (buffer.elements? dtype).isSome ↔ buffer.dtype = dtype := by
  simp only [elements?]
  split <;> simp_all

@[simp]
theorem length_decode (dtype : DType) (bytes : Bytes)
    : (decode dtype bytes).length = bytes.length / dtype.byteSize := by
  simp [decode, length]

end Buffer

end TensorGraph
