import TensorGraph.Proofs.Shape
import TensorGraph.Tensor.Basic

/-! What the tensors that an operation builds or reads are made of. -/

namespace TensorGraph

/-- The elements that are read are those of the buffer. -/
theorem Buffer.eq_of_elements? {buffer : Buffer} {dtype : DType} {elements : List dtype.Element}
    (read : buffer.elements? dtype = some elements)
    : buffer = ⟨dtype, elements⟩ := by
  obtain ⟨held, stored⟩ := buffer
  have same : held = dtype := elements?_isSome.mp (by rw [read, Option.isSome_some])
  subst same
  rw [elements?_self] at read
  cases read
  rfl

namespace Tensor

/-- A tensor is given by its elements and its shape. -/
theorem eq_of_parts {left right : Tensor} (buffers : left.buffer = right.buffer)
    (shapes : left.shape = right.shape)
    : left = right := by
  cases left
  cases right
  cases buffers
  cases shapes
  rfl

theorem length_of_shape {tensor : Tensor} {shape : Shape} (shaped : tensor.shape = some shape)
    : tensor.length = shape.count := by
  have sized := tensor.sized
  rw [shaped] at sized
  exact sized

/-- If the tensor has a shape, machine words count the elements that some of its extents ask for. -/
def Counted (tensor : Tensor) : Prop :=
  ∀ shape, tensor.shape = some shape → shape.Fits

instance (tensor : Tensor) : Decidable tensor.Counted :=
  decidable_of_iff (tensor.shape.all fun shape => shape.Fits)
    (by simp [Counted, Option.all_eq_true])

theorem Counted.length_eq {tensor : Tensor} (counted : tensor.Counted) {shape : Shape}
    (shaped : tensor.shape = some shape)
    : tensor.length = shape.numel := by
  rw [length_of_shape shaped, (counted shape shaped).count_eq]

theorem desc?_eq_some_iff {tensor : Tensor} {desc : TensorDesc}
    : tensor.desc? = some desc
      ↔ tensor.dtype = desc.dtype ∧ tensor.shape = some desc.shape := by
  obtain ⟨dtype, inferred⟩ := desc
  cases shaped : tensor.shape with
  | none => simp [desc?, shaped]
  | some shape => simp [desc?, shaped]

theorem ofElements_eq_ok {dtype : DType} {elements : List dtype.Element} {shape : Shape}
    {tensor : Tensor} (built : ofElements dtype elements shape = .ok tensor)
    : tensor.buffer = ⟨dtype, elements⟩ ∧ tensor.shape = some shape := by
  unfold ofElements at built
  split at built
  · cases built
    exact ⟨rfl, rfl⟩
  · cases built

theorem length_of_ofElements {dtype : DType} {elements : List dtype.Element} {shape : Shape}
    {tensor : Tensor} (built : ofElements dtype elements shape = .ok tensor)
    : elements.length = shape.count := by
  unfold ofElements at built
  split at built
  next sized => exact sized
  · cases built

theorem filled_eq_ok {dtype : DType} {element : dtype.Element} {shape : Shape} {tensor : Tensor}
    (built : filled dtype element shape = .ok tensor)
    : Buffer.fits dtype shape.count
      ∧ tensor.buffer = ⟨dtype, List.replicate shape.count element⟩
      ∧ tensor.shape = some shape := by
  unfold filled at built
  split at built
  next fits =>
    cases built
    exact ⟨fits, rfl, rfl⟩
  · cases built

/-- Only a buffer too large for memory stops a tensor from being filled. -/
theorem filled_eq_error {dtype : DType} {element : dtype.Element} {shape : Shape} {fault : Fault}
    (stopped : filled dtype element shape = .error fault)
    : fault = .capacityOverflow ∧ ¬ Buffer.fits dtype shape.count := by
  unfold filled at stopped
  split at stopped
  · cases stopped
  next tooLarge =>
    cases stopped
    exact ⟨rfl, tooLarge⟩

theorem data_eq_ok {tensor : Tensor} {dtype : DType} {elements : List dtype.Element}
    (read : tensor.data dtype = .ok elements)
    : tensor.buffer = ⟨dtype, elements⟩ := by
  unfold data at read
  split at read
  next stored =>
    cases read
    exact Buffer.eq_of_elements? stored
  · cases read

theorem staticShape_eq_ok {tensor : Tensor} {shape : Shape}
    (known : tensor.staticShape = .ok shape)
    : tensor.shape = some shape := by
  unfold staticShape at known
  split at known
  next shaped =>
    cases known
    exact shaped
  · cases known

/-- Truth values have no reading in single precision. -/
theorem dtype_ne_boolean_of_toSingles {tensor : Tensor} {values : List Binary32}
    (read : tensor.toSingles = .ok values)
    : tensor.dtype ≠ .boolean := by
  obtain ⟨⟨held, elements⟩, shape, sized⟩ := tensor
  intro truth
  change held = .boolean at truth
  subst truth
  cases read

theorem length_of_toSingles {tensor : Tensor} {values : List Binary32}
    (read : tensor.toSingles = .ok values)
    : values.length = tensor.length := by
  unfold toSingles Buffer.toSingles at read
  split at read
  · cases read
    exact List.length_map _
  · cases read

end Tensor

end TensorGraph
