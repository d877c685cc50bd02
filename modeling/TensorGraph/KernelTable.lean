import TensorGraph.DType

/-! Kernels by element type. An operation has no kernel for a type that its table does not list.
-/

namespace TensorGraph

/-- Kernels with the element type that each is for, in order of registration. -/
structure KernelTable (κ : Type) where
  entries : List (DType × κ)

namespace KernelTable

variable {κ : Type}

/-- The first kernel registered for an element type. -/
def lookup (table : KernelTable κ) (dtype : DType) : Option κ :=
  (table.entries.find? fun entry => entry.1 = dtype).map Prod.snd

/-- Whether some kernel is registered for an element type. -/
def supports (table : KernelTable κ) (dtype : DType) : Bool :=
  (table.lookup dtype).isSome

/-- The element types with a kernel, in order of registration. -/
def supported (table : KernelTable κ) : List DType :=
  table.entries.map Prod.fst

theorem supports_iff {table : KernelTable κ} {dtype : DType}
    : table.supports dtype ↔ dtype ∈ table.supported := by
  simp [supports, lookup, supported]

end KernelTable

end TensorGraph
