import TensorGraph.AxisSet
import TensorGraph.Word

/-! Shapes of dense row-major tensors and their reduction over a set of axes. -/

namespace TensorGraph

/-- The extents of a tensor, outermost axis first. -/
structure Shape where
  dims : List Nat
  deriving DecidableEq, Repr

namespace Shape

/-- The shape of a single value. -/
def scalar : Shape :=
  ⟨[]⟩

def rank (shape : Shape) : Nat :=
  shape.dims.length

/-- The product of a list of extents. -/
def product (dims : List Nat) : Nat :=
  dims.foldr (· * ·) 1

/-- The number of elements. -/
def numel (shape : Shape) : Nat :=
  product shape.dims

/-- The number of elements as it is computed, in a machine word. -/
def count (shape : Shape) : Nat :=
  word shape.numel

/-- The extent of an axis, if the shape has that axis. -/
def dim? (shape : Shape) (axis : Nat) : Option Nat :=
  shape.dims[axis]?

/-- The distance, for each axis, between elements that are neighbours on it. -/
def stridesOf : List Nat → List Nat
  | [] => []
  | _ :: rest => product rest :: stridesOf rest

def strides (shape : Shape) : List Nat :=
  stridesOf shape.dims

/-- The shape left after reducing over `axes`: a reduced axis has extent 1 or is dropped. Axes
outside the rank do not matter.
-/
def reduce (shape : Shape) (axes : AxisSet) (keepDims : Bool) : Shape :=
  ⟨shape.dims.zipIdx.filterMap fun (extent, axis) =>
    if axis ∈ axes then
      if keepDims then some 1 else none
    else some extent⟩

/-- The number of elements that reduction over `axes` folds into each result. -/
def reducedCount (shape : Shape) (axes : AxisSet) : Nat :=
  product (axes.toList.filterMap shape.dim?)

def render (shape : Shape) : String :=
  bracketed shape.dims

@[simp]
theorem product_nil : product [] = 1 := rfl

@[simp]
theorem product_cons (extent : Nat) (rest : List Nat)
    : product (extent :: rest) = extent * product rest :=
  rfl

@[simp]
theorem numel_scalar : scalar.numel = 1 := rfl

@[simp]
theorem count_scalar : scalar.count = 1 := rfl

theorem count_lt (shape : Shape) : shape.count < twoPow 64 :=
  word_lt shape.numel

end Shape

end TensorGraph
