import TensorGraph.Failure
import TensorGraph.Shape

/-! A walk over the elements of a tensor in row-major order that keeps the index of the result
slot in step with the coordinates.

Each axis is a wheel. A kept axis moves the slot by its stride, a reduced axis does not move it. A
wheel first steps after at least as many elements as its stride says, so no stride that moves the
slot in a list is too large for a machine word.
-/

namespace TensorGraph.Reduction

/-- The state of one axis: how far it goes, how far a step moves the slot, where it stands. -/
structure Wheel where
  extent : Nat
  stride : Nat
  position : Nat
  deriving DecidableEq, Repr

/-- The wheels of a shape at the first element, innermost axis first. -/
def wheels (shape : Shape) (axes : AxisSet) : List Wheel :=
  let strides := (shape.reduce axes true).strides
  ((shape.dims.zip strides).zipIdx.map fun ((extent, stride), axis) =>
    ⟨extent, if axis ∈ axes then 0 else stride, 0⟩).reverse

/-- Moves to the next element: the innermost wheel steps, and a wheel at its end returns to the
start and lets the next one step. The slot index must not fall below zero on the way.
-/
def turn : List Wheel → (slot : Nat) → Except Fault (List Wheel × Nat)
  | [], slot => .ok ([], slot)
  | wheel :: rest, slot =>
      let position := wheel.position + 1
      let moved := slot + wheel.stride
      if position < wheel.extent then .ok (⟨wheel.extent, wheel.stride, position⟩ :: rest, moved)
      else if moved < wheel.stride * position then .error .indexOutOfRange
      else
        (turn rest (moved - wheel.stride * position)).map fun (turned, index) =>
          (⟨wheel.extent, wheel.stride, 0⟩ :: turned, index)

/-- Folds each value into the slot at which the odometer stands, then turns the odometer. -/
def walk {α : Type} (combine : α → α → α)
    : List Wheel → (slot : Nat) → (slots values : List α) → Except Fault (List α)
  | _, _, slots, [] => .ok slots
  | odometer, slot, slots, value :: rest =>
      match slots[slot]? with
      | none => .error .indexOutOfRange
      | some held =>
          match turn odometer slot with
          | .error fault => .error fault
          | .ok (turned, next) =>
              walk combine turned next (slots.set slot (combine held value)) rest

end TensorGraph.Reduction
