import TensorGraph.Floating.Arithmetic

/-! Axis-aligned boxes in single precision and how much two of them overlap. -/

namespace TensorGraph.NonMaxSuppression

/-- How the four numbers of a box are laid out. -/
inductive BoxEncoding
  /-- Two opposite corners `y1 x1 y2 x2`, in any order. -/
  | corner
  /-- The middle and the size: `x y width height`. -/
  | center
  deriving DecidableEq, Repr

/-- A box between two corners. -/
structure Box where
  top : Binary32
  left : Binary32
  bottom : Binary32
  right : Binary32
  deriving DecidableEq, Repr

namespace Box

def two : Binary32 :=
  .ofNat 2

/-- The box that four numbers describe. -/
def decode (encoding : BoxEncoding) (a b c d : Binary32) : Box :=
  match encoding with
  | .corner => ⟨a.minimum c, b.minimum d, a.maximum c, b.maximum d⟩
  | .center =>
      ⟨b.sub (d.div two), a.sub (c.div two), b.add (d.div two), a.add (c.div two)⟩

/-- The boxes of a flat list, four numbers each; a shorter rest describes none. -/
def decodeAll (encoding : BoxEncoding) : List Binary32 → List Box
  | a :: b :: c :: d :: rest => decode encoding a b c d :: decodeAll encoding rest
  | _ => []

def area (box : Box) : Binary32 :=
  (box.bottom.sub box.top).mul (box.right.sub box.left)

/-- The area that two boxes share. -/
def intersection (x y : Box) : Binary32 :=
  let zero := .zero false
  let top := x.top.maximum y.top
  let left := x.left.maximum y.left
  let bottom := x.bottom.minimum y.bottom
  let right := x.right.minimum y.right
  ((bottom.sub top).maximum zero).mul ((right.sub left).maximum zero)

/-- The shared area over the covered area; 0 if one of the boxes has no area. -/
def overlap (x y : Box) : Binary32 :=
  let zero := .zero false
  if x.area.lessOrSame zero || y.area.lessOrSame zero then zero
  else
    let shared := x.intersection y
    shared.div ((x.area.add y.area).sub shared)

end Box

end TensorGraph.NonMaxSuppression
