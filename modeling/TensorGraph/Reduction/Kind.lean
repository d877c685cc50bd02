import TensorGraph.Reduction.Kernel

/-! The reductions by name, and the kernel that each has for an element type. -/

namespace TensorGraph.Reduction

/-- A reduction over a set of axes. -/
inductive Kind
  | l1
  | l2
  | sum
  | mean
  | prod
  | max
  | min
  | logicalAnd
  | logicalOr
  deriving DecidableEq, Repr

namespace Kind

/-- Every reduction, in tag order. -/
def all : List Kind :=
  [l1, l2, sum, mean, prod, max, min, logicalAnd, logicalOr]

/-- The reduction with the given number under which it crosses a call boundary. -/
def ofTag? (number : Nat) : Option Kind :=
  all[number]?

/-- Whether the reduction is one of truth values. -/
def isLogical : Kind → Bool
  | logicalAnd | logicalOr => true
  | _ => false

/-- The kernel of an arithmetic reduction on a type of numbers. -/
def arithmetic? (kind : Kind) {α : Type} (_ : Numeric α) : Option (Kernel α) :=
  match kind with
  | l1 => some Reduction.l1
  | l2 => some Reduction.l2
  | sum => some Reduction.sum
  | mean => some Reduction.mean
  | prod => some Reduction.prod
  | max => some Reduction.maximum
  | min => some Reduction.minimum
  | logicalAnd | logicalOr => none

/-- The kernel of a logical reduction. -/
def logical? : Kind → Option (Kernel Bool)
  | logicalAnd => some Reduction.logicalAnd
  | logicalOr => some Reduction.logicalOr
  | _ => none

/-- The kernel of a reduction for the elements of a type. -/
def kernel? (kind : Kind) : (dtype : DType) → Option (Kernel dtype.Element)
  | .boolean => kind.logical?
  | dtype => dtype.numeric?.bind kind.arithmetic?

end Kind

end TensorGraph.Reduction
