import TensorGraph.Element
import TensorGraph.Reduction.Odometer

/-! Reductions of a list of elements over a set of axes.

Every kernel visits its argument in row-major order and folds each element into its result slot
in that order. The results replace the contents of a buffer that must have the right length.
-/

namespace TensorGraph.Reduction

/-- A reduction of the elements `argument` under a shape into the buffer `out`, over a set of
axes that are dropped or kept with extent 1.
-/
abbrev Kernel (α : Type) :=
  (argument out : List α) → Shape → AxisSet → (keepDims : Bool)
    → Except (Failure TensorError) (List α)

/-- The axes of a reduction must lie below the rank; the largest one is reported. -/
def checkAxes (shape : Shape) (axes : AxisSet) : Except TensorError Unit :=
  match axes.max? with
  | none => .ok ()
  | some axis =>
      if axis < shape.rank then .ok ()
      else .error (.invalidAxis (Int64.ofNat axis) shape.rank)

/-- The conditions on the arguments of a kernel. Lengths are compared as machine words. -/
def checkArguments (argumentLength outLength : Nat) (shape : Shape) (axes : AxisSet)
    (keepDims : Bool)
    : Except TensorError Unit :=
  let reduced := shape.reduce axes keepDims
  if word argumentLength ≠ shape.count then
    .error (.lengthMismatch shape.count (word argumentLength))
  else if word outLength ≠ reduced.count then
    .error (.shapeMismatch reduced.dims [word outLength])
  else checkAxes shape axes

/-- The fold of each slot's elements with `combine`, from `start`. -/
def fold {α : Type} (combine : α → α → α) (start : α) : Kernel α :=
  fun argument out shape axes keepDims =>
    match checkArguments argument.length out.length shape axes keepDims with
    | .error cause => .error (.error cause)
    | .ok () =>
        orFault (walk combine (wheels shape axes) 0 (List.replicate out.length start) argument)

section Arithmetic

variable {α : Type} [Numeric α]

/-- The sum of the absolute values. -/
def l1 : Kernel α :=
  fold (fun sum x => Numeric.add sum (Numeric.abs x)) Numeric.zero

/-- The square root of the sum of the squares. -/
def l2 : Kernel α :=
  fun argument out shape axes keepDims =>
    (fold (fun sum x => Numeric.add sum (Numeric.mul x x)) Numeric.zero
      argument out shape axes keepDims).map (List.map Numeric.sqrt)

def sum : Kernel α :=
  fold Numeric.add Numeric.zero

/-- The sum divided by the number of elements of a slot, which is computed in a machine word. -/
def mean : Kernel α :=
  fun argument out shape axes keepDims =>
    match sum argument out shape axes keepDims with
    | .error failure => .error failure
    | .ok sums =>
        orFault (sums.mapM fun total => Numeric.divCount total (word (shape.reducedCount axes)))

def prod : Kernel α :=
  fold Numeric.mul Numeric.one

/-- The largest element; an element that compares with nothing is passed over. -/
def maximum : Kernel α :=
  fold (fun greatest x => if Numeric.less greatest x then x else greatest) Numeric.lowest

/-- The smallest element; an element that compares with nothing is passed over. -/
def minimum : Kernel α :=
  fold (fun least x => if Numeric.less x least then x else least) Numeric.highest

end Arithmetic

/-- Whether every element is true. -/
def logicalAnd : Kernel Bool :=
  fold and true

/-- Whether some element is true. -/
def logicalOr : Kernel Bool :=
  fold or false

end TensorGraph.Reduction
