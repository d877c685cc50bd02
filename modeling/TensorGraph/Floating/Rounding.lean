import TensorGraph.Floating.Format

/-! Rounding of an exact ratio to the nearest value of a format, ties to even. -/

namespace TensorGraph

/-- The quotient of two natural numbers, rounded to the nearest, a half to the even neighbour. -/
def roundedQuotient (numerator denominator : Nat) : Nat :=
  let quotient := numerator / denominator
  let remainder := numerator % denominator
  if 2 * remainder < denominator then quotient
  else if denominator < 2 * remainder then quotient + 1
  else quotient + quotient % 2

/-- The binary logarithm of a positive ratio, rounded down. -/
def floorLog2 (numerator denominator : Nat) : Int :=
  let shift := denominator.log2 + 1
  (numerator * twoPow shift / denominator).log2 - (shift : Int)

namespace Floating

variable {format : FloatFormat}

/-- The value nearest to `numerator / denominator * 2 ^ scale` with the given sign, ties to even.
What rounds beyond the largest finite value becomes infinite, and tiny values are counted in the
unit of the least exponent.
-/
def ofRatio (negative : Bool) (numerator denominator : Nat) (scale : Int) : Floating format :=
  if numerator = 0 then zero negative
  else
    let unit := max format.leastExponent
      (floorLog2 numerator denominator + scale - format.fractionBits)
    let count := roundedQuotient
      (numerator * twoPow (scale - unit).toNat) (denominator * twoPow (unit - scale).toNat)
    let magnitude := (unit - format.leastExponent).toNat * twoPow format.fractionBits + count
    ofMagnitude negative (Nat.min magnitude format.infinityMagnitude)

/-- The nearest value to an integer. -/
def ofInt (value : Int) : Floating format :=
  ofRatio (value < 0) value.natAbs 1 0

def ofNat (value : Nat) : Floating format :=
  ofRatio false value 1 0

end Floating

end TensorGraph
