import TensorGraph.Floating.Rounding

/-! Arithmetic on floating-point values: each operation is the exact result rounded once.

A not-a-number operand is passed on with its payload, the first one first. An operation without a
meaning gives `Floating.invalid`.
-/

namespace TensorGraph.Floating

variable {format : FloatFormat}

/-- The sum of `a * 2 ^ p` and `b * 2 ^ q`; an exact zero takes the sign `zeroSign`. -/
def ofSum (zeroSign : Bool) (a : Int) (p : Int) (b : Int) (q : Int) : Floating format :=
  let scale := min p q
  let total := a * twoPow (p - scale).toNat + b * twoPow (q - scale).toNat
  if total = 0 then zero zeroSign
  else ofRatio (total < 0) total.natAbs 1 scale

def add (x y : Floating format) : Floating format :=
  if x.isNaN then x.quiet
  else if y.isNaN then y.quiet
  else if x.isInfinite then
    if y.isInfinite && x.negative != y.negative then invalid else x
  else if y.isInfinite then y
  else
    ofSum (x.negative && y.negative) x.signedSignificand x.exponent y.signedSignificand y.exponent

def sub (x y : Floating format) : Floating format :=
  if y.isNaN then x.add y else x.add y.neg

def mul (x y : Floating format) : Floating format :=
  let sign := x.negative != y.negative
  if x.isNaN then x.quiet
  else if y.isNaN then y.quiet
  else if x.isInfinite then
    if y.isZero then invalid else infinity sign
  else if y.isInfinite then
    if x.isZero then invalid else infinity sign
  else ofRatio sign (x.significand * y.significand) 1 (x.exponent + y.exponent)

def div (x y : Floating format) : Floating format :=
  let sign := x.negative != y.negative
  if x.isNaN then x.quiet
  else if y.isNaN then y.quiet
  else if x.isInfinite then
    if y.isInfinite then invalid else infinity sign
  else if y.isInfinite then zero sign
  else if y.isZero then
    if x.isZero then invalid else infinity sign
  else ofRatio sign x.significand y.significand (x.exponent - y.exponent)

/-- The product of finite `x` and `y` plus the finite `z`, rounded once. -/
def mulAdd (x y z : Floating format) : Floating format :=
  if x.isNaN then x.quiet
  else if y.isNaN then y.quiet
  else if z.isNaN then z.quiet
  else if x.isInfinite || y.isInfinite || z.isInfinite then (x.mul y).add z
  else
    ofSum ((x.negative != y.negative) && z.negative)
      (x.signedSignificand * y.signedSignificand) (x.exponent + y.exponent)
      z.signedSignificand z.exponent

/-- The integer square root of `n`, with a last binary place that says whether it is exact: 0
stands for an exact root and 1 for a root that lies above the integer.
-/
def stickyRoot (root n : Nat) : Nat :=
  2 * root + if root * root = n then 0 else 1

/-- The largest integer whose square is at most `n`, by digits to base two from the top. -/
def integerRoot (n : Nat) : Nat :=
  (List.range (n.log2 / 2 + 1)).foldr
    (fun place root =>
      let next := root + twoPow place
      if next * next ≤ n then next else root)
    0

/-- The square root. The significand is scaled by an even power of two until its integer root has
more places than the format, so that rounding the root with its sticky place is exact.
-/
def sqrt (x : Floating format) : Floating format :=
  if x.isNaN then x.quiet
  else if x.isZero then x
  else if x.negative then invalid
  else if x.isInfinite then x
  else
    let odd := (x.exponent % 2).toNat
    let half := (x.exponent - odd) / 2
    let places := format.fractionBits + 2
    let scaled := x.significand * twoPow (odd + 2 * places)
    ofRatio false (stickyRoot (integerRoot scaled) scaled) 1 (half - places - 1)

/-- The nearest value of another format; the leading payload bits of a not-a-number are kept. -/
def convert {target : FloatFormat} (x : Floating format) : Floating target :=
  if x.isNaN then
    let payload := x.magnitude - format.infinityMagnitude
    let moved :=
      payload * twoPow (target.fractionBits - format.fractionBits)
        / twoPow (format.fractionBits - target.fractionBits)
    ofMagnitude x.negative (target.infinityMagnitude + (moved ||| target.quietBit))
  else if x.isInfinite then infinity x.negative
  else ofRatio x.negative x.significand 1 x.exponent

/-- The integer part of a finite value. -/
def truncate (x : Floating format) : Int :=
  let whole := x.significand * twoPow x.exponent.toNat / twoPow (-x.exponent).toNat
  if x.negative then -whole else whole

/-- The integer part, held within `least` and `greatest`; a not-a-number becomes 0. -/
def toIntWithin (least greatest : Int) (x : Floating format) : Int :=
  if x.isNaN then 0
  else if x.isInfinite then if x.negative then least else greatest
  else max least (min greatest x.truncate)

end TensorGraph.Floating
