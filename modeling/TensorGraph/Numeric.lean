import TensorGraph.Failure
import TensorGraph.Floating.Arithmetic

/-! Arithmetic that the reductions need, for integers and for floating-point values.

Integer operations wrap around. The half-width floating-point types compute in single precision
and round back after every operation.
-/

namespace TensorGraph

/-- A type of numbers over which a reduction can run. -/
class Numeric (α : Type) where
  zero : α
  one : α
  /-- The smallest value: negative infinity for floating-point types. -/
  lowest : α
  /-- The largest value: positive infinity for floating-point types. -/
  highest : α
  abs : α → α
  sqrt : α → α
  add : α → α → α
  mul : α → α → α
  /-- The quotient by a count of elements; integers drop the fraction. -/
  divCount : α → Nat → Except Fault α
  less : α → α → Bool
  toSingle : α → Binary32
  ofSingle : Binary32 → α
  ofInt64 : Int64 → α

namespace Numeric

/-- The integer part of a square root taken in double precision. -/
def integerSqrt (least greatest value : Int) : Int :=
  (Floating.ofInt value : Binary64).sqrt.toIntWithin least greatest

/-- The quotient of 64-bit integers, with the fraction dropped. A count is read as a signed word,
and a count of zero leaves the value as it is.
-/
def divWord (value : Int64) (count : Nat) : Except Fault Int64 :=
  let divisor := Int64.ofNat count
  if count = 0 then .ok value
  else if value = Int64.minValue ∧ divisor = -1 then .error .divisionOverflow
  else .ok (value / divisor)

instance : Numeric Int32 where
  zero := 0
  one := 1
  lowest := Int32.minValue
  highest := Int32.maxValue
  abs x := x.abs
  sqrt x :=
    Int32.ofInt (integerSqrt Int32.minValue.toInt Int32.maxValue.toInt x.toInt)
  add x y := x + y
  mul x y := x * y
  divCount x count := (divWord x.toInt64 count).map Int64.toInt32
  less x y := x < y
  toSingle x := Floating.ofInt x.toInt
  ofSingle x := Int32.ofInt (x.toIntWithin Int32.minValue.toInt Int32.maxValue.toInt)
  ofInt64 x := x.toInt32

instance : Numeric Int64 where
  zero := 0
  one := 1
  lowest := Int64.minValue
  highest := Int64.maxValue
  abs x := x.abs
  sqrt x :=
    Int64.ofInt (integerSqrt Int64.minValue.toInt Int64.maxValue.toInt x.toInt)
  add x y := x + y
  mul x y := x * y
  divCount := divWord
  less x y := x < y
  toSingle x := Floating.ofInt x.toInt
  ofSingle x := Int64.ofInt (x.toIntWithin Int64.minValue.toInt Int64.maxValue.toInt)
  ofInt64 x := x

instance : Numeric Binary32 where
  zero := .zero false
  one := .one
  lowest := .infinity true
  highest := .infinity false
  abs x := x.abs
  sqrt x := x.sqrt
  add x y := x.add y
  mul x y := x.mul y
  divCount x count := .ok (x.div (.ofNat count))
  less x y := x.less y
  toSingle x := x
  ofSingle x := x
  ofInt64 x := .ofInt x.toInt

/-- Arithmetic that widens to single precision, computes there and rounds back. -/
@[reducible]
def throughSingle (format : FloatFormat) : Numeric (Floating format) where
  zero := .zero false
  one := .one
  lowest := .infinity true
  highest := .infinity false
  abs x := (x.convert : Binary32).abs.convert
  sqrt x := (x.convert : Binary32).sqrt.convert
  add x y := ((x.convert : Binary32).add y.convert).convert
  mul x y := ((x.convert : Binary32).mul y.convert).convert
  divCount x count := .ok ((x.convert : Binary32).div (.ofNat count)).convert
  less x y := x.less y
  toSingle x := x.convert
  ofSingle x := x.convert
  ofInt64 x := (.ofInt x.toInt : Binary32).convert

instance : Numeric Binary16 :=
  throughSingle .binary16

instance : Numeric BFloat16 :=
  throughSingle .bfloat16

end Numeric

end TensorGraph
