import TensorGraph.PowerOfTwo

/-! Binary floating-point formats and their values as bit patterns.

A value is its bit pattern, so every not-a-number keeps its payload. Without its sign bit a
pattern is a natural number, its magnitude, and magnitudes are ordered as the values are: first
the finite values, then infinity, then the patterns that are no number.
-/

namespace TensorGraph

/-- A binary format with the given widths of its exponent and fraction fields. -/
structure FloatFormat where
  exponentBits : Nat
  fractionBits : Nat
  deriving DecidableEq, Repr

namespace FloatFormat

def binary16 : FloatFormat := ⟨5, 10⟩
def bfloat16 : FloatFormat := ⟨8, 7⟩
def binary32 : FloatFormat := ⟨8, 23⟩
def binary64 : FloatFormat := ⟨11, 52⟩

/-- Bits of a value: sign, exponent and fraction. -/
def width (format : FloatFormat) : Nat :=
  format.exponentBits + format.fractionBits + 1

/-- The binary exponent of the unit in which the smallest values are counted. -/
def leastExponent (format : FloatFormat) : Int :=
  2 - twoPow (format.exponentBits - 1) - format.fractionBits

/-- The magnitude of the infinities. -/
def infinityMagnitude (format : FloatFormat) : Nat :=
  (twoPow format.exponentBits - 1) * twoPow format.fractionBits

/-- The fraction bit that marks a quiet not-a-number. -/
def quietBit (format : FloatFormat) : Nat :=
  twoPow (format.fractionBits - 1)

end FloatFormat

/-- A value of a binary format. -/
structure Floating (format : FloatFormat) where
  bits : BitVec format.width
  deriving DecidableEq, Repr

abbrev Binary16 := Floating .binary16
abbrev BFloat16 := Floating .bfloat16
abbrev Binary32 := Floating .binary32
abbrev Binary64 := Floating .binary64

namespace Floating

variable {format : FloatFormat}

/-- The value with the given sign and magnitude. -/
def ofMagnitude (negative : Bool) (magnitude : Nat) : Floating format :=
  ⟨BitVec.ofNat _
    ((if negative then twoPow (format.exponentBits + format.fractionBits) else 0) + magnitude)⟩

/-- The sign bit. -/
def negative (x : Floating format) : Bool :=
  twoPow (format.exponentBits + format.fractionBits) ≤ x.bits.toNat

/-- The pattern without its sign bit. -/
def magnitude (x : Floating format) : Nat :=
  x.bits.toNat % twoPow (format.exponentBits + format.fractionBits)

/-- The value with every magnitude bit kept and the sign bit cleared. -/
def abs (x : Floating format) : Floating format :=
  ofMagnitude false x.magnitude

/-- The value with the other sign bit. -/
def neg (x : Floating format) : Floating format :=
  ofMagnitude (!x.negative) x.magnitude

def zero (negative : Bool) : Floating format :=
  ofMagnitude negative 0

def infinity (negative : Bool) : Floating format :=
  ofMagnitude negative format.infinityMagnitude

def one : Floating format :=
  ofMagnitude false ((twoPow (format.exponentBits - 1) - 1) * twoPow format.fractionBits)

/-- The result of an operation without a meaning, such as zero by zero. -/
def invalid : Floating format :=
  ofMagnitude true (format.infinityMagnitude + format.quietBit)

def isNaN (x : Floating format) : Bool :=
  format.infinityMagnitude < x.magnitude

def isInfinite (x : Floating format) : Bool :=
  x.magnitude = format.infinityMagnitude

def isZero (x : Floating format) : Bool :=
  x.magnitude = 0

/-- A not-a-number with its payload kept and marked quiet. -/
def quiet (x : Floating format) : Floating format :=
  ofMagnitude x.negative (x.magnitude ||| format.quietBit)

/-- The integer that counts units of `2 ^ x.exponent` in a finite value. -/
def significand (x : Floating format) : Nat :=
  if x.magnitude < twoPow format.fractionBits then x.magnitude
  else twoPow format.fractionBits + x.magnitude % twoPow format.fractionBits

/-- The binary exponent of the unit of a finite value. -/
def exponent (x : Floating format) : Int :=
  format.leastExponent + (x.magnitude / twoPow format.fractionBits - 1 : Nat)

/-- The significand with its sign. -/
def signedSignificand (x : Floating format) : Int :=
  if x.negative then -x.significand else x.significand

/-- The position of a number on the line; both zeros stand at 0. -/
def position (x : Floating format) : Int :=
  if x.negative then -x.magnitude else x.magnitude

/-- Numeric comparison; a not-a-number is less than nothing. -/
def less (x y : Floating format) : Bool :=
  !x.isNaN && !y.isNaN && x.position < y.position

/-- Numeric equality: the two zeros are equal and no not-a-number equals itself. -/
def same (x y : Floating format) : Bool :=
  !x.isNaN && !y.isNaN && x.position = y.position

def lessOrSame (x y : Floating format) : Bool :=
  x.less y || x.same y

/-- The smaller of two numbers; a not-a-number gives way to the other operand. -/
def minimum (x y : Floating format) : Floating format :=
  if x.isNaN then y else if y.less x then y else x

/-- The larger of two numbers; a not-a-number gives way to the other operand. -/
def maximum (x y : Floating format) : Floating format :=
  if x.isNaN then y else if x.less y then y else x

/-- The place of a pattern in the total order, in which the negative zero comes before the
positive one and not-a-number patterns lie outside the infinities.
-/
def rank (x : Floating format) : Int :=
  if x.negative then -x.magnitude - 1 else x.magnitude

/-- The total order on patterns. -/
def totalCompare (x y : Floating format) : Ordering :=
  compare x.rank y.rank

end Floating

end TensorGraph
