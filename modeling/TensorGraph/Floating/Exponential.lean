import TensorGraph.Floating.Arithmetic

/-! The exponential of single-precision values.

The argument is written as `(k + r) / 32` binary places with an integer `k` and `r` at most a
half in size. The power `2 ^ (k / 32)` comes from a table, `2 ^ (r / 32)` from a cubic polynomial,
and the double-precision product is rounded to single precision at the end.
-/

namespace TensorGraph.Floating

variable {format : FloatFormat}

/-- The value with the given bits. -/
def ofBits (bits : Nat) : Floating format :=
  ⟨BitVec.ofNat _ bits⟩

/-- The integer nearest to a finite value, a half to the even neighbour. -/
def nearestInt (x : Floating format) : Int :=
  let whole :=
    roundedQuotient (x.significand * twoPow x.exponent.toNat) (twoPow (-x.exponent).toNat)
  if x.negative then -whole else whole

namespace Exponential

/-- The bits of the doubles nearest to `2 ^ (i / 32)`, for `i` from 0 to 31. -/
def powerBits : List Nat :=
  [0x3ff0000000000000, 0x3ff059b0d3158574, 0x3ff0b5586cf9890f, 0x3ff11301d0125b51,
   0x3ff172b83c7d517b, 0x3ff1d4873168b9aa, 0x3ff2387a6e756238, 0x3ff29e9df51fdee1,
   0x3ff306fe0a31b715, 0x3ff371a7373aa9cb, 0x3ff3dea64c123422, 0x3ff44e086061892d,
   0x3ff4bfdad5362a27, 0x3ff5342b569d4f82, 0x3ff5ab07dd485429, 0x3ff6247eb03a5585,
   0x3ff6a09e667f3bcd, 0x3ff71f75e8ec5f74, 0x3ff7a11473eb0187, 0x3ff82589994cce13,
   0x3ff8ace5422aa0db, 0x3ff93737b0cdc5e5, 0x3ff9c49182a3f090, 0x3ffa5503b23e255d,
   0x3ffae89f995ad3ad, 0x3ffb7f76f2fb5e47, 0x3ffc199bdd85529c, 0x3ffcb720dcef9069,
   0x3ffd5818dcfba487, 0x3ffdfc97337b9b5f, 0x3ffea4afa2a490da, 0x3fff50765b6e4540]

/-- The double nearest to `2 ^ (k / 32)`, for exponents in the range of normal doubles. -/
def power (k : Int) : Binary64 :=
  ofBits ((powerBits.getD (k % 32).toNat 0 : Int) + k / 32 * twoPow 52).toNat

/-- The factor that counts an argument in 32nds of a binary place. -/
def placesPerUnit : Binary64 := ofBits 0x40471547652b82fe

/-- Coefficients of the polynomial for `2 ^ (r / 32)`; the constant one is 1. -/
def cubic : Binary64 := ofBits 0x3ebc6af84b912394
def quadratic : Binary64 := ofBits 0x3f2ebfce50fac4f3
def linear : Binary64 := ofBits 0x3f962e42ff0c52d6

/-- Above this argument the result overflows. -/
def greatest : Binary32 := ofBits 0x42b17217

/-- Below this argument the result is zero. -/
def least : Binary32 := ofBits 0xc2cff1b4

/-- The exponential of an argument that neither overflows nor vanishes. -/
def ofFinite (x : Binary32) : Binary32 :=
  let wide : Binary64 := x.convert
  let k := (placesPerUnit.mul wide).nearestInt
  let r := placesPerUnit.mulAdd wide (ofInt (-k))
  let upper := cubic.mulAdd r quadratic
  let lower := linear.mulAdd r one
  let polynomial := upper.mulAdd (r.mul r) lower
  (polynomial.mul (power k)).convert

end Exponential

/-- The exponential function. -/
def exp (x : Binary32) : Binary32 :=
  if x.isNaN then x.quiet
  else if Exponential.greatest.less x then infinity false
  else if x.less Exponential.least then zero false
  else Exponential.ofFinite x

end TensorGraph.Floating
