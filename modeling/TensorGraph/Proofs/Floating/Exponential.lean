import Mathlib.Tactic.NormNum
import TensorGraph.Floating.Exponential
import TensorGraph.Proofs.Floating.Arithmetic

/-! The exponential of an argument that is not positive lies between 0 and 1.

Each intermediate result is held between two short binary fractions. They are values of the format,
so rounding keeps them as bounds.
-/

namespace TensorGraph.Floating

-----------------------------------------------------------------------------------------
-- Bounds in double precision
-----------------------------------------------------------------------------------------

/-- A short binary fraction of moderate size is a value in double precision. -/
theorem representable_fraction {value : ℚ} (count : ℤ) (places : Nat)
    (equal : value = count / 2 ^ places)
    (short : count.natAbs < 2 ^ 53 ∧ count.natAbs ≤ 2 ^ (13 + places) ∧ places ≤ 1074)
    : Representable .binary64 value := by
  obtain ⟨few, small, shallow⟩ := short
  have units : value = count * 2 ^ (-(places : ℤ)) := by
    rw [equal, zpow_neg, zpow_natCast, div_eq_mul_inv]
  have least : FloatFormat.binary64.leastExponent = -1074 := by decide
  have greatest : FloatFormat.binary64.valueOf (1035 * twoPow 52 + twoPow 52) = 2 ^ 13 := by
    have row
        : FloatFormat.binary64.valueOf (1035 * twoPow 52 + twoPow 52)
          = (twoPow 52 : Nat) * 2 ^ (FloatFormat.binary64.leastExponent + (1035 : Nat)) :=
      FloatFormat.valueOf_row (by decide) (.inr le_rfl)
    rw [row, least, cast_twoPow]
    norm_num
  rw [units]
  refine representable_units ?_ ?_ (le_of_le_of_eq ?_ greatest.symm) (by decide)
  · have total : 2 * twoPow FloatFormat.binary64.fractionBits = 2 ^ 53 := by decide
    omega
  · omega
  · have scaled : (count.natAbs : ℚ) ≤ 2 ^ 13 * 2 ^ places := by
      rw [← pow_add]
      exact_mod_cast small
    rw [← units, equal, abs_div, ← Int.cast_abs, ← Nat.cast_natAbs,
      abs_of_pos (show (0 : ℚ) < 2 ^ places by positivity)]
    exact (div_le_iff₀ (by positivity)).mpr (by exact_mod_cast scaled)

theorem representable_zero : Representable .binary64 0 :=
  representable_fraction 0 0 (by norm_num) (by decide)

/-- The nearest integer of a finite value is at most a half away. -/
theorem abs_sub_nearestInt_le {format : FloatFormat} (x : Floating format)
    : |x.toRat - x.nearestInt| ≤ 1 / 2 := by
  have near {value : ℚ} (nonneg : 0 ≤ value) : |value - nearestEven value| ≤ 1 / 2 := by
    have upper := mt (lt_nearestEven_iff nonneg (nearestEven value)).mpr (lt_irrefl _)
    rw [not_or, not_lt] at upper
    rw [abs_le]
    constructor
    · rcases Nat.eq_zero_or_pos (nearestEven value) with none | some
      · rw [none, Nat.cast_zero]
        linarith
      · have lower := (lt_nearestEven_iff nonneg (nearestEven value - 1)).mp (by omega)
        rw [Nat.cast_pred some] at lower
        rcases lower with less | ⟨same, -⟩ <;> linarith
    · linarith
  have ratio
      : ((x.significand * twoPow x.exponent.toNat : Nat) : ℚ) / (twoPow (-x.exponent).toNat : Nat)
        = format.valueOf x.magnitude := by
    rw [Nat.cast_mul, mul_div_assoc, twoPow_div_twoPow]
    rfl
  have rounded := near (format.valueOf_nonneg x.magnitude)
  rw [nearestInt, roundedQuotient_eq (twoPow.pos _), ratio, toRat_eq]
  split
  · push_cast
    rwa [sub_neg_eq_add, neg_add_eq_sub, abs_sub_comm]
  · exact rounded

namespace Exponential

-----------------------------------------------------------------------------------------
-- The constants
-----------------------------------------------------------------------------------------

theorem toRat_of_parts {format : FloatFormat} {x : Floating format} {count unit : ℤ}
    (parts : x.signedSignificand = count ∧ x.exponent = unit)
    : x.toRat = count * 2 ^ unit := by
  rw [toRat, parts.1, parts.2]

theorem placesPerUnit_eq : placesPerUnit.toRat = (0x171547652b82fe : ℤ) * 2 ^ (-47 : ℤ) :=
  toRat_of_parts (by decide)

theorem cubic_eq : cubic.toRat = (0x1c6af84b912394 : ℤ) * 2 ^ (-72 : ℤ) :=
  toRat_of_parts (by decide)

theorem quadratic_eq : quadratic.toRat = (0x1ebfce50fac4f3 : ℤ) * 2 ^ (-65 : ℤ) :=
  toRat_of_parts (by decide)

theorem linear_eq : linear.toRat = (0x162e42ff0c52d6 : ℤ) * 2 ^ (-58 : ℤ) :=
  toRat_of_parts (by decide)

theorem least_eq : least.toRat = (-0xcff1b4 : ℤ) * 2 ^ (-17 : ℤ) :=
  toRat_of_parts (by decide)

-----------------------------------------------------------------------------------------
-- The powers of the table
-----------------------------------------------------------------------------------------

theorem powerBits_bounds {place : Nat} (known : place < 32)
    : 0x3ff0000000000000 ≤ powerBits.getD place 0
      ∧ powerBits.getD place 0 ≤ 0x3fff50765b6e4540 := by
  have all
      : ∀ place : Fin 32,
          0x3ff0000000000000 ≤ powerBits.getD place 0
          ∧ powerBits.getD place 0 ≤ 0x3fff50765b6e4540 := by
    decide +kernel
  exact all ⟨place, known⟩

theorem power_pred_eq : (power (-1)).toRat = (0x1f50765b6e4540 : ℤ) * 2 ^ (-53 : ℤ) :=
  toRat_of_parts (by decide +kernel)

/-- The pattern of a power with a negative exponent is at most that of the power of -1, which is the
last one of the table a binary place lower.
-/
theorem power_pattern {k : ℤ} (least : -4802 ≤ k) (negative : k ≤ -1)
    : ∃ size ≤ 0x3fef50765b6e4540, power k = ofMagnitude false size := by
  obtain ⟨low, high⟩ := powerBits_bounds (show (k % 32).toNat < 32 by omega)
  have rows : -151 ≤ k / 32 ∧ k / 32 ≤ -1 := by omega
  have step : twoPow 52 = 0x10000000000000 := by decide +kernel
  refine ⟨((powerBits.getD (k % 32).toNat 0 : ℤ) + k / 32 * twoPow 52).toNat, ?_, ?_⟩
  · rw [step]
    omega
  · rw [power, ofBits, ofMagnitude, if_neg Bool.false_ne_true, Nat.zero_add]

theorem power_between {k : ℤ} (least : -4802 ≤ k) (negative : k ≤ -1)
    : Between 0 (251 / 256) (power k) := by
  have span : FloatFormat.binary64.span = 0x8000000000000000 := by decide +kernel
  have infinity : FloatFormat.binary64.infinityMagnitude = 0x7ff0000000000000 := by decide +kernel
  have top : (power (-1)).position = 0x3fef50765b6e4540 := by decide +kernel
  obtain ⟨size, small, pattern⟩ := power_pattern least negative
  have magnitude : (power k).magnitude = size := by
    rw [pattern, magnitude_ofMagnitude (by omega)]
  have sign : (power k).negative = false := by
    rw [pattern, negative_ofMagnitude (by omega)]
  refine ⟨?_, ?_, ?_⟩
  · rw [isFinite_iff]
    omega
  · rw [toRat_eq, sign]
    exact FloatFormat.valueOf_nonneg _ _
  · have ordered : (power k).toRat ≤ (power (-1)).toRat := by
      rw [toRat_le_iff, top, position_eq, sign, magnitude, if_neg Bool.false_ne_true]
      exact_mod_cast small
    refine ordered.trans ?_
    rw [power_pred_eq]
    norm_num

-----------------------------------------------------------------------------------------
-- The reduced argument
-----------------------------------------------------------------------------------------

/-- The nearest integer of a rounded value is not much more than a half away from the exact one:
a larger gap would hold a value in double precision that rounding could not pass.
-/
theorem abs_sub_nearestInt_of_rounds {value : ℚ} {y : Binary64} (rounds : Rounds value y)
    (small : y.nearestInt.natAbs ≤ 4802)
    : |value - y.nearestInt| ≤ 65 / 128 := by
  have near := abs_le.mp (abs_sub_nearestInt_le y)
  have known (offset : ℤ) (slight : offset.natAbs ≤ 65)
      : Representable .binary64 (y.nearestInt + offset / 128) := by
    refine representable_fraction (128 * y.nearestInt + offset) 7 ?_ ?_
    · push_cast
      ring
    · omega
  rw [abs_le]
  constructor
  · by_contra! below
    have bound := rounds.toRat_le_of_le (known (-65) (by decide)) (by push_cast; linarith)
    push_cast at bound
    linarith
  · by_contra! above
    have bound := rounds.le_toRat_of_le (known 65 (by decide)) (by push_cast; linarith)
    push_cast at bound
    linarith

section

variable {x : Binary32}

theorem argument_between (number : x.isNaN = false) (nonpositive : x.position ≤ 0)
    (above : ¬x.less least = true)
    : Between (-104) 0 x := by
  have leastNumber : least.isNaN = false := by decide +kernel
  have leastPosition : least.position = -0x42cff1b4 := by decide +kernel
  have infinite : FloatFormat.binary32.infinityMagnitude = 0x7f800000 := by decide +kernel
  have ordered : least.position ≤ x.position := by
    simpa [less_iff, number, leastNumber] using above
  refine ⟨?_, ?_, ?_⟩
  · rw [isFinite_iff, ← natAbs_position]
    omega
  · refine le_trans ?_ (toRat_le_iff.mpr ordered)
    rw [least_eq]
    norm_num
  · have below : x.toRat ≤ (zero false : Binary32).toRat := toRat_le_iff.mpr nonpositive
    rwa [toRat_zero] at below

theorem wide_between (argument : Between (-104) 0 x)
    : Between (-104) 0 (x.convert : Binary64) :=
  (rounds_convert argument.finite).between
    (representable_fraction (-104) 0 (by norm_num) (by decide)) representable_zero
    argument.above argument.below

/-- What the reduction of an argument leaves: a count of places and a rest. -/
structure Reduced (k : ℤ) (r : Binary64) : Prop where
  least : -4802 ≤ k
  nonpositive : k ≤ 0
  rest : Between (-65 / 128) (65 / 128) r
  /-- Where there are no places, the rest is the whole argument. -/
  whole : k = 0 → r.toRat ≤ 0

theorem reduced_ofWide {wide : Binary64} (argument : Between (-104) 0 wide)
    : Reduced (placesPerUnit.mul wide).nearestInt
        (placesPerUnit.mulAdd wide (ofInt (-(placesPerUnit.mul wide).nearestInt))) := by
  have finite : placesPerUnit.isFinite = true := by decide +kernel
  have places := rounds_mul finite argument.finite
  have exact : placesPerUnit.toRat * wide.toRat ∈ Set.Icc (-4802 : ℚ) 0 := by
    rw [placesPerUnit_eq]
    constructor <;> norm_num <;> linarith [argument.above, argument.below]
  have count := places.between (representable_fraction (-4802) 0 (by norm_num) (by decide))
    representable_zero exact.1 exact.2
  have near := abs_le.mp (abs_sub_nearestInt_le (placesPerUnit.mul wide))
  have gap := abs_sub_nearestInt_of_rounds places
  generalize placesPerUnit.mul wide = y at *
  generalize y.nearestInt = k at *
  have least : -4802 ≤ k := by
    have above : (-4803 : ℚ) < k := by linarith [count.above]
    exact_mod_cast above
  have nonpositive : k ≤ 0 := by
    have below : (k : ℚ) < 1 := by linarith [count.below]
    exact Int.lt_add_one_iff.mp (by exact_mod_cast below)
  have small := abs_le.mp (gap (by omega))
  have offset : Rounds ((-k : ℤ) : ℚ) (ofInt (-k) : Binary64) := rounds_ofInt (-k)
  obtain ⟨finiteOffset, offsetEq⟩ := offset.exact
    (representable_fraction (-k) 0 (by simp) (by omega))
  have rest := rounds_mulAdd finite argument.finite finiteOffset
  rw [offsetEq] at rest
  push_cast at rest
  refine ⟨least, nonpositive, rest.between ?_ ?_ ?_ ?_, ?_⟩
  · exact representable_fraction (-65) 7 (by norm_num) (by decide)
  · exact representable_fraction 65 7 (by norm_num) (by decide)
  · linarith
  · linarith
  · rintro rfl
    exact rest.toRat_le_of_le representable_zero (by simpa using exact.2)

end

-----------------------------------------------------------------------------------------
-- The polynomial
-----------------------------------------------------------------------------------------

section

variable {r : Binary64}

/-- The polynomial for `2 ^ (r / 32)`, with the coefficients taken together in pairs. -/
def polynomial (r : Binary64) : Binary64 :=
  (cubic.mulAdd r quadratic).mulAdd (r.mul r) (linear.mulAdd r one)

theorem upper_between (rest : Between (-65 / 128) (65 / 128) r)
    : Between 0 (31 / 131072) (cubic.mulAdd r quadratic) := by
  have rounds := rounds_mulAdd (x := cubic) (z := quadratic) (by decide +kernel) rest.finite
    (by decide +kernel)
  rw [cubic_eq, quadratic_eq] at rounds
  norm_num at rounds
  refine rounds.between representable_zero
    (representable_fraction 31 17 (by norm_num) (by decide)) ?_ ?_
  · linarith [rest.above]
  · linarith [rest.below]

theorem square_between (rest : Between (-65 / 128) (65 / 128) r)
    : Between 0 (17 / 64) (r.mul r) := by
  refine (rounds_mul rest.finite rest.finite).between representable_zero
    (representable_fraction 17 6 (by norm_num) (by decide)) (mul_self_nonneg _) ?_
  nlinarith [rest.above, rest.below]

theorem lower_rounds (rest : Between (-65 / 128) (65 / 128) r)
    : Rounds (linear.toRat * r.toRat + 1) (linear.mulAdd r one) := by
  have rounds := rounds_mulAdd (x := linear) (by decide +kernel) rest.finite
    (isFinite_one .binary64)
  rwa [toRat_one] at rounds

theorem lower_between (rest : Between (-65 / 128) (65 / 128) r)
    : Between (63 / 64) (259 / 256) (linear.mulAdd r one) := by
  refine (lower_rounds rest).between (representable_fraction 63 6 (by norm_num) (by decide))
    (representable_fraction 259 8 (by norm_num) (by decide)) ?_ ?_ <;> rw [linear_eq]
  · norm_num
    linarith [rest.above]
  · norm_num
    linarith [rest.below]

theorem polynomial_rounds (rest : Between (-65 / 128) (65 / 128) r)
    : Rounds
        ((cubic.mulAdd r quadratic).toRat * (r.mul r).toRat + (linear.mulAdd r one).toRat)
        (polynomial r) :=
  rounds_mulAdd (upper_between rest).finite (square_between rest).finite
    (lower_between rest).finite

/-- The polynomial stays near 1. -/
theorem polynomial_between (rest : Between (-65 / 128) (65 / 128) r)
    : Between (63 / 64) (65 / 64) (polynomial r) := by
  have upper := upper_between rest
  have square := square_between rest
  have lower := lower_between rest
  have bend : (cubic.mulAdd r quadratic).toRat * (r.mul r).toRat ≤ 31 / 131072 * (17 / 64) :=
    mul_le_mul upper.below square.below square.above (by norm_num)
  refine (polynomial_rounds rest).between
    (representable_fraction 63 6 (by norm_num) (by decide))
    (representable_fraction 65 6 (by norm_num) (by decide)) ?_ ?_
  · linarith [mul_nonneg upper.above square.above, lower.above]
  · linarith [lower.below]

/-- Where the rest is not positive, the polynomial is hardly above 1: for a small rest the square
vanishes beside 1, and for others the linear part makes up for it.
-/
theorem polynomial_le (rest : Between (-65 / 128) (65 / 128) r) (nonpositive : r.toRat ≤ 0)
    : (polynomial r).toRat ≤ 1 + 1 / 67108864 := by
  have upper := upper_between rest
  have square := square_between rest
  have linearPositive : (0 : ℚ) ≤ linear.toRat := by
    rw [linear_eq]
    norm_num
  refine (polynomial_rounds rest).toRat_le_of_le
    (representable_fraction 67108865 26 (by norm_num) (by decide)) ?_
  rcases le_or_gt (-1 / 128) r.toRat with slight | steep
  · have flat : (r.mul r).toRat ≤ 1 / 16384 := by
      refine (rounds_mul rest.finite rest.finite).toRat_le_of_le
        (representable_fraction 1 14 (by norm_num) (by decide)) ?_
      nlinarith
    have bend : (cubic.mulAdd r quadratic).toRat * (r.mul r).toRat ≤ 31 / 131072 * (1 / 16384) :=
      mul_le_mul upper.below flat square.above (by norm_num)
    have line : (linear.mulAdd r one).toRat ≤ 1 :=
      (lower_rounds rest).toRat_le_of_le (representable_fraction 1 0 (by norm_num) (by decide))
        (by linarith [mul_nonpos_of_nonneg_of_nonpos linearPositive nonpositive])
    linarith
  · have bend : (cubic.mulAdd r quadratic).toRat * (r.mul r).toRat ≤ 31 / 131072 * (17 / 64) :=
      mul_le_mul upper.below square.below square.above (by norm_num)
    have line : (linear.mulAdd r one).toRat ≤ 8191 / 8192 := by
      refine (lower_rounds rest).toRat_le_of_le
        (representable_fraction 8191 13 (by norm_num) (by decide)) ?_
      rw [linear_eq]
      norm_num
      linarith
    linarith

end

-----------------------------------------------------------------------------------------
-- The result
-----------------------------------------------------------------------------------------

/-- The result in double precision is hardly above 1, by cases on whether a power below 1 takes
part.
-/
theorem product_between {k : ℤ} {r : Binary64} (reduced : Reduced k r)
    : Between 0 (1 + 1 / 67108864) ((polynomial r).mul (power k)) := by
  have factor := polynomial_between reduced.rest
  have highKnown : Representable .binary64 (1 + 1 / 67108864) :=
    representable_fraction 67108865 26 (by norm_num) (by decide)
  rcases reduced.nonpositive.lt_or_eq with negative | none
  · have scale := power_between reduced.least (by omega)
    have product := mul_le_mul factor.below scale.below scale.above (by norm_num)
    refine (rounds_mul factor.finite scale.finite).between representable_zero highKnown ?_ ?_
    · exact mul_nonneg (by linarith [factor.above]) scale.above
    · linarith
  · have unit : power k = one := by
      rw [none]
      decide +kernel
    have bound := polynomial_le reduced.rest (reduced.whole none)
    have rounds := rounds_mul factor.finite (isFinite_one .binary64)
    rw [toRat_one, mul_one] at rounds
    rw [unit]
    exact rounds.between representable_zero highKnown (by linarith [factor.above]) bound

theorem magnitudeOf_hardly_above_one
    : FloatFormat.binary32.magnitudeOf (1 + 1 / 67108864) = (one : Binary32).magnitude := by
  have pattern
      : (ofRatio false 67108865 67108864 0 : Binary32).magnitude = (one : Binary32).magnitude := by
    decide +kernel
  have infinite : (one : Binary32).magnitude < FloatFormat.binary32.infinityMagnitude := by
    decide +kernel
  rw [ofRatio_eq false 67108865 (by decide),
    magnitude_ofMagnitude ((min_le_right _ _).trans_lt (infinity_lt _))] at pattern
  have ratio : ((67108865 : Nat) : ℚ) / (67108864 : Nat) * 2 ^ (0 : ℤ) = 1 + 1 / 67108864 := by
    norm_num
  rw [ratio] at pattern
  omega

/-- What is hardly above 1 in double precision is at most 1 in single precision. -/
theorem convert_position {y : Binary64} (result : Between 0 (1 + 1 / 67108864) y)
    : (y.convert : Binary32).isNaN = false
      ∧ 0 ≤ (y.convert : Binary32).position
      ∧ (y.convert : Binary32).position ≤ (one : Binary32).position := by
  have rounds : Rounds y.toRat (y.convert : Binary32) := rounds_convert result.finite
  have small : (y.convert : Binary32).magnitude ≤ (one : Binary32).magnitude := by
    rw [rounds.magnitude, abs_of_nonneg result.above, ← magnitudeOf_hardly_above_one]
    exact (min_le_left _ _).trans (FloatFormat.magnitudeOf_mono _ result.above result.below)
  have finite := isFinite_iff.mp (isFinite_one .binary32)
  refine ⟨isNaN_eq_false_iff.mpr (by omega), ?_⟩
  rw [position_eq, position_eq, negative_one, if_neg Bool.false_ne_true]
  rcases result.above.eq_or_lt with none | positive
  · rw [← none] at rounds
    have noSize : (y.convert : Binary32).magnitude = 0 := by
      rw [rounds.magnitude, abs_zero, FloatFormat.magnitudeOf, if_pos rfl, Nat.zero_min]
    rw [noSize]
    split <;> omega
  · rw [rounds.positive positive, if_neg Bool.false_ne_true]
    omega

end Exponential

/-- The exponential of an argument that is not positive is a number from 0 to 1, by the cases of its
definition.
-/
theorem exp_between {x : Binary32} (number : x.isNaN = false) (nonpositive : x.position ≤ 0)
    : x.exp.isNaN = false
      ∧ 0 ≤ x.exp.position
      ∧ x.exp.position ≤ (one : Binary32).position := by
  have greatest : 0 < Exponential.greatest.position := by decide +kernel
  rw [exp, if_neg (by simp [number]), if_neg (by rw [less_iff]; omega)]
  split
  · decide +kernel
  next above =>
    have argument := Exponential.argument_between number nonpositive above
    exact Exponential.convert_position (Exponential.product_between
      (Exponential.reduced_ofWide (Exponential.wide_between argument)))

theorem isNaN_exp {x : Binary32} (nan : x.isNaN = true) : x.exp.isNaN = true := by
  rw [exp, if_pos nan]
  exact isNaN_quiet nan

theorem exp_zero (sign : Bool) : (zero sign : Binary32).exp = one := by
  cases sign <;> decide +kernel

end TensorGraph.Floating
