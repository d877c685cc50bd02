import TensorGraph.Proofs.Floating.Rounding

/-! Arithmetic on finite values, as rounding of the exact rational result.

A bound on the exact result that is itself a value of the format is a bound on the rounded one.
-/

namespace TensorGraph.Floating

open FloatFormat (valueOf_le_iff)

variable {format : FloatFormat} {x y z : Floating format} {value : ℚ}

-----------------------------------------------------------------------------------------
-- Finite values as rational numbers
-----------------------------------------------------------------------------------------

/-- The rational number that a finite value stands for. -/
def toRat (x : Floating format) : ℚ :=
  x.signedSignificand * 2 ^ x.exponent

theorem significand_mul_exponent (x : Floating format)
    : (x.significand : ℚ) * 2 ^ x.exponent = format.valueOf x.magnitude :=
  rfl

theorem toRat_eq (x : Floating format)
    : x.toRat
      = if x.negative then -format.valueOf x.magnitude else format.valueOf x.magnitude := by
  rw [toRat, signedSignificand, ← significand_mul_exponent]
  split
  · push_cast
    rw [neg_mul]
  · rw [Int.cast_natCast]

theorem abs_toRat (x : Floating format) : |x.toRat| = format.valueOf x.magnitude := by
  rw [toRat_eq]
  split
  · rw [abs_neg, abs_of_nonneg (format.valueOf_nonneg _)]
  · rw [abs_of_nonneg (format.valueOf_nonneg _)]

theorem toRat_neg (x : Floating format) : x.neg.toRat = -x.toRat := by
  rw [toRat_eq, toRat_eq, neg, negative_ofMagnitude x.magnitude_lt,
    magnitude_ofMagnitude x.magnitude_lt]
  cases x.negative <;> simp

theorem valueOf_eq_zero_iff {magnitude : Nat} : format.valueOf magnitude = 0 ↔ magnitude = 0 := by
  have zero : format.valueOf 0 = 0 := by simp [FloatFormat.valueOf, twoPow.pos]
  constructor
  · intro none
    exact Nat.le_zero.mp (valueOf_le_iff.mp (none.trans zero.symm).le)
  · rintro rfl
    exact zero

/-- The order of finite values is the order of their positions, by cases on the signs. -/
theorem toRat_le_iff : x.toRat ≤ y.toRat ↔ x.position ≤ y.position := by
  have first := format.valueOf_nonneg x.magnitude
  have second := format.valueOf_nonneg y.magnitude
  rw [toRat_eq, toRat_eq, position_eq, position_eq]
  cases x.negative <;> cases y.negative <;>
    simp only [Bool.false_eq_true, if_true, if_false]
  · rw [valueOf_le_iff, Int.ofNat_le]
  · constructor
    · intro ordered
      have none := valueOf_eq_zero_iff.mp (le_antisymm (by linarith) first)
      have noneToo := valueOf_eq_zero_iff.mp (le_antisymm (by linarith) second)
      omega
    · intro ordered
      have none : x.magnitude = 0 := by omega
      have noneToo : y.magnitude = 0 := by omega
      rw [none, noneToo, valueOf_eq_zero_iff.mpr rfl, neg_zero]
  · exact ⟨fun _ => by omega, fun _ => by linarith⟩
  · rw [neg_le_neg_iff, valueOf_le_iff]
    omega

@[simp]
theorem toRat_zero (sign : Bool) : (zero sign : Floating format).toRat = 0 := by
  have none : format.valueOf (zero sign : Floating format).magnitude = 0 :=
    valueOf_eq_zero_iff.mpr (magnitude_zero sign)
  rw [toRat_eq, none, neg_zero, ite_self]

theorem one_lt_infinity [proper : format.Proper]
    : (twoPow (format.exponentBits - 1) - 1) * twoPow format.fractionBits
      < format.infinityMagnitude := by
  have double : twoPow format.exponentBits = 2 * twoPow (format.exponentBits - 1) := by
    rw [← twoPow.succ, Nat.sub_add_cancel (Nat.le_of_lt proper.exponentBits)]
  have positive := twoPow.pos (format.exponentBits - 1)
  apply Nat.mul_lt_mul_of_pos_right _ (twoPow.pos _)
  omega

theorem magnitude_one [format.Proper]
    : (one : Floating format).magnitude
      = (twoPow (format.exponentBits - 1) - 1) * twoPow format.fractionBits :=
  magnitude_ofMagnitude (one_lt_infinity.trans (infinity_lt format))

theorem negative_one [format.Proper] : (one : Floating format).negative = false :=
  negative_ofMagnitude (one_lt_infinity.trans (infinity_lt format))

theorem isFinite_one (format : FloatFormat) [format.Proper]
    : (one : Floating format).isFinite = true := by
  rw [isFinite_iff, magnitude_one]
  exact one_lt_infinity

theorem toRat_one (format : FloatFormat) [proper : format.Proper]
    : (one : Floating format).toRat = 1 := by
  have two : 2 ≤ twoPow (format.exponentBits - 1) := by
    obtain ⟨more, bits⟩ := Nat.exists_eq_add_of_le proper.exponentBits
    have bitsLess : format.exponentBits - 1 = more + 1 := by omega
    rw [bitsLess, twoPow.succ]
    have positive := twoPow.pos more
    omega
  have row
      : (twoPow (format.exponentBits - 1) - 1) * twoPow format.fractionBits
        = (twoPow (format.exponentBits - 1) - 2) * twoPow format.fractionBits
          + twoPow format.fractionBits := by
    rw [← Nat.succ_mul]
    congr 1
    omega
  have exponent
      : format.leastExponent + (twoPow (format.exponentBits - 1) - 2 : Nat)
        = -(format.fractionBits : ℤ) := by
    rw [FloatFormat.leastExponent]
    omega
  rw [toRat_eq, negative_one, magnitude_one, row,
    FloatFormat.valueOf_row (by omega) (.inr le_rfl), exponent, cast_twoPow, zpow_neg, zpow_natCast]
  exact mul_inv_cancel₀ (by positivity)

-----------------------------------------------------------------------------------------
-- Rounding of an exact result
-----------------------------------------------------------------------------------------

/-- A value is the rounded form of an exact result; a zero may have either sign. -/
structure Rounds (value : ℚ) (x : Floating format) : Prop where
  magnitude : x.magnitude = min (format.magnitudeOf |value|) format.infinityMagnitude
  positive : 0 < value → x.negative = false
  negative : value < 0 → x.negative = true

theorem Rounds.neg (rounds : Rounds value x) : Rounds (-value) x.neg := by
  have sign : x.neg.negative = !x.negative := negative_ofMagnitude x.magnitude_lt
  refine ⟨?_, ?_, ?_⟩
  · rw [abs_neg, ← rounds.magnitude]
    exact magnitude_ofMagnitude x.magnitude_lt
  · intro positive
    rw [sign, rounds.negative (neg_pos.mp positive), Bool.not_true]
  · intro negative
    rw [sign, rounds.positive (neg_lt_zero.mp negative), Bool.not_false]

/-- An upper bound that is a finite value stays one, by cases on the sign of the result. -/
theorem Rounds.toRat_le (rounds : Rounds value x) (finite : y.isFinite = true)
    (below : value ≤ y.toRat)
    : x.toRat ≤ y.toRat := by
  have size := abs_toRat y
  rcases lt_or_ge value 0 with negative | nonneg
  · have low : x.toRat = -format.valueOf x.magnitude := by
      rw [toRat_eq, rounds.negative negative, if_pos rfl]
    rcases le_or_gt 0 y.toRat with above | under
    · have := format.valueOf_nonneg x.magnitude
      linarith
    · rw [abs_of_neg under] at size
      have smaller : format.valueOf y.magnitude ≤ |value| := by
        rw [abs_of_neg negative]
        linarith
      have magnitudes : y.magnitude ≤ x.magnitude := by
        rw [rounds.magnitude]
        exact le_min (FloatFormat.le_magnitudeOf smaller) (isFinite_iff.mp finite).le
      have ordered : format.valueOf y.magnitude ≤ format.valueOf x.magnitude :=
        valueOf_le_iff.mpr magnitudes
      linarith
  · rw [abs_of_nonneg (nonneg.trans below)] at size
    have greater : |value| ≤ format.valueOf y.magnitude := by
      rw [abs_of_nonneg nonneg]
      linarith
    have magnitudes : x.magnitude ≤ y.magnitude := by
      rw [rounds.magnitude]
      exact (min_le_left _ _).trans (FloatFormat.magnitudeOf_le (abs_nonneg _) greater)
    calc x.toRat
      _ ≤ |x.toRat| := le_abs_self _
      _ = format.valueOf x.magnitude := abs_toRat x
      _ ≤ format.valueOf y.magnitude := valueOf_le_iff.mpr magnitudes
      _ = y.toRat := size.symm

/-- A number is the value of a finite pattern of a format. -/
def Representable (format : FloatFormat) (value : ℚ) : Prop :=
  ∃ x : Floating format, x.isFinite = true ∧ x.toRat = value

theorem Representable.neg (known : Representable format value) : Representable format (-value) := by
  obtain ⟨x, finite, rfl⟩ := known
  refine ⟨x.neg, ?_, toRat_neg x⟩
  rw [isFinite_iff] at finite ⊢
  rwa [Floating.neg, magnitude_ofMagnitude x.magnitude_lt]

/-- A value is finite and lies between two numbers. -/
structure Between (low high : ℚ) (x : Floating format) : Prop where
  finite : x.isFinite = true
  above : low ≤ x.toRat
  below : x.toRat ≤ high

theorem Rounds.toRat_le_of_le {bound : ℚ} (rounds : Rounds value x)
    (known : Representable format bound) (below : value ≤ bound)
    : x.toRat ≤ bound := by
  obtain ⟨y, finite, rfl⟩ := known
  exact rounds.toRat_le finite below

theorem Rounds.le_toRat_of_le {bound : ℚ} (rounds : Rounds value x)
    (known : Representable format bound) (above : bound ≤ value)
    : bound ≤ x.toRat := by
  have flipped := rounds.neg.toRat_le_of_le known.neg (neg_le_neg above)
  rw [toRat_neg] at flipped
  exact neg_le_neg_iff.mp flipped

/-- A result between two values of the format is rounded to a value between them. -/
theorem Rounds.between {low high : ℚ} (rounds : Rounds value x)
    (lowKnown : Representable format low) (highKnown : Representable format high)
    (above : low ≤ value) (below : value ≤ high)
    : Between low high x := by
  refine ⟨?_, rounds.le_toRat_of_le lowKnown above, rounds.toRat_le_of_le highKnown below⟩
  obtain ⟨lower, lowerFinite, rfl⟩ := lowKnown
  obtain ⟨upper, upperFinite, rfl⟩ := highKnown
  have bounded : ∃ magnitude < format.infinityMagnitude, |value| ≤ format.valueOf magnitude := by
    rcases abs_choice value with same | flipped
    · refine ⟨upper.magnitude, isFinite_iff.mp upperFinite, ?_⟩
      rw [same, ← abs_toRat]
      exact below.trans (le_abs_self _)
    · refine ⟨lower.magnitude, isFinite_iff.mp lowerFinite, ?_⟩
      rw [flipped, ← abs_toRat]
      exact (neg_le_neg above).trans (neg_le_abs _)
  obtain ⟨magnitude, small, greater⟩ := bounded
  rw [isFinite_iff, rounds.magnitude]
  exact (min_le_left _ _).trans_lt
    ((FloatFormat.magnitudeOf_le (abs_nonneg _) greater).trans_lt small)

/-- A result that is a value of the format is not changed. -/
theorem Rounds.exact (rounds : Rounds value x) (known : Representable format value)
    : x.isFinite = true ∧ x.toRat = value := by
  have between := rounds.between known known le_rfl le_rfl
  exact ⟨between.finite, le_antisymm between.below between.above⟩

/-- A whole number of units, with no more places than a value has and no greater than some finite
value, is representable.
-/
theorem representable_units {count unit : ℤ} {magnitude : Nat}
    (few : count.natAbs < 2 * twoPow format.fractionBits) (least : format.leastExponent ≤ unit)
    (small : |(count * 2 ^ unit : ℚ)| ≤ format.valueOf magnitude)
    (finite : magnitude < format.infinityMagnitude)
    : Representable format (count * 2 ^ unit) := by
  have size : |(count * 2 ^ unit : ℚ)| = count.natAbs * 2 ^ unit := by
    rw [abs_mul, Nat.cast_natAbs, Int.cast_abs, abs_of_pos (show (0 : ℚ) < 2 ^ unit by positivity)]
  rw [size] at small
  have below := (FloatFormat.magnitudeOf_le (by positivity) small).trans_lt finite
  have inSpan := below.trans (infinity_lt format)
  have value
      : format.valueOf (format.magnitudeOf (count.natAbs * 2 ^ unit))
        = count.natAbs * 2 ^ unit := by
    rcases Nat.eq_zero_or_pos count.natAbs with none | some
    · rw [none, Nat.cast_zero, zero_mul, FloatFormat.magnitudeOf, if_pos rfl]
      exact valueOf_eq_zero_iff.mpr rfl
    · exact FloatFormat.valueOf_magnitudeOf_units some few least
  refine ⟨ofMagnitude (decide (count < 0)) (format.magnitudeOf (count.natAbs * 2 ^ unit)), ?_, ?_⟩
  · rw [isFinite_iff, magnitude_ofMagnitude inSpan]
    exact below
  · rw [toRat_eq, magnitude_ofMagnitude inSpan, negative_ofMagnitude inSpan, value,
      Nat.cast_natAbs]
    by_cases negative : count < 0
    · simp [negative, abs_of_neg negative]
    · simp [negative, abs_of_nonneg (not_lt.mp negative)]

-----------------------------------------------------------------------------------------
-- The operations
-----------------------------------------------------------------------------------------

theorem rounds_ofRatio (format : FloatFormat) (sign : Bool) (numerator : Nat) {denominator : Nat}
    (positive : 0 < denominator) (scale : ℤ)
    : Rounds
        (if sign then -(numerator / denominator * 2 ^ scale : ℚ)
          else numerator / denominator * 2 ^ scale)
        (ofRatio sign numerator denominator scale : Floating format) := by
  have nonneg : (0 : ℚ) ≤ numerator / denominator * 2 ^ scale := by positivity
  have small (magnitude : Nat) : min magnitude format.infinityMagnitude < format.span :=
    (min_le_right _ _).trans_lt (infinity_lt format)
  rw [ofRatio_eq sign numerator positive]
  refine ⟨?_, ?_, ?_⟩
  · rw [magnitude_ofMagnitude (small _)]
    split
    · rw [abs_neg, abs_of_nonneg nonneg]
    · rw [abs_of_nonneg nonneg]
  · rw [negative_ofMagnitude (small _)]
    cases sign with
    | true =>
        intro positive
        rw [if_pos rfl] at positive
        linarith
    | false => exact fun _ => rfl
  · rw [negative_ofMagnitude (small _)]
    cases sign with
    | true => exact fun _ => rfl
    | false =>
        intro negative
        rw [if_neg Bool.false_ne_true] at negative
        linarith

/-- A product of finite values is rounded from the exact one. -/
theorem rounds_mul (first : x.isFinite = true) (second : y.isFinite = true)
    : Rounds (x.toRat * y.toRat) (x.mul y) := by
  have ratio := rounds_ofRatio format (x.negative != y.negative)
    (x.significand * y.significand) Nat.one_pos (x.exponent + y.exponent)
  have exactly
      : x.toRat * y.toRat
        = if x.negative != y.negative then
            -(((x.significand * y.significand : Nat) : ℚ) / (1 : Nat)
              * 2 ^ (x.exponent + y.exponent))
          else
            ((x.significand * y.significand : Nat) : ℚ) / (1 : Nat)
            * 2 ^ (x.exponent + y.exponent) := by
    rw [toRat_eq, toRat_eq, ← significand_mul_exponent, ← significand_mul_exponent,
      zpow_add₀ two_ne_zero]
    cases x.negative <;> cases y.negative <;> simp <;> ring
  rw [exactly]
  simpa only [mul, isNaN_of_isFinite first, isNaN_of_isFinite second, isInfinite_of_isFinite first,
    isInfinite_of_isFinite second, Bool.false_eq_true, if_false] using ratio

theorem significand_pos (some : x.isZero = false) : 0 < x.significand := by
  have size : x.magnitude ≠ 0 := by
    rwa [isZero, decide_eq_false_iff_not] at some
  have bound := twoPow.pos format.fractionBits
  rw [significand]
  split <;> omega

/-- A quotient of finite values is rounded from the exact one. -/
theorem rounds_div (first : x.isFinite = true) (second : y.isFinite = true)
    (some : y.isZero = false)
    : Rounds (x.toRat / y.toRat) (x.div y) := by
  have ratio := rounds_ofRatio format (x.negative != y.negative) x.significand
    (significand_pos some) (x.exponent - y.exponent)
  have exactly
      : x.toRat / y.toRat
        = if x.negative != y.negative then
            -((x.significand : ℚ) / y.significand * 2 ^ (x.exponent - y.exponent))
          else (x.significand : ℚ) / y.significand * 2 ^ (x.exponent - y.exponent) := by
    have parts
        : (x.significand : ℚ) / y.significand * 2 ^ (x.exponent - y.exponent)
          = format.valueOf x.magnitude / format.valueOf y.magnitude := by
      rw [← significand_mul_exponent, ← significand_mul_exponent, zpow_sub₀ two_ne_zero,
        mul_div_mul_comm]
    rw [parts, toRat_eq, toRat_eq]
    cases x.negative <;> cases y.negative <;> simp [neg_div, div_neg]
  rw [exactly]
  simpa only [div, isNaN_of_isFinite first, isNaN_of_isFinite second, isInfinite_of_isFinite first,
    isInfinite_of_isFinite second, some, Bool.false_eq_true, if_false] using ratio

/-- A sum of scaled integers is rounded from the exact one. -/
theorem rounds_ofSum (zeroSign : Bool) (a p b q : ℤ)
    : Rounds (a * 2 ^ p + b * 2 ^ q) (ofSum zeroSign a p b q : Floating format) := by
  have aligned
      : (a * 2 ^ p + b * 2 ^ q : ℚ)
        = (a * twoPow (p - min p q).toNat + b * twoPow (q - min p q).toNat : ℤ)
          * 2 ^ min p q := by
    have power (exponent : ℤ) (above : min p q ≤ exponent)
        : (2 : ℚ) ^ exponent = twoPow (exponent - min p q).toNat * 2 ^ min p q := by
      rw [cast_twoPow, ← zpow_natCast, ← zpow_add₀ two_ne_zero]
      congr 1
      omega
    rw [power p (min_le_left _ _), power q (min_le_right _ _)]
    push_cast
    ring
  rw [aligned]
  unfold ofSum
  dsimp only
  generalize a * (twoPow (p - min p q).toNat : ℤ) + b * (twoPow (q - min p q).toNat : ℤ) = total
  split
  next none =>
    rw [none, Int.cast_zero, zero_mul]
    refine ⟨?_, ?_, ?_⟩
    · rw [magnitude_zero, abs_zero, FloatFormat.magnitudeOf, if_pos rfl, Nat.zero_min]
    · exact fun positive => absurd positive (lt_irrefl 0)
    · exact fun negative => absurd negative (lt_irrefl 0)
  next =>
    have ratio := rounds_ofRatio format (decide (total < 0)) total.natAbs Nat.one_pos
      (min p q)
    have signed
        : (total : ℚ) * 2 ^ min p q
          = if decide (total < 0) then -((total.natAbs : ℚ) / (1 : Nat) * 2 ^ min p q)
            else (total.natAbs : ℚ) / (1 : Nat) * 2 ^ min p q := by
      rw [Nat.cast_natAbs, Nat.cast_one, div_one]
      by_cases below : total < 0
      · simp [below, abs_of_neg below]
      · simp [below, abs_of_nonneg (not_lt.mp below)]
    rw [signed]
    exact ratio

/-- A product plus a third value is rounded once from the exact result. -/
theorem rounds_mulAdd (first : x.isFinite = true) (second : y.isFinite = true)
    (third : z.isFinite = true)
    : Rounds (x.toRat * y.toRat + z.toRat) (x.mulAdd y z) := by
  have exactly
      : x.toRat * y.toRat + z.toRat
        = (x.signedSignificand * y.signedSignificand : ℤ) * 2 ^ (x.exponent + y.exponent)
          + z.signedSignificand * 2 ^ z.exponent := by
    rw [toRat, toRat, toRat, zpow_add₀ two_ne_zero]
    push_cast
    ring
  rw [exactly]
  simpa only [mulAdd, isNaN_of_isFinite first, isNaN_of_isFinite second, isNaN_of_isFinite third,
    isInfinite_of_isFinite first, isInfinite_of_isFinite second, isInfinite_of_isFinite third,
    Bool.false_eq_true, if_false, Bool.or_false]
    using rounds_ofSum ((x.negative != y.negative) && z.negative)
      (x.signedSignificand * y.signedSignificand) (x.exponent + y.exponent)
      z.signedSignificand z.exponent

theorem rounds_convert {target : FloatFormat} (finite : x.isFinite = true)
    : Rounds x.toRat (x.convert : Floating target) := by
  have ratio := rounds_ofRatio target x.negative x.significand Nat.one_pos x.exponent
  rw [Nat.cast_one, div_one, significand_mul_exponent, ← toRat_eq] at ratio
  simpa only [convert, isNaN_of_isFinite finite, isInfinite_of_isFinite finite, Bool.false_eq_true,
    if_false] using ratio

theorem rounds_ofInt (value : ℤ) : Rounds value (ofInt value : Floating format) := by
  have ratio := rounds_ofRatio format (decide (value < 0)) value.natAbs Nat.one_pos 0
  have signed
      : (value : ℚ)
        = if decide (value < 0) then -((value.natAbs : ℚ) / (1 : Nat) * 2 ^ (0 : ℤ))
          else (value.natAbs : ℚ) / (1 : Nat) * 2 ^ (0 : ℤ) := by
    rw [Nat.cast_natAbs, Nat.cast_one, div_one, zpow_zero, mul_one]
    by_cases below : value < 0
    · simp [below, abs_of_neg below]
    · simp [below, abs_of_nonneg (not_lt.mp below)]
  rw [signed]
  exact ratio

theorem rounds_ofNat (value : ℕ) : Rounds value (ofNat value : Floating format) := by
  have ratio := rounds_ofRatio format false value Nat.one_pos 0
  rw [if_neg Bool.false_ne_true, Nat.cast_one, div_one, zpow_zero, mul_one] at ratio
  exact ratio

/-- A number of no more than 24 bits is a value in single precision. -/
theorem representable_natCast {value : ℕ} (small : value < twoPow 24)
    : Representable .binary32 value := by
  have least : FloatFormat.binary32.leastExponent = -149 := by decide
  have greatest : FloatFormat.binary32.valueOf (150 * twoPow 23 + twoPow 23) = twoPow 24 := by
    have row
        : FloatFormat.binary32.valueOf (150 * twoPow 23 + twoPow 23)
          = (twoPow 23 : Nat) * 2 ^ (FloatFormat.binary32.leastExponent + (150 : Nat)) :=
      FloatFormat.valueOf_row (by decide) (.inr le_rfl)
    rw [row, least, twoPow.succ 23, Nat.cast_mul, mul_comm]
    rfl
  have known
      : Representable .binary32 (((value : ℤ) : ℚ) * 2 ^ (0 : ℤ)) := by
    refine representable_units small (by omega) (le_of_le_of_eq ?_ greatest.symm) (by decide)
    rw [zpow_zero, mul_one, Int.cast_natCast, Nat.abs_cast]
    exact_mod_cast small.le
  rwa [zpow_zero, mul_one, Int.cast_natCast] at known

-----------------------------------------------------------------------------------------
-- Products
-----------------------------------------------------------------------------------------

theorem negative_infinity (sign : Bool) : (infinity sign : Floating format).negative = sign :=
  negative_ofMagnitude (infinity_lt format)

theorem magnitude_infinity (sign : Bool)
    : (infinity sign : Floating format).magnitude = format.infinityMagnitude :=
  magnitude_ofMagnitude (infinity_lt format)

theorem negative_ofRatio (sign : Bool) (numerator : Nat) {denominator : Nat}
    (positive : 0 < denominator) (scale : ℤ)
    : (ofRatio sign numerator denominator scale : Floating format).negative = sign := by
  rw [ofRatio_eq sign numerator positive]
  exact negative_ofMagnitude ((min_le_right _ _).trans_lt (infinity_lt format))

/-- A product is not a number or has the sign of a product, by cases on the rules for products. -/
theorem negative_mul [format.Proper] (x y : Floating format)
    : (x.mul y).isNaN = true ∨ (x.mul y).negative = (x.negative != y.negative) := by
  unfold mul
  split
  next nan => exact .inl (isNaN_quiet nan)
  split
  next nan => exact .inl (isNaN_quiet nan)
  split
  · split
    · exact .inl isNaN_invalid
    · exact .inr (negative_infinity _)
  · split
    · split
      · exact .inl isNaN_invalid
      · exact .inr (negative_infinity _)
    · exact .inr (negative_ofRatio _ _ Nat.one_pos _)

/-- A finite value over a number that is not zero has the sign of a quotient. -/
theorem negative_div (finite : x.isFinite = true) (number : y.isNaN = false)
    (some : y.isZero = false)
    : (x.div y).negative = (x.negative != y.negative) := by
  rw [div, if_neg (by simp [isNaN_of_isFinite finite]), if_neg (by simp [number]),
    if_neg (by simp [isInfinite_of_isFinite finite])]
  split
  · exact negative_zero _
  · rw [if_neg (by simp [some])]
    exact negative_ofRatio _ _ (significand_pos some) _

theorem isNaN_mul_left [format.Proper] (nan : x.isNaN = true) (y : Floating format)
    : (x.mul y).isNaN = true := by
  rw [mul, if_pos nan]
  exact isNaN_quiet nan

theorem isNaN_mul_right [format.Proper] (x : Floating format) (nan : y.isNaN = true)
    : (x.mul y).isNaN = true := by
  rw [mul]
  split
  next nanToo => exact isNaN_quiet nanToo
  · exact isNaN_quiet nan

theorem eq_infinity (infinite : x.isInfinite = true) : x = infinity x.negative := by
  apply eq_of_sign_magnitude (negative_infinity _).symm
  rw [magnitude_infinity, isInfinite_iff.mp infinite]

theorem isZero_one [format.Proper] : (one : Floating format).isZero = false := by
  rw [← Bool.not_eq_true, isZero_iff]
  intro none
  have size := abs_toRat (one : Floating format)
  rw [toRat_one, none, valueOf_eq_zero_iff.mpr rfl, abs_one] at size
  exact one_ne_zero size

theorem isFinite_of_isZero [format.Proper] (none : x.isZero = true) : x.isFinite = true := by
  rw [isFinite_iff, isZero_iff.mp none]
  exact Nat.zero_lt_of_lt one_lt_infinity

/-- A zero times a finite value is a zero. -/
theorem mul_of_isZero [format.Proper] (none : x.isZero = true) (finite : y.isFinite = true)
    : x.mul y = zero (x.negative != y.negative) := by
  have finiteZero := isFinite_of_isZero none
  have significand : x.significand = 0 := by
    rw [Floating.significand, isZero_iff.mp none, if_pos (twoPow.pos _)]
  simp [mul, isNaN_of_isFinite finiteZero, isNaN_of_isFinite finite,
    isInfinite_of_isFinite finiteZero, isInfinite_of_isFinite finite, significand, ofRatio]

/-- A finite value times a zero is a zero. -/
theorem mul_zero_of_finite [format.Proper] (finite : x.isFinite = true) (none : y.isZero = true)
    : x.mul y = zero (x.negative != y.negative) := by
  have finiteZero := isFinite_of_isZero none
  have significand : y.significand = 0 := by
    rw [Floating.significand, isZero_iff.mp none, if_pos (twoPow.pos _)]
  simp [mul, isNaN_of_isFinite finiteZero, isNaN_of_isFinite finite,
    isInfinite_of_isFinite finiteZero, isInfinite_of_isFinite finite, significand, ofRatio]

/-- A zero times what is not finite is not a number. -/
theorem isNaN_mul_of_isZero [format.Proper] (none : x.isZero = true)
    (unbounded : ¬y.isFinite = true)
    : (x.mul y).isNaN = true := by
  have finiteZero := isFinite_of_isZero none
  cases number : y.isNaN with
  | true => exact isNaN_mul_right x number
  | false =>
      have infinite := (finite_or_infinite number).resolve_left unbounded
      rw [mul, if_neg (by simp [isNaN_of_isFinite finiteZero]), if_neg (by simp [number]),
        if_neg (by simp [isInfinite_of_isFinite finiteZero]), if_pos infinite, if_pos none]
      exact isNaN_invalid

/-- What is not finite times a zero is not a number. -/
theorem isNaN_mul_zero [format.Proper] (unbounded : ¬x.isFinite = true) (none : y.isZero = true)
    : (x.mul y).isNaN = true := by
  have finiteZero := isFinite_of_isZero none
  cases number : x.isNaN with
  | true => exact isNaN_mul_left number y
  | false =>
      have infinite := (finite_or_infinite number).resolve_left unbounded
      rw [mul, if_neg (by simp [number]), if_neg (by simp [isNaN_of_isFinite finiteZero]),
        if_pos infinite, if_pos none]
      exact isNaN_invalid

/-- One times a number is the number, by cases on whether it is finite. -/
theorem mul_one_of_number [format.Proper] (number : x.isNaN = false) : x.mul one = x := by
  have oneFinite := isFinite_one format
  rcases finite_or_infinite number with finite | infinite
  · have rounds := rounds_mul finite oneFinite
    rw [toRat_one, mul_one] at rounds
    apply eq_of_sign_magnitude
    · rw [mul, if_neg (by simp [number]), if_neg (by simp [isNaN_of_isFinite oneFinite]),
        if_neg (by simp [isInfinite_of_isFinite finite]),
        if_neg (by simp [isInfinite_of_isFinite oneFinite]),
        negative_ofRatio _ _ Nat.one_pos, negative_one, Bool.bne_false]
    · rw [rounds.magnitude, abs_toRat, FloatFormat.magnitudeOf_valueOf]
      exact min_eq_left (isFinite_iff.mp finite).le
  · rw [mul, if_neg (by simp [number]), if_neg (by simp [isNaN_of_isFinite oneFinite]),
      if_pos infinite, if_neg (by simp [isZero_one]), negative_one, Bool.bne_false]
    exact (eq_infinity infinite).symm

/-- A factor from 0 to 1 does not raise a positive number, by cases on whether it is finite. -/
theorem position_mul_le [format.Proper] (number : x.isNaN = false) (positive : 0 < x.position)
    (nonneg : 0 ≤ y.position) (small : y.position ≤ (one : Floating format).position)
    : (x.mul y).isNaN = true ∨ (x.mul y).position ≤ x.position := by
  have below : y.toRat ≤ 1 := by
    rw [← toRat_one format]
    exact toRat_le_iff.mpr small
  have finiteFactor : y.isFinite = true := by
    rw [isFinite_iff]
    have unit := isFinite_iff.mp (isFinite_one format)
    rw [← natAbs_position] at unit ⊢
    omega
  have unsigned := negative_of_position_pos positive
  rcases finite_or_infinite number with finite | infinite
  · have above : 0 ≤ x.toRat := by
      rw [toRat_eq, unsigned]
      exact format.valueOf_nonneg _
    refine .inr (toRat_le_iff.mp ((rounds_mul finite finiteFactor).toRat_le finite ?_))
    exact mul_le_of_le_one_right above below
  · rw [mul, if_neg (by simp [number]), if_neg (by simp [isNaN_of_isFinite finiteFactor]),
      if_pos infinite]
    split
    · exact .inl isNaN_invalid
    · refine .inr ?_
      rw [position_eq, magnitude_infinity, position_eq x, unsigned, isInfinite_iff.mp infinite]
      split
      · simp only [Bool.false_eq_true, if_false]
        omega
      · exact le_rfl

end TensorGraph.Floating
