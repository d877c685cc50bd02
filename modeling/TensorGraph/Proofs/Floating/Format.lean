import Mathlib.Order.Basic
import TensorGraph.Floating.Arithmetic

/-! The parts of a floating-point pattern and the order of the values.

A pattern is its sign and its magnitude. Comparisons look at the positions of two numbers on the
line, and the total order of patterns refines the order of positions.
-/

namespace TensorGraph

/-- A format with room for subnormal, normal, infinite and not-a-number patterns. -/
class FloatFormat.Proper (format : FloatFormat) : Prop where
  exponentBits : 2 ≤ format.exponentBits
  fractionBits : 1 ≤ format.fractionBits

instance : FloatFormat.Proper .binary16 := ⟨by decide, by decide⟩
instance : FloatFormat.Proper .bfloat16 := ⟨by decide, by decide⟩
instance : FloatFormat.Proper .binary32 := ⟨by decide, by decide⟩
instance : FloatFormat.Proper .binary64 := ⟨by decide, by decide⟩

/-- The number of magnitudes. -/
def FloatFormat.span (format : FloatFormat) : Nat :=
  twoPow (format.exponentBits + format.fractionBits)

theorem FloatFormat.infinityMagnitude_add (format : FloatFormat)
    : format.infinityMagnitude + twoPow format.fractionBits = format.span := by
  rw [span, infinityMagnitude, twoPow.add, ← Nat.succ_mul]
  exact congrArg (· * _) (Nat.sub_add_cancel (twoPow.pos format.exponentBits))

theorem FloatFormat.quietBit_lt (format : FloatFormat) [proper : format.Proper]
    : format.infinityMagnitude + format.quietBit < format.span := by
  have half : twoPow format.fractionBits = 2 * format.quietBit := by
    rw [quietBit, ← twoPow.succ, Nat.sub_add_cancel proper.fractionBits]
  have positive := twoPow.pos (format.fractionBits - 1)
  have total := format.infinityMagnitude_add
  rw [quietBit] at *
  omega

namespace Floating

variable {format : FloatFormat} {x y : Floating format}

-----------------------------------------------------------------------------------------
-- Sign and magnitude
-----------------------------------------------------------------------------------------

theorem magnitude_lt (x : Floating format) : x.magnitude < format.span :=
  Nat.mod_lt _ (twoPow.pos _)

theorem bits_lt (x : Floating format) : x.bits.toNat < 2 * format.span := by
  have below : x.bits.toNat < twoPow (format.exponentBits + format.fractionBits + 1) := x.bits.isLt
  rwa [twoPow.succ] at below

theorem bits_eq (x : Floating format)
    : x.bits.toNat = (if x.negative then format.span else 0) + x.magnitude := by
  have below := x.bits_lt
  rw [negative, magnitude, ← FloatFormat.span]
  by_cases signed : format.span ≤ x.bits.toNat
  · rw [if_pos (decide_eq_true signed), Nat.mod_eq_sub_mod signed, Nat.mod_eq_of_lt (by omega)]
    omega
  · rw [if_neg (by simpa using signed), Nat.mod_eq_of_lt (by omega), Nat.zero_add]

/-- A pattern is known by its sign and its magnitude. -/
theorem eq_of_sign_magnitude (sign : x.negative = y.negative) (size : x.magnitude = y.magnitude)
    : x = y := by
  have bits : x.bits.toNat = y.bits.toNat := by
    rw [bits_eq, bits_eq, sign, size]
  obtain ⟨xBits⟩ := x
  obtain ⟨yBits⟩ := y
  exact congrArg Floating.mk (BitVec.eq_of_toNat_eq bits)

theorem toNat_ofMagnitude {sign : Bool} {size : Nat} (small : size < format.span)
    : (ofMagnitude sign size : Floating format).bits.toNat
      = (if sign then format.span else 0) + size := by
  rw [ofMagnitude, BitVec.toNat_ofNat, ← FloatFormat.span]
  apply Nat.mod_eq_of_lt
  have width : 2 ^ format.width = 2 * format.span := twoPow.succ _
  rw [width]
  split <;> omega

@[simp]
theorem negative_ofMagnitude {sign : Bool} {size : Nat} (small : size < format.span)
    : (ofMagnitude sign size : Floating format).negative = sign := by
  rw [negative, toNat_ofMagnitude small, ← FloatFormat.span]
  cases sign with
  | true => simp
  | false => simpa using small

@[simp]
theorem magnitude_ofMagnitude {sign : Bool} {size : Nat} (small : size < format.span)
    : (ofMagnitude sign size : Floating format).magnitude = size := by
  rw [magnitude, toNat_ofMagnitude small, ← FloatFormat.span]
  cases sign with
  | true => simp [Nat.mod_eq_of_lt small]
  | false => simp [Nat.mod_eq_of_lt small]

theorem span_pos (format : FloatFormat) : 0 < format.span :=
  twoPow.pos _

theorem infinity_lt (format : FloatFormat) : format.infinityMagnitude < format.span := by
  have total := format.infinityMagnitude_add
  have positive := twoPow.pos format.fractionBits
  omega

@[simp]
theorem magnitude_zero (sign : Bool) : (zero sign : Floating format).magnitude = 0 :=
  magnitude_ofMagnitude (span_pos format)

@[simp]
theorem negative_zero (sign : Bool) : (zero sign : Floating format).negative = sign :=
  negative_ofMagnitude (span_pos format)

/-- A number that is neither infinite nor not-a-number. -/
def isFinite (x : Floating format) : Bool :=
  x.magnitude < format.infinityMagnitude

theorem isFinite_iff : x.isFinite = true ↔ x.magnitude < format.infinityMagnitude := by
  rw [isFinite, decide_eq_true_eq]

theorem isNaN_eq_false_iff : x.isNaN = false ↔ x.magnitude ≤ format.infinityMagnitude := by
  rw [isNaN, decide_eq_false_iff_not, Nat.not_lt]

theorem isInfinite_iff : x.isInfinite = true ↔ x.magnitude = format.infinityMagnitude := by
  rw [isInfinite, decide_eq_true_eq]

theorem isZero_iff : x.isZero = true ↔ x.magnitude = 0 := by
  rw [isZero, decide_eq_true_eq]

theorem isNaN_of_isFinite (finite : x.isFinite = true) : x.isNaN = false :=
  isNaN_eq_false_iff.mpr (Nat.le_of_lt (isFinite_iff.mp finite))

theorem isInfinite_of_isFinite (finite : x.isFinite = true) : x.isInfinite = false := by
  rw [isInfinite, decide_eq_false_iff_not]
  exact Nat.ne_of_lt (isFinite_iff.mp finite)

/-- What is no not-a-number is finite or infinite. -/
theorem finite_or_infinite (number : x.isNaN = false)
    : x.isFinite = true ∨ x.isInfinite = true := by
  rw [isFinite_iff, isInfinite_iff]
  exact Nat.lt_or_eq_of_le (isNaN_eq_false_iff.mp number)

theorem isNaN_quiet [format.Proper] (nan : x.isNaN = true) : x.quiet.isNaN = true := by
  rw [isNaN, decide_eq_true_eq] at nan
  have quietBit := format.quietBit_lt
  have small : x.magnitude ||| format.quietBit < format.span :=
    Nat.or_lt_two_pow x.magnitude_lt (show format.quietBit < format.span by omega)
  rw [isNaN, decide_eq_true_eq, quiet, magnitude_ofMagnitude small]
  exact Nat.lt_of_lt_of_le nan Nat.left_le_or

theorem isNaN_invalid [format.Proper] : (invalid : Floating format).isNaN = true := by
  rw [isNaN, decide_eq_true_eq, invalid, magnitude_ofMagnitude format.quietBit_lt]
  exact Nat.lt_add_of_pos_right (twoPow.pos _)

-----------------------------------------------------------------------------------------
-- The order of the values
-----------------------------------------------------------------------------------------

theorem less_iff
    : x.less y = true ↔ x.isNaN = false ∧ y.isNaN = false ∧ x.position < y.position := by
  simp [less, and_assoc]

theorem same_iff
    : x.same y = true ↔ x.isNaN = false ∧ y.isNaN = false ∧ x.position = y.position := by
  simp [same, and_assoc]

theorem lessOrSame_iff
    : x.lessOrSame y = true ↔ x.isNaN = false ∧ y.isNaN = false ∧ x.position ≤ y.position := by
  rw [lessOrSame, Bool.or_eq_true, less_iff, same_iff, ← and_or_left, ← and_or_left,
    ← Int.le_iff_lt_or_eq]

theorem same_symm (same : x.same y = true) : y.same x = true := by
  rw [same_iff] at *
  exact ⟨same.2.1, same.1, same.2.2.symm⟩

theorem lessOrSame_of_same (same : x.same y = true) : x.lessOrSame y = true := by
  rw [lessOrSame, same, Bool.or_true]

theorem lessOrSame_trans {z : Floating format} (first : x.lessOrSame y = true)
    (second : y.lessOrSame z = true)
    : x.lessOrSame z = true := by
  rw [lessOrSame_iff] at *
  exact ⟨first.1, second.2.1, Int.le_trans first.2.2 second.2.2⟩

theorem less_of_same {z : Floating format} (less : x.less y = true) (same : z.same y = true)
    : x.less z = true := by
  rw [less_iff] at less ⊢
  rw [same_iff] at same
  exact ⟨less.1, same.1, same.2.2.symm ▸ less.2.2⟩

/-- Of two numbers one is less than the other, or the other is less or the same. -/
theorem lessOrSame_eq_false_iff (first : x.isNaN = false) (second : y.isNaN = false)
    : x.lessOrSame y = false ↔ y.less x = true := by
  rw [← Bool.not_eq_true, lessOrSame_iff, less_iff]
  simp [first, second]

theorem position_eq (x : Floating format)
    : x.position = if x.negative then -(x.magnitude : Int) else x.magnitude :=
  rfl

@[simp]
theorem position_zero (sign : Bool) : (zero sign : Floating format).position = 0 := by
  rw [position_eq, magnitude_zero]
  split <;> rfl

theorem isZero_zero (sign : Bool) : (zero sign : Floating format).isZero = true := by
  rw [isZero_iff, magnitude_zero]

theorem position_nonpositive (sign : x.negative = true) : x.position ≤ 0 := by
  rw [position_eq, if_pos sign]
  omega

theorem negative_of_position_pos (positive : 0 < x.position) : x.negative = false := by
  cases sign : x.negative with
  | false => rfl
  | true => exact absurd (position_nonpositive sign) (Int.not_le.mpr positive)

theorem natAbs_position (x : Floating format) : x.position.natAbs = x.magnitude := by
  rw [position_eq]
  split <;> omega

/-- The total order of patterns refines the order of positions, by cases on the signs. -/
theorem position_le_of_rank_le (ranked : x.rank ≤ y.rank) : x.position ≤ y.position := by
  unfold rank at ranked
  unfold position
  cases first : x.negative <;> cases second : y.negative <;>
    simp only [first, second, Bool.false_eq_true, if_true, if_false] at ranked ⊢ <;> omega

/-- The total order tells all patterns apart, by cases on the signs. -/
theorem rank_injective (same : x.rank = y.rank) : x = y := by
  have parts : x.negative = y.negative ∧ x.magnitude = y.magnitude := by
    unfold rank at same
    cases first : x.negative <;> cases second : y.negative <;>
      simp only [first, second, Bool.false_eq_true, if_true, if_false, true_and] at same ⊢ <;> omega
  exact eq_of_sign_magnitude parts.1 parts.2

end Floating
end TensorGraph
