import Mathlib.Algebra.Ring.Int.Defs
import Mathlib.Data.List.Basic
import TensorGraph.Element

/-! Elements of the integer types as numbers.

An element stands for the number that its bits are in two's complement. The arithmetic of the type
is that of the numbers, wrapped around.
-/

namespace TensorGraph.DType

/-- The number of values of an element type. -/
def modulus (dtype : DType) : Nat :=
  twoPow (8 * dtype.byteSize)

/-- The bits of an element, read as a number in two's complement. -/
def toInt (dtype : DType) (element : dtype.Element) : Int :=
  (dtype.toBits element : Int).bmod dtype.modulus

@[simp]
theorem toInt_i32 (x : Int32) : toInt .i32 x = x.toInt := by
  rw [Int32.toInt, BitVec.toInt_eq_toNat_bmod]
  rfl

@[simp]
theorem toInt_i64 (x : Int64) : toInt .i64 x = x.toInt := by
  rw [Int64.toInt, BitVec.toInt_eq_toNat_bmod]
  rfl

/-- The operands of the division of 64-bit integers that divides an integer by a count. A count of
zero leaves the integer as it is, without a division.
-/
def division? (dtype : DType) (value : dtype.Element) (count : Nat) : Option (Int64 × Int64) :=
  if count = 0 then none else some (.ofInt (dtype.toInt value), .ofNat count)

/-- The operations of an integer type act on the numbers that its elements stand for. -/
structure IsTwosComplement (dtype : DType) (numeric : Numeric dtype.Element) : Prop where
  injective : ∀ {x y}, dtype.toInt x = dtype.toInt y → x = y
  zero : dtype.toInt numeric.zero = 0
  add : ∀ x y, dtype.toInt (numeric.add x y) = (dtype.toInt x + dtype.toInt y).bmod dtype.modulus
  less : ∀ {x y}, numeric.less x y = true ↔ dtype.toInt x < dtype.toInt y
  lowest : ∀ x, dtype.toInt numeric.lowest ≤ dtype.toInt x
  highest : ∀ x, dtype.toInt x ≤ dtype.toInt numeric.highest
  ofInt64 : ∀ x : Int64, dtype.toInt (numeric.ofInt64 x) = x.toInt.bmod dtype.modulus
  fits : ∀ x, (Int64.ofInt (dtype.toInt x)).toInt = dtype.toInt x
  divCount
    : ∀ value count,
        numeric.divCount value count
        = match dtype.division? value count with
          | none => .ok value
          | some (dividend, divisor) =>
              if dividend = Int64.minValue ∧ divisor = -1 then .error .divisionOverflow
              else .ok (numeric.ofInt64 (dividend / divisor))

theorem isTwosComplement_i32 : IsTwosComplement .i32 (inferInstanceAs (Numeric Int32)) where
  injective same := by
    rw [toInt_i32, toInt_i32] at same
    exact Int32.toInt_inj.mp same
  zero := (toInt_i32 0).trans Int32.toInt_zero
  add x y := by
    simp only [toInt_i32]
    exact Int32.toInt_add x y
  less := by
    intro x y
    rw [toInt_i32, toInt_i32, ← Int32.lt_iff_toInt_lt]
    exact decide_eq_true_iff
  lowest x := by
    rw [toInt_i32, toInt_i32]
    exact Int32.minValue_le_toInt x
  highest x := by
    rw [toInt_i32, toInt_i32]
    exact Int32.toInt_le x
  ofInt64 x := by
    rw [toInt_i32]
    exact Int64.toInt_toInt32 x
  fits x := by
    rw [toInt_i32, Int64.ofInt_int32ToInt, Int32.toInt_toInt64]
  divCount value count := by
    rw [division?, toInt_i32, Int64.ofInt_int32ToInt]
    change (Numeric.divWord value.toInt64 count).map Int64.toInt32 = _
    unfold Numeric.divWord
    by_cases none : count = 0
    · simp only [none, if_true, Except.map, Int32.toInt32_toInt64]
    · by_cases overflow : value.toInt64 = Int64.minValue ∧ Int64.ofNat count = -1
      · simp only [none, if_false, overflow, and_self, if_true, Except.map]
      · simp only [none, if_false, overflow, Except.map]

theorem isTwosComplement_i64 : IsTwosComplement .i64 (inferInstanceAs (Numeric Int64)) where
  injective same := by
    rw [toInt_i64, toInt_i64] at same
    exact Int64.toInt_inj.mp same
  zero := (toInt_i64 0).trans Int64.toInt_zero
  add x y := by
    simp only [toInt_i64]
    exact Int64.toInt_add x y
  less := by
    intro x y
    rw [toInt_i64, toInt_i64, ← Int64.lt_iff_toInt_lt]
    exact decide_eq_true_iff
  lowest x := by
    rw [toInt_i64, toInt_i64]
    exact Int64.minValue_le_toInt x
  highest x := by
    rw [toInt_i64, toInt_i64]
    exact Int64.toInt_le x
  ofInt64 x := by
    rw [toInt_i64]
    exact (Int64.toInt_bmod x).symm
  fits x := by
    rw [toInt_i64, Int64.ofInt_toInt]
  divCount value count := by
    rw [division?, toInt_i64, Int64.ofInt_toInt]
    change Numeric.divWord value count = _
    unfold Numeric.divWord
    by_cases none : count = 0
    · simp only [none, if_true]
    · simp only [none, if_false]

/-- Both integer types have such an arithmetic. -/
theorem exists_isTwosComplement {dtype : DType} (integral : dtype.isIntegral)
    : ∃ numeric, dtype.numeric? = some numeric ∧ IsTwosComplement dtype numeric := by
  cases dtype with
  | i32 => exact ⟨_, rfl, isTwosComplement_i32⟩
  | i64 => exact ⟨_, rfl, isTwosComplement_i64⟩
  | boolean | bf16 | f16 | f32 => cases integral

namespace IsTwosComplement

variable {dtype : DType} {numeric : Numeric dtype.Element}

-----------------------------------------------------------------------------------------
-- Sums
-----------------------------------------------------------------------------------------

/-- A sum of elements is the sum of their numbers, wrapped around once. By induction on the
elements.
-/
theorem toInt_foldl_add (arithmetic : IsTwosComplement dtype numeric)
    (elements : List dtype.Element) (held : dtype.Element)
    : dtype.toInt (elements.foldl numeric.add held)
      = (dtype.toInt held + (elements.map dtype.toInt).sum).bmod dtype.modulus := by
  induction elements generalizing held with
  | nil =>
      rw [List.foldl_nil, List.map_nil, List.sum_nil, Int.add_zero, toInt, Int.bmod_bmod]
  | cons x rest ih =>
      rw [List.foldl_cons, ih, arithmetic.add, Int.bmod_add_bmod, List.map_cons, List.sum_cons,
        Int.add_assoc]

-----------------------------------------------------------------------------------------
-- Quotients
-----------------------------------------------------------------------------------------

/-- A quotient by a count lies between zero and the dividend. -/
theorem tdiv_within {least most value : Int} {count : Nat} (nonpos : least ≤ 0)
    (positive : 0 < most) (lower : least ≤ value) (upper : value < most)
    : least ≤ value.tdiv count ∧ value.tdiv count < most := by
  have divides : (0 : Int) ≤ count := Int.natCast_nonneg count
  rcases Int.le_total 0 value with nonneg | negative
  · have low := Int.tdiv_nonneg nonneg divides
    have high := Int.tdiv_le_self count nonneg
    omega
  · have low := Int.tdiv_nonneg (Int.neg_nonneg.mpr negative) divides
    have high := Int.tdiv_le_self count (Int.neg_nonneg.mpr negative)
    rw [Int.neg_tdiv] at low high
    omega

/-- A count that is a positive signed word divides without a fault, and the fraction is dropped. -/
theorem toInt_divCount (arithmetic : IsTwosComplement dtype numeric) (value : dtype.Element)
    {count : Nat} (positive : 0 < count) (small : count < twoPow 63)
    : ∃ quotient,
        numeric.divCount value count = .ok quotient
        ∧ dtype.toInt quotient = (dtype.toInt value).tdiv count := by
  have reads : (Int64.ofNat count).toInt = count := Int64.toInt_ofNat_of_lt small
  have differs : Int64.ofNat count ≠ -1 := by
    intro same
    rw [same] at reads
    exact absurd reads.symm (Int.ne_of_gt (Int.lt_of_lt_of_le (by decide) (Int.natCast_nonneg _)))
  have wide : 0 < dtype.modulus := twoPow.pos _
  have within
      : (dtype.toInt value).tdiv count
        = ((dtype.toInt value).tdiv count).bmod dtype.modulus := by
    obtain ⟨lower, upper⟩ := tdiv_within (by omega) (by omega)
      (Int.le_bmod wide) (Int.bmod_lt wide)
    exact (Int.bmod_eq_of_le lower upper).symm
  rw [arithmetic.divCount, division?, if_neg (Nat.ne_of_gt positive)]
  simp only [differs, and_false, if_false]
  refine ⟨_, rfl, ?_⟩
  rw [arithmetic.ofInt64, Int64.toInt_div_of_ne_right _ _ differs, arithmetic.fits, reads, ← within]

end IsTwosComplement

end TensorGraph.DType
