import TensorGraph.Proofs.Integers
import TensorGraph.Proofs.Reduction.Fold

/-! The mean of integers.

The number by which a sum is divided is computed from the shape, not counted. It is the number of
elements of the slot, and wherever there is a slot it reads as a signed word that is not negative.
-/

namespace TensorGraph.Reduction

variable {dtype : DType} {numeric : Numeric dtype.Element}

-----------------------------------------------------------------------------------------
-- The mean of one slot
-----------------------------------------------------------------------------------------

theorem toInt_total (arithmetic : dtype.IsTwosComplement numeric) (elements : List dtype.Element)
    : dtype.toInt (elements.foldl numeric.add numeric.zero)
      = (elements.map dtype.toInt).sum.bmod dtype.modulus := by
  rw [arithmetic.toInt_foldl_add, arithmetic.zero, Int.zero_add]

/-- The quotient of the sum of a slot by a count is the mean of the slot: the count is the number of
elements and reads as such, the division is by a positive number, and its result is the wrapped sum
divided by that number with the fraction dropped.
-/
structure ExactMean (numeric : Numeric dtype.Element) (elements : List dtype.Element) (count : Nat)
    (quotient : dtype.Element)
    : Prop where
  counted : count = elements.length
  reads : (Int64.ofNat count).toInt = elements.length
  divided : numeric.divCount (elements.foldl numeric.add numeric.zero) count = .ok quotient
  safe
    : ∀ dividend divisor,
        dtype.division? (elements.foldl numeric.add numeric.zero) count = some (dividend, divisor)
        → divisor ≠ 0
          ∧ ¬ (dividend = Int64.minValue ∧ divisor = -1)
          ∧ 0 < divisor.toInt
  number
    : dtype.toInt quotient
      = ((elements.map dtype.toInt).sum.bmod dtype.modulus).tdiv elements.length
  empty : elements = [] → dtype.toInt quotient = 0

/-- The division by a count that is a signed word is by a positive number. -/
theorem division_safe {value : dtype.Element} {count : Nat} (small : count < twoPow 63)
    {dividend divisor : Int64} (operands : dtype.division? value count = some (dividend, divisor))
    : divisor ≠ 0 ∧ ¬ (dividend = Int64.minValue ∧ divisor = -1) ∧ 0 < divisor.toInt := by
  have reads : (Int64.ofNat count).toInt = count := Int64.toInt_ofNat_of_lt small
  rw [DType.division?] at operands
  split at operands
  · cases operands
  next positive =>
    cases operands
    have above : 0 < (Int64.ofNat count).toInt := by omega
    refine ⟨?_, ?_, above⟩
    · intro zero
      rw [zero] at above
      exact absurd above (by decide)
    · rintro ⟨-, negative⟩
      rw [negative] at above
      exact absurd above (by decide)

/-- A slot without elements keeps the zero that it starts from. -/
theorem toInt_of_divided (arithmetic : dtype.IsTwosComplement numeric)
    {total quotient : dtype.Element} {count : Nat} (small : count < twoPow 63)
    (empty : count = 0 → dtype.toInt total = 0)
    (divided : numeric.divCount total count = .ok quotient)
    : dtype.toInt quotient = (dtype.toInt total).tdiv count := by
  rcases Nat.eq_zero_or_pos count with rfl | positive
  · rw [arithmetic.divCount] at divided
    cases divided
    rw [empty rfl, Int.zero_tdiv]
  · obtain ⟨exact, same, number⟩ := arithmetic.toInt_divCount total positive small
    cases same.symm.trans divided
    exact number

theorem exactMean_of_divided (arithmetic : dtype.IsTwosComplement numeric)
    {elements : List dtype.Element} {count : Nat} {quotient : dtype.Element}
    (counted : count = elements.length) (small : count < twoPow 63)
    (divided : numeric.divCount (elements.foldl numeric.add numeric.zero) count = .ok quotient)
    : ExactMean numeric elements count quotient := by
  have number
      : dtype.toInt quotient
        = ((elements.map dtype.toInt).sum.bmod dtype.modulus).tdiv elements.length := by
    rw [← toInt_total arithmetic, ← counted]
    refine toInt_of_divided arithmetic small ?_ divided
    rintro rfl
    rw [toInt_total arithmetic, List.eq_nil_of_length_eq_zero counted.symm]
    exact Int.zero_bmod
  refine ⟨counted, ?_, divided, fun _ _ => division_safe small, number, ?_⟩
  · rw [← counted]
    exact Int64.toInt_ofNat_of_lt small
  · rintro rfl
    rw [number, List.map_nil, List.sum_nil, Int.zero_bmod, Int.zero_tdiv]

-----------------------------------------------------------------------------------------
-- The mean of all slots
-----------------------------------------------------------------------------------------

/-- Where there is a slot, it has no more elements than there are in all. -/
theorem reducedCount_le {shape : Shape} {axes : AxisSet} {slot : Nat}
    (inBounds : slot < (shape.reduce axes false).numel)
    : shape.reducedCount axes ≤ shape.numel := by
  rw [shape.numel_eq_reduce_mul axes false]
  exact Nat.le_mul_of_pos_left _ (Nat.zero_lt_of_lt inBounds)

/-- The mean of integers succeeds, and each of its elements is the exact mean of its slot. -/
theorem Kind.mean_exact (integral : dtype.isIntegral) (argument out : List dtype.Element)
    (shape : Shape) (axes : AxisSet) (keepDims : Bool) (filled : argument.length = shape.numel)
    (fits : out.length = (shape.reduce axes keepDims).numel)
    (below : ∀ axis ∈ axes, axis < shape.rank) (small : shape.numel < twoPow 63)
    : ∃ numeric kernel means,
        dtype.numeric? = some numeric
        ∧ Kind.mean.kernel? dtype = some kernel
        ∧ kernel argument out shape axes keepDims = .ok means
        ∧ means.length = out.length
        ∧ ∀ slot quotient,
            means[slot]? = some quotient
            → ExactMean numeric (gathered argument shape axes slot) (shape.reducedCount axes)
                quotient := by
  obtain ⟨numeric, numbers, arithmetic⟩ := DType.exists_isTwosComplement integral
  have known : Kind.mean.kernel? dtype = some Reduction.mean := kernel_of_numeric _ numbers
  have fitting : Fitting argument out shape axes keepDims :=
    ⟨filled, fits, checkAxes_iff_below.mpr below⟩
  have words : twoPow 64 = 2 * twoPow 63 := twoPow.succ 63
  have bounded : argument.length + 1 < twoPow 64 := by omega
  obtain ⟨means, done, length⟩ := Kind.completes known argument out shape axes keepDims fitting
    bounded
  refine ⟨numeric, _, means, numbers, known, done, length, ?_⟩
  intro slot quotient present
  have inBounds : slot < (shape.reduce axes false).numel := by
    rw [← Shape.numel_reduce _ _ keepDims, ← fits, ← length]
    exact (List.getElem?_eq_some_iff.mp present).1
  have summed
      : Reduction.sum argument out shape axes keepDims
        = .ok (slots numeric.add numeric.zero argument shape axes) :=
    fold_of_fitting numeric.add numeric.zero fitting
  rw [Reduction.mean, summed] at done
  have pairs := mapM_eq_ok_iff.mp (orFault_eq_ok_iff.mp done)
  have divided := related_of_getElem? pairs
    (getElem?_slots numeric.add numeric.zero argument inBounds) present
  have few := Nat.lt_of_le_of_lt (reducedCount_le inBounds) small
  rw [word_of_lt (by omega)] at divided
  exact exactMean_of_divided arithmetic (length_gathered filled inBounds).symm few divided

/-- The mean of 3, -8 and 0 is -5 / 3 without its fraction, and a slot of a matrix without rows has
the mean 0.
-/
theorem mean_of_negative_sum
    : (∃ numeric,
        DType.i64.numeric? = some numeric
        ∧ Reduction.mean [(3 : Int64), -8, 0] [9] ⟨[3]⟩ (.ofList [0]) false = .ok [-1]
        ∧ ExactMean numeric [3, -8, 0] 3 (-1))
      ∧ ∃ numeric,
          DType.i32.numeric? = some numeric
          ∧ Reduction.mean [] [(9 : Int32), 9] ⟨[0, 2]⟩ (.ofList [0]) true = .ok [0, 0]
          ∧ ExactMean numeric [] 0 0 := by
  have small : Shape.numel ⟨[3]⟩ < twoPow 63 ∧ Shape.numel ⟨[0, 2]⟩ < twoPow 63 := by decide
  have negative : Reduction.mean [(3 : Int64), -8, 0] [9] ⟨[3]⟩ (.ofList [0]) false = .ok [-1] := by
    decide +kernel
  have empty : Reduction.mean [] [(9 : Int32), 9] ⟨[0, 2]⟩ (.ofList [0]) true = .ok [0, 0] := by
    decide +kernel
  constructor
  · obtain ⟨numeric, kernel, means, numbers, known, done, -, exact⟩ :=
      Kind.mean_exact (rfl : DType.i64.isIntegral = true) [3, -8, 0] [9] ⟨[3]⟩ (.ofList [0]) false
        rfl rfl (by decide) small.1
    cases known
    cases negative.symm.trans done
    exact ⟨numeric, numbers, negative, exact 0 (-1) rfl⟩
  · obtain ⟨numeric, kernel, means, numbers, known, done, -, exact⟩ :=
      Kind.mean_exact (rfl : DType.i32.isIntegral = true) [] [9, 9] ⟨[0, 2]⟩ (.ofList [0]) true
        rfl rfl (by decide) small.2
    cases known
    cases empty.symm.trans done
    exact ⟨numeric, numbers, empty, exact 0 0 rfl⟩

end TensorGraph.Reduction
