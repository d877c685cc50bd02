import Mathlib.Algebra.Order.Field.Power
import Mathlib.Data.Int.Log
import Mathlib.Data.Rat.Floor
import Mathlib.Tactic.FieldSimp
import Mathlib.Tactic.Linarith
import Mathlib.Tactic.Positivity
import Mathlib.Tactic.Ring
import TensorGraph.Proofs.Floating.Format

/-! Rounding to a format, as a function of rational numbers.

How a ratio is rounded depends on its value only. Rounding preserves the order and leaves the values
of the format as they are, so a bound that is a value of the format is kept by it.
-/

namespace TensorGraph

theorem cast_twoPow (exponent : Nat) : (twoPow exponent : ℚ) = 2 ^ exponent := by
  rw [twoPow]
  exact Nat.cast_pow 2 exponent

/-- A power with a signed exponent, as the ratio of two natural powers. -/
theorem twoPow_div_twoPow (exponent : ℤ)
    : (twoPow exponent.toNat : ℚ) / twoPow (-exponent).toNat = 2 ^ exponent := by
  rw [cast_twoPow, cast_twoPow, ← zpow_natCast, ← zpow_natCast, ← zpow_sub₀ two_ne_zero]
  congr 1
  omega

-----------------------------------------------------------------------------------------
-- The nearest natural number
-----------------------------------------------------------------------------------------

/-- A rounded quotient is above `bound` exactly if twice the ratio is above the middle between
`bound` and its successor, or in the middle with the successor even.
-/
theorem lt_roundedQuotient_iff {numerator denominator : Nat} (positive : 0 < denominator)
    (bound : Nat)
    : bound < roundedQuotient numerator denominator
      ↔ (2 * bound + 1) * denominator < 2 * numerator
        ∨ (2 * bound + 1) * denominator = 2 * numerator ∧ bound % 2 = 1 := by
  have parts := Nat.div_add_mod numerator denominator
  have remainder := Nat.mod_lt numerator positive
  unfold roundedQuotient
  generalize numerator / denominator = quotient at *
  generalize numerator % denominator = left at *
  have twice : (2 * bound + 1) * denominator = 2 * (denominator * bound) + denominator := by ring
  rcases Nat.lt_trichotomy bound quotient with less | rfl | greater
  · have step := Nat.mul_le_mul_left denominator less
    rw [Nat.mul_succ] at step
    have above : (2 * bound + 1) * denominator < 2 * numerator := by omega
    refine ⟨fun _ => .inl above, fun _ => ?_⟩
    dsimp only
    split
    · exact less
    · split <;> omega
  · dsimp only
    split
    · omega
    · split <;> omega
  · have step := Nat.mul_le_mul_left denominator greater
    rw [Nat.mul_succ] at step
    refine ⟨?_, ?_⟩
    · dsimp only
      split
      · omega
      · split <;> omega
    · intro above
      omega

/-- The natural number nearest to a ratio, a half to the even neighbour. -/
def nearestEven (value : ℚ) : Nat :=
  roundedQuotient value.num.toNat value.den

/-- The middle between neighbours, compared with a ratio. -/
theorem lt_roundedQuotient_iff_rat {numerator denominator : Nat} (positive : 0 < denominator)
    (bound : Nat)
    : bound < roundedQuotient numerator denominator
      ↔ (bound : ℚ) + 1 / 2 < numerator / denominator
        ∨ (bound : ℚ) + 1 / 2 = numerator / denominator ∧ bound % 2 = 1 := by
  have above : (0 : ℚ) < denominator := Nat.cast_pos.mpr positive
  rw [lt_roundedQuotient_iff positive, lt_div_iff₀ above, eq_div_iff above.ne',
    ← Nat.cast_lt (α := ℚ), ← Nat.cast_inj (R := ℚ)]
  push_cast
  constructor
  · rintro (less | ⟨same, odd⟩)
    · exact .inl (by linarith)
    · exact .inr ⟨by linarith, odd⟩
  · rintro (less | ⟨same, odd⟩)
    · exact .inl (by linarith)
    · exact .inr ⟨by linarith, odd⟩

theorem lt_nearestEven_iff {value : ℚ} (nonneg : 0 ≤ value) (bound : Nat)
    : bound < nearestEven value
      ↔ (bound : ℚ) + 1 / 2 < value ∨ (bound : ℚ) + 1 / 2 = value ∧ bound % 2 = 1 := by
  have parts : ((value.num.toNat : Nat) : ℚ) / value.den = value := by
    have sign : ((value.num.toNat : Nat) : ℤ) = value.num :=
      Int.toNat_of_nonneg (Rat.num_nonneg.mpr nonneg)
    rw [← Int.cast_natCast, sign, Rat.num_div_den]
  rw [nearestEven, lt_roundedQuotient_iff_rat value.den_pos, parts]

/-- How a quotient is rounded depends on the ratio only. -/
theorem roundedQuotient_eq {numerator denominator : Nat} (positive : 0 < denominator)
    : roundedQuotient numerator denominator = nearestEven (numerator / denominator) := by
  apply eq_of_forall_lt_iff
  intro bound
  rw [lt_roundedQuotient_iff_rat positive, lt_nearestEven_iff (by positivity)]

theorem nearestEven_mono {value other : ℚ} (nonneg : 0 ≤ value) (ordered : value ≤ other)
    : nearestEven value ≤ nearestEven other := by
  apply le_of_forall_lt
  intro bound below
  rw [lt_nearestEven_iff nonneg] at below
  rw [lt_nearestEven_iff (nonneg.trans ordered)]
  rcases below with less | ⟨same, odd⟩
  · exact .inl (less.trans_le ordered)
  · rcases ordered.lt_or_eq with less | rfl
    · exact .inl (same.trans_lt less)
    · exact .inr ⟨same, odd⟩

theorem nearestEven_natCast (count : Nat) : nearestEven count = count := by
  apply eq_of_forall_lt_iff
  intro bound
  rw [lt_nearestEven_iff (Nat.cast_nonneg count), ← Nat.succ_le_iff, ← Nat.cast_le (α := ℚ)]
  push_cast
  constructor
  · rintro (less | ⟨same, -⟩)
    · by_contra above
      have : count < bound + 1 := by
        have := not_le.mp above
        exact_mod_cast this
      have : (count : ℚ) ≤ bound := Nat.cast_le.mpr (by omega)
      linarith
    · have twice : 2 * bound + 1 = 2 * count := by
        have : (2 * bound + 1 : ℚ) = 2 * count := by linarith
        exact_mod_cast this
      omega
  · intro above
    exact .inl (by linarith)

-----------------------------------------------------------------------------------------
-- Magnitudes and their values
-----------------------------------------------------------------------------------------

/-- The binary logarithm of a positive number, rounded down, by its bounds. -/
theorem log_eq {value : ℚ} {exponent : ℤ} (lower : (2 : ℚ) ^ exponent ≤ value)
    (upper : value < 2 ^ (exponent + 1))
    : Int.log 2 value = exponent := by
  have positive : 0 < value := lt_of_lt_of_le (by positivity) lower
  have above := (Int.zpow_le_iff_le_log Nat.one_lt_two positive).mp (by exact_mod_cast lower)
  have below := (Int.lt_zpow_iff_log_lt Nat.one_lt_two positive).mp (by exact_mod_cast upper)
  omega

theorem log_le {value : ℚ} (positive : 0 < value) : (2 : ℚ) ^ Int.log 2 value ≤ value := by
  exact_mod_cast Int.zpow_log_le_self Nat.one_lt_two positive

theorem lt_log_succ (value : ℚ) : value < (2 : ℚ) ^ (Int.log 2 value + 1) := by
  exact_mod_cast Int.lt_zpow_succ_log_self Nat.one_lt_two value

namespace FloatFormat

variable (format : FloatFormat)

/-- The value of a finite magnitude. -/
def valueOf (magnitude : Nat) : ℚ :=
  ((if magnitude < twoPow format.fractionBits then magnitude
      else twoPow format.fractionBits + magnitude % twoPow format.fractionBits : Nat) : ℚ)
  * 2 ^ (format.leastExponent + (magnitude / twoPow format.fractionBits - 1 : Nat))

/-- The exponent of the unit in which a value is counted when it is rounded. -/
def unitOf (value : ℚ) : ℤ :=
  max format.leastExponent (Int.log 2 value - format.fractionBits)

/-- The number of units nearest to a value. -/
def countOf (value : ℚ) : Nat :=
  nearestEven (value / 2 ^ format.unitOf value)

/-- The magnitude to which a value that is not negative is rounded, infinity left aside. -/
def magnitudeOf (value : ℚ) : Nat :=
  if value = 0 then 0
  else
    (format.unitOf value - format.leastExponent).toNat * twoPow format.fractionBits
    + format.countOf value

theorem leastExponent_le_unitOf (value : ℚ) : format.leastExponent ≤ format.unitOf value :=
  le_max_left _ _

/-- The count of units has at most one place more than the fraction. -/
theorem countOf_le (value : ℚ) : format.countOf value ≤ 2 * twoPow format.fractionBits := by
  have bound : value / 2 ^ format.unitOf value ≤ (2 * twoPow format.fractionBits : Nat) := by
    rw [div_le_iff₀ (by positivity)]
    calc value
      _ ≤ 2 ^ (Int.log 2 value + 1) := (lt_log_succ value).le
      _ ≤ 2 ^ (format.fractionBits + 1 + format.unitOf value) := by
          apply zpow_le_zpow_right₀ one_le_two
          have : Int.log 2 value - format.fractionBits ≤ format.unitOf value := le_max_right _ _
          omega
      _ = (2 * twoPow format.fractionBits : Nat) * 2 ^ format.unitOf value := by
          rw [zpow_add₀ two_ne_zero, ← twoPow.succ, cast_twoPow]
          norm_cast
  rcases le_or_gt 0 value with nonneg | negative
  · exact (nearestEven_mono (by positivity) bound).trans_eq (nearestEven_natCast _)
  · have none : nearestEven (value / 2 ^ format.unitOf value) = 0 := by
      have below : (value / 2 ^ format.unitOf value).num ≤ 0 :=
        Rat.num_nonpos.mpr (div_nonpos_of_nonpos_of_nonneg negative.le (by positivity))
      rw [nearestEven, Int.toNat_of_nonpos below]
      simp [roundedQuotient, Rat.den_pos]
    rw [countOf, none]
    exact Nat.zero_le _

variable {format} {value other : ℚ}

/-- Above the least unit the count has as many places as the fraction at least. -/
theorem le_countOf (positive : 0 < value) (above : format.leastExponent < format.unitOf value)
    : twoPow format.fractionBits ≤ format.countOf value := by
  have unit : format.unitOf value = Int.log 2 value - format.fractionBits := by
    rcases max_choice format.leastExponent (Int.log 2 value - format.fractionBits) with least | log
    · exact absurd (above.trans_eq least) (lt_irrefl _)
    · exact log
  have bound : ((twoPow format.fractionBits : Nat) : ℚ) ≤ value / 2 ^ format.unitOf value := by
    rw [le_div_iff₀ (by positivity), cast_twoPow, ← zpow_natCast, ← zpow_add₀ two_ne_zero, unit,
      add_sub_cancel]
    exact log_le positive
  rw [← nearestEven_natCast (twoPow format.fractionBits)]
  exact nearestEven_mono (Nat.cast_nonneg _) bound

theorem unitOf_mono (format : FloatFormat) (positive : 0 < value) (ordered : value ≤ other)
    : format.unitOf value ≤ format.unitOf other :=
  max_le_max_left _ (Int.sub_le_sub_right (Int.log_mono_right positive ordered) _)

/-- Rounding preserves the order. In one unit the counts are ordered; a greater unit has a count of
at least half the places, which no count of a smaller unit exceeds.
-/
theorem magnitudeOf_mono (format : FloatFormat) (nonneg : 0 ≤ value) (ordered : value ≤ other)
    : format.magnitudeOf value ≤ format.magnitudeOf other := by
  unfold magnitudeOf
  rcases nonneg.eq_or_lt with rfl | positive
  · rw [if_pos rfl]
    exact Nat.zero_le _
  · have least := format.leastExponent_le_unitOf value
    rw [if_neg positive.ne', if_neg (positive.trans_le ordered).ne']
    rcases (unitOf_mono format positive ordered).eq_or_lt with same | greater
    · have counts : format.countOf value ≤ format.countOf other := by
        rw [countOf, countOf, same]
        exact nearestEven_mono (by positivity) (by gcongr)
      rw [same]
      exact Nat.add_le_add_left counts _
    · have few := format.countOf_le value
      have many := le_countOf (positive.trans_le ordered) (least.trans_lt greater)
      have step
          : (format.unitOf value - format.leastExponent).toNat + 1
            ≤ (format.unitOf other - format.leastExponent).toNat := by
        omega
      have rows := Nat.mul_le_mul_right (twoPow format.fractionBits) step
      rw [Nat.succ_mul] at rows
      omega

/-- The value of a magnitude that is made of a row and a count. -/
theorem valueOf_row {row count : Nat} (few : count ≤ 2 * twoPow format.fractionBits)
    (normal : row = 0 ∨ twoPow format.fractionBits ≤ count)
    : format.valueOf (row * twoPow format.fractionBits + count)
      = count * 2 ^ (format.leastExponent + row) := by
  have positive := twoPow.pos format.fractionBits
  by_cases subnormal : count < twoPow format.fractionBits
  · obtain rfl : row = 0 := normal.resolve_right (Nat.not_le.mpr subnormal)
    rw [valueOf, Nat.zero_mul, Nat.zero_add, if_pos subnormal, Nat.div_eq_of_lt subnormal]
  · obtain ⟨extra, rfl⟩ := Nat.exists_eq_add_of_le (Nat.le_of_not_lt subnormal)
    have whole
        : row * twoPow format.fractionBits + (twoPow format.fractionBits + extra)
          = (row + 1) * twoPow format.fractionBits + extra := by
      ring
    have large
        : ¬ (row + 1) * twoPow format.fractionBits + extra < twoPow format.fractionBits := by
      rw [Nat.succ_mul]
      omega
    rw [valueOf, whole, if_neg large, Nat.mul_comm, Nat.mul_add_div positive, Nat.mul_add_mod]
    rcases Nat.lt_or_ge extra (twoPow format.fractionBits) with below | beyond
    · rw [Nat.div_eq_of_lt below, Nat.mod_eq_of_lt below, Nat.add_zero, Nat.add_sub_cancel]
    · -- The count is the first of the next row.
      obtain rfl : extra = twoPow format.fractionBits := by omega
      rw [Nat.div_self positive, Nat.mod_self, Nat.add_zero, Nat.add_sub_cancel, Nat.cast_add,
        Nat.cast_add, Nat.cast_one, ← add_assoc, zpow_add_one₀ two_ne_zero]
      ring

/-- A rounded value is its count of units. -/
theorem valueOf_magnitudeOf (positive : 0 < value)
    : format.valueOf (format.magnitudeOf value)
      = format.countOf value * 2 ^ format.unitOf value := by
  have least := format.leastExponent_le_unitOf value
  rw [magnitudeOf, if_neg positive.ne', valueOf_row (format.countOf_le value)]
  · congr 2
    omega
  · rcases least.eq_or_lt with same | above
    · exact .inl (by omega)
    · exact .inr (le_countOf positive above)

/-- Every magnitude but 0 is made of a row and a count. -/
theorem exists_row (format : FloatFormat) {magnitude : Nat} (some : magnitude ≠ 0)
    : ∃ row count,
        magnitude = row * twoPow format.fractionBits + count
        ∧ 0 < count
        ∧ count < 2 * twoPow format.fractionBits
        ∧ (row = 0 ∨ twoPow format.fractionBits ≤ count) := by
  have unit := twoPow.pos format.fractionBits
  by_cases subnormal : magnitude < twoPow format.fractionBits
  · exact ⟨0, magnitude, by omega, by omega, by omega, .inl rfl⟩
  · have remainder := Nat.mod_lt magnitude unit
    have row : 1 ≤ magnitude / twoPow format.fractionBits :=
      (Nat.one_le_div_iff unit).mpr (Nat.le_of_not_lt subnormal)
    refine ⟨magnitude / twoPow format.fractionBits - 1,
      twoPow format.fractionBits + magnitude % twoPow format.fractionBits, ?_, by omega, by omega,
      .inr (Nat.le_add_right _ _)⟩
    rw [← Nat.add_assoc, ← Nat.succ_mul, Nat.succ_eq_add_one, Nat.sub_add_cancel row,
      Nat.mul_comm, Nat.div_add_mod]

/-- A number of units below the bound is counted in no greater unit. -/
theorem unitOf_le {count : Nat} {unit : ℤ} (some : 0 < count)
    (few : count < 2 * twoPow format.fractionBits) (least : format.leastExponent ≤ unit)
    : format.unitOf (count * 2 ^ unit) ≤ unit := by
  have positive : (0 : ℚ) < count := Nat.cast_pos.mpr some
  have below : ((count : ℚ) * 2 ^ unit) < ((2 : Nat) : ℚ) ^ (format.fractionBits + 1 + unit) := by
    have bound : (count : ℚ) < 2 ^ (format.fractionBits + 1) := by
      rw [← cast_twoPow, twoPow.succ]
      exact_mod_cast few
    rw [Nat.cast_two, zpow_add₀ two_ne_zero]
    exact mul_lt_mul_of_pos_right (by exact_mod_cast bound) (by positivity)
  rw [Int.lt_zpow_iff_log_lt Nat.one_lt_two (by positivity)] at below
  exact max_le least (by omega)

/-- A row of at least half the places is counted in its own unit. -/
theorem unitOf_row {row count : Nat} (some : 0 < count)
    (few : count < 2 * twoPow format.fractionBits)
    (normal : row = 0 ∨ twoPow format.fractionBits ≤ count)
    : format.unitOf (count * 2 ^ (format.leastExponent + row)) = format.leastExponent + row := by
  apply le_antisymm (unitOf_le some few (by omega))
  rcases normal with rfl | many
  · rw [Nat.cast_zero, add_zero]
    exact format.leastExponent_le_unitOf _
  · have positive : (0 : ℚ) < count := Nat.cast_pos.mpr some
    have above
        : ((2 : Nat) : ℚ) ^ (format.fractionBits + (format.leastExponent + row))
          ≤ (count : ℚ) * 2 ^ (format.leastExponent + row) := by
      have bound : (2 : ℚ) ^ format.fractionBits ≤ count := by
        rw [← cast_twoPow]
        exact_mod_cast many
      rw [Nat.cast_two, zpow_add₀ two_ne_zero]
      exact mul_le_mul_of_nonneg_right (by exact_mod_cast bound) (by positivity)
    rw [Int.zpow_le_iff_le_log Nat.one_lt_two (by positivity)] at above
    exact le_max_of_le_right (by omega)

/-- Rounding leaves the values of the format as they are. -/
theorem magnitudeOf_valueOf (magnitude : Nat)
    : format.magnitudeOf (format.valueOf magnitude) = magnitude := by
  by_cases none : magnitude = 0
  · simp [none, magnitudeOf, valueOf, twoPow.pos]
  obtain ⟨row, count, rfl, some, few, normal⟩ := exists_row format none
  have positive : (0 : ℚ) < count := Nat.cast_pos.mpr some
  rw [valueOf_row few.le normal, magnitudeOf, if_neg (by positivity), countOf,
    unitOf_row some few normal, mul_div_cancel_right₀ _ (by positivity), nearestEven_natCast,
    add_sub_cancel_left, Int.toNat_natCast]

theorem valueOf_nonneg (format : FloatFormat) (magnitude : Nat) : 0 ≤ format.valueOf magnitude := by
  rw [valueOf]
  positivity

/-- Greater magnitudes have greater values. -/
theorem valueOf_le_iff {magnitude other : Nat}
    : format.valueOf magnitude ≤ format.valueOf other ↔ magnitude ≤ other := by
  have mono {m n : Nat} (ordered : format.valueOf m ≤ format.valueOf n) : m ≤ n := by
    have rounded := magnitudeOf_mono format (format.valueOf_nonneg m) ordered
    rwa [magnitudeOf_valueOf, magnitudeOf_valueOf] at rounded
  refine ⟨mono, fun ordered => ?_⟩
  by_contra less
  have same := Nat.le_antisymm ordered (mono (not_le.mp less).le)
  rw [same] at less
  exact less le_rfl

/-- A magnitude whose value is an upper bound is an upper bound after rounding. -/
theorem magnitudeOf_le {magnitude : Nat} (nonneg : 0 ≤ value)
    (below : value ≤ format.valueOf magnitude)
    : format.magnitudeOf value ≤ magnitude :=
  (magnitudeOf_mono format nonneg below).trans_eq (magnitudeOf_valueOf magnitude)

/-- A magnitude whose value is a lower bound is a lower bound after rounding. -/
theorem le_magnitudeOf {magnitude : Nat} (above : format.valueOf magnitude ≤ value)
    : magnitude ≤ format.magnitudeOf value :=
  (magnitudeOf_valueOf magnitude).ge.trans
    (magnitudeOf_mono format (format.valueOf_nonneg magnitude) above)

/-- A whole number of units, with no more places than a value has, is a value of the format. -/
theorem valueOf_magnitudeOf_units {count : Nat} {unit : ℤ} (some : 0 < count)
    (few : count < 2 * twoPow format.fractionBits) (least : format.leastExponent ≤ unit)
    : format.valueOf (format.magnitudeOf (count * 2 ^ unit)) = count * 2 ^ unit := by
  have positive : (0 : ℚ) < count := Nat.cast_pos.mpr some
  have smaller := unitOf_le some few least
  obtain ⟨steps, unitEq⟩ : ∃ steps : Nat, unit - format.unitOf (count * 2 ^ unit) = steps :=
    Int.eq_ofNat_of_zero_le (by omega)
  have whole
      : (count : ℚ) * 2 ^ unit / 2 ^ format.unitOf (count * 2 ^ unit)
        = (count * 2 ^ steps : Nat) := by
    rw [mul_div_assoc, ← zpow_sub₀ two_ne_zero, unitEq, zpow_natCast]
    push_cast
    rfl
  rw [valueOf_magnitudeOf (by positivity), countOf, whole, nearestEven_natCast, ← whole,
    div_mul_cancel₀ _ (by positivity)]

end FloatFormat

-----------------------------------------------------------------------------------------
-- Rounding of a ratio
-----------------------------------------------------------------------------------------

/-- The logarithm of a scaled quotient is that of the ratio. -/
theorem floorLog2_eq {numerator denominator : Nat} (some : 0 < numerator)
    (positive : 0 < denominator)
    : floorLog2 numerator denominator = Int.log 2 ((numerator : ℚ) / denominator) := by
  have shifted : denominator < twoPow (denominator.log2 + 1) := Nat.lt_log2_self
  unfold floorLog2
  dsimp only
  generalize denominator.log2 + 1 = shift at *
  have quotient : numerator * twoPow shift / denominator ≠ 0 := by
    apply Nat.ne_of_gt
    apply Nat.div_pos _ positive
    exact (Nat.le_of_lt shifted).trans (Nat.le_mul_of_pos_left _ some)
  have lower := Nat.log2_self_le quotient
  have upper := Nat.lt_log2_self (n := numerator * twoPow shift / denominator)
  generalize (numerator * twoPow shift / denominator).log2 = places at *
  rw [Nat.le_div_iff_mul_le positive] at lower
  rw [Nat.div_lt_iff_lt_mul positive] at upper
  have denominatorPos : (0 : ℚ) < denominator := Nat.cast_pos.mpr positive
  symm
  apply log_eq
  · rw [le_div_iff₀ denominatorPos, zpow_sub₀ two_ne_zero, div_mul_eq_mul_div,
      div_le_iff₀ (by positivity)]
    have := (Nat.cast_le (α := ℚ)).mpr lower
    push_cast [cast_twoPow] at this
    exact_mod_cast this
  · rw [div_lt_iff₀ denominatorPos, sub_add_eq_add_sub, zpow_sub₀ two_ne_zero,
      div_mul_eq_mul_div, lt_div_iff₀ (by positivity)]
    have := (Nat.cast_lt (α := ℚ)).mpr upper
    push_cast [cast_twoPow] at this
    exact_mod_cast this

theorem log_mul_zpow {value : ℚ} (positive : 0 < value) (scale : ℤ)
    : Int.log 2 (value * 2 ^ scale) = Int.log 2 value + scale := by
  apply log_eq
  · rw [zpow_add₀ two_ne_zero]
    exact mul_le_mul_of_nonneg_right (log_le positive) (by positivity)
  · rw [add_right_comm, zpow_add₀ two_ne_zero]
    exact mul_lt_mul_of_pos_right (lt_log_succ value) (by positivity)

namespace Floating

/-- A ratio is rounded to a magnitude that depends on its value only, or to infinity. -/
theorem ofRatio_eq {format : FloatFormat} (sign : Bool) (numerator : Nat) {denominator : Nat}
    (positive : 0 < denominator) (scale : ℤ)
    : (ofRatio sign numerator denominator scale : Floating format)
      = ofMagnitude sign
          (min (format.magnitudeOf (numerator / denominator * 2 ^ scale))
            format.infinityMagnitude) := by
  unfold ofRatio
  split
  next none =>
    rw [none, Nat.cast_zero, zero_div, zero_mul, FloatFormat.magnitudeOf, if_pos rfl, Nat.zero_min]
    rfl
  next some =>
    have numeratorPos : (0 : ℚ) < numerator := Nat.cast_pos.mpr (Nat.pos_of_ne_zero some)
    have denominatorPos : (0 : ℚ) < denominator := Nat.cast_pos.mpr positive
    have ratioPos : (0 : ℚ) < numerator / denominator := by positivity
    have unit
        : max format.leastExponent
            (floorLog2 numerator denominator + scale - format.fractionBits)
          = format.unitOf (numerator / denominator * 2 ^ scale) := by
      rw [FloatFormat.unitOf, floorLog2_eq (Nat.pos_of_ne_zero some) positive,
        log_mul_zpow ratioPos]
    have scaled
        : ((numerator * twoPow (scale - format.unitOf (numerator / denominator * 2 ^ scale)).toNat
              : Nat) : ℚ)
            / (denominator * twoPow (format.unitOf (numerator / denominator * 2 ^ scale)
                - scale).toNat : Nat)
          = numerator / denominator * 2 ^ scale
            / 2 ^ format.unitOf (numerator / denominator * 2 ^ scale) := by
      rw [Nat.cast_mul, Nat.cast_mul, mul_div_mul_comm, ← neg_sub scale, twoPow_div_twoPow,
        zpow_sub₀ two_ne_zero, mul_div_assoc]
    rw [unit]
    dsimp only
    rw [roundedQuotient_eq (Nat.mul_pos positive (twoPow.pos _)), scaled,
      FloatFormat.magnitudeOf, if_neg (by positivity)]
    rfl

end Floating
end TensorGraph
