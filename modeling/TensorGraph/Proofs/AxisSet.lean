import Mathlib.Data.List.Basic
import TensorGraph.Proofs.Traversal
import TensorGraph.AxisSet
import TensorGraph.PowerOfTwo

/-! Axis sets by their members, and the axes that signed values name.

A set is given by its members, and so is what a list of values names: their order and repetitions do
not matter, nor does whether a value counts from the first or from the last axis.
-/

namespace TensorGraph.AxisSet

-----------------------------------------------------------------------------------------
-- Members and unions
-----------------------------------------------------------------------------------------

/-- Sets with the same members are equal: their lists are in the same order. -/
theorem ext {axes others : AxisSet} (same : ∀ axis, axis ∈ axes ↔ axis ∈ others)
    : axes = others := by
  have distinct (set : AxisSet) : set.toList.Nodup :=
    set.ascending.imp Nat.ne_of_lt
  have shuffled : axes.toList.Perm others.toList :=
    (List.perm_ext_iff_of_nodup (distinct axes) (distinct others)).mpr same
  have lists : axes.toList = others.toList := by
    refine shuffled.eq_of_pairwise ?_ axes.ascending others.ascending
    intro left right _ _ before after
    exact absurd after (Nat.lt_asymm before)
  cases axes
  cases others
  cases lists
  rfl

instance : Union AxisSet :=
  ⟨fun axes others => ofList (axes.toList ++ others.toList)⟩

@[simp]
theorem mem_union {axis : Nat} {axes others : AxisSet}
    : axis ∈ axes ∪ others ↔ axis ∈ axes ∨ axis ∈ others := by
  change axis ∈ ofList (axes.toList ++ others.toList) ↔ _
  rw [mem_ofList, List.mem_append]
  rfl

theorem forall_mem_union {axes others : AxisSet} {holds : Nat → Prop}
    : (∀ axis ∈ axes ∪ others, holds axis)
      ↔ (∀ axis ∈ axes, holds axis) ∧ ∀ axis ∈ others, holds axis := by
  simp only [mem_union, or_imp, forall_and]

theorem union_comm (axes others : AxisSet) : axes ∪ others = others ∪ axes := by
  apply ext
  intro axis
  rw [mem_union, mem_union, or_comm]

theorem le_max {axes : AxisSet} {axis last : Nat} (largest : axes.max? = some last)
    (member : axis ∈ axes)
    : axis ≤ last := by
  obtain ⟨before, split⟩ := List.getLast?_eq_some_iff.mp largest
  have ascending := axes.ascending
  rw [split, List.pairwise_append] at ascending
  rw [← mem_toList, split, List.mem_append, List.mem_singleton] at member
  rcases member with earlier | rfl
  · exact Nat.le_of_lt (ascending.2.2 axis earlier last List.mem_cons_self)
  · exact Nat.le_refl _

-----------------------------------------------------------------------------------------
-- The axes that signed values name
-----------------------------------------------------------------------------------------

/-- A rank that does not fit into a signed word is read as a smaller number. -/
theorem toInt_ofNat_le (rank : Nat) : (Int64.ofNat rank).toInt ≤ rank := by
  have size : Int64.size = 18446744073709551616 := rfl
  rw [Int64.toInt_ofNat', Int.bmod, size]
  split <;> omega

/-- A signed word between two opposite ones is below the upper one after it is counted from the last
axis. No wrap-around takes part.
-/
theorem toNat_lt_of_within {value bound : Int64} (lower : ¬ value < -bound)
    (upper : ¬ bound ≤ value)
    : ((if value < 0 then value + bound else value).toNatClampNeg : Int) < bound.toInt := by
  have words : (2 : Int) ^ 63 = 9223372036854775808 ∧ 2 ^ 64 = 18446744073709551616 := ⟨rfl, rfl⟩
  have valueLeast := Int64.le_toInt value
  have valueMost := Int64.toInt_lt value
  have boundLeast := Int64.le_toInt bound
  have boundMost := Int64.toInt_lt bound
  rw [Int64.lt_iff_toInt_lt, Int64.toInt_neg, Int.bmod] at lower
  rw [Int64.le_iff_toInt_le] at upper
  simp only [Int64.toNatClampNeg]
  split
  next negative =>
    rw [Int64.lt_iff_toInt_lt, Int64.toInt_zero] at negative
    rw [Int64.toInt_add, Int.bmod]
    split at lower <;> split <;> omega
  next nonneg =>
    rw [Int64.lt_iff_toInt_lt, Int64.toInt_zero] at nonneg
    omega

/-- A signed value only names an axis below the rank. -/
theorem resolve_lt {rank axis : Nat} {value : Int64}
    (resolved : resolve rank value = .ok axis)
    : axis < rank := by
  have most := toInt_ofNat_le rank
  unfold resolve at resolved
  simp only at resolved
  split at resolved
  · cases resolved
  next within =>
    rw [not_or] at within
    have below := toNat_lt_of_within within.1 within.2
    rw [← Except.ok.inj resolved]
    omega

theorem normalize_lt {rank : Nat} {values : List Int64} {axes : AxisSet}
    (normalized : normalize values rank = .ok axes)
    : ∀ axis ∈ axes, axis < rank := by
  obtain ⟨numbers, resolved, rfl⟩ := map_eq_ok_iff.mp normalized
  intro axis member
  rw [mem_ofList] at member
  obtain ⟨value, -, named⟩ := exists_partner (mapM_eq_ok_iff.mp resolved).flip member
  exact resolve_lt named

/-- A number from `-rank` to `rank - 1`, which is what can name an axis. -/
def InRange (rank : Nat) (number : Int) : Prop :=
  -rank ≤ number ∧ number < rank

instance (rank : Nat) (number : Int) : Decidable (InRange rank number) :=
  inferInstanceAs (Decidable (_ ∧ _))

/-- The axis that a number in range names. -/
def named (rank : Nat) (number : Int) : Nat :=
  (if number < 0 then number + rank else number).toNat

theorem cast_named {rank : Nat} {number : Int} (inRange : InRange rank number)
    : (named rank number : Int) = if number < 0 then number + rank else number := by
  obtain ⟨lower, upper⟩ := inRange
  rw [named]
  split <;> omega

theorem named_lt {rank : Nat} {number : Int} (inRange : InRange rank number)
    : named rank number < rank := by
  have named := cast_named inRange
  obtain ⟨lower, upper⟩ := inRange
  split at named <;> omega

/-- Numbers name the same axis exactly if they are the same modulo the rank. -/
theorem named_eq_iff {rank : Nat} {number other : Int} (inRange : InRange rank number)
    (otherInRange : InRange rank other)
    : named rank number = named rank other ↔ number % rank = other % rank := by
  have residue {number : Int} (inRange : InRange rank number)
      : (named rank number : Int) = number % rank := by
    have below : (named rank number : Int) < rank := by exact_mod_cast named_lt inRange
    have nonneg : (0 : Int) ≤ named rank number := Int.natCast_nonneg _
    rw [← Int.emod_eq_of_lt nonneg below, cast_named inRange]
    split
    · exact Int.add_emod_right number rank
    · rfl
  rw [← residue inRange, ← residue otherInRange, Int.natCast_inj]

section Rank

variable {rank : Nat}

theorem toInt_ofNat (small : rank < twoPow 63) : (Int64.ofNat rank).toInt = rank :=
  Int64.toInt_ofNat_of_lt small

/-- A value is refused exactly if it is out of range. -/
theorem refused_iff (small : rank < twoPow 63) {value : Int64}
    : value < -Int64.ofNat rank ∨ Int64.ofNat rank ≤ value ↔ ¬ InRange rank value.toInt := by
  have words : twoPow 63 = 9223372036854775808 := rfl
  have negated : (-Int64.ofNat rank).toInt = -rank := by
    rw [Int64.toInt_neg, toInt_ofNat small]
    exact Int.bmod_eq_of_le (by omega) (by omega)
  rw [Int64.lt_iff_toInt_lt, Int64.le_iff_toInt_le, negated, toInt_ofNat small, InRange, not_and_or,
    Int.not_le, Int.not_lt]

theorem resolve_of_inRange (small : rank < twoPow 63) {value : Int64}
    (inRange : InRange rank value.toInt)
    : resolve rank value = .ok (named rank value.toInt) := by
  have words : twoPow 63 = 9223372036854775808 := rfl
  unfold resolve
  rw [if_neg (mt (refused_iff small).mp (not_not.mpr inRange))]
  obtain ⟨lower, upper⟩ := inRange
  congr 1
  rw [named, Int64.toNatClampNeg]
  have negative : value < 0 ↔ value.toInt < 0 := by
    rw [Int64.lt_iff_toInt_lt, Int64.toInt_zero]
  by_cases below : value.toInt < 0
  · rw [if_pos (negative.mpr below), if_pos below, Int64.toInt_add, toInt_ofNat small]
    congr 1
    exact Int.bmod_eq_of_le (by omega) (by omega)
  · rw [if_neg (mt negative.mp below), if_neg below]

theorem resolve_of_out (small : rank < twoPow 63) {value : Int64}
    (out : ¬ InRange rank value.toInt)
    : resolve rank value = .error (.invalidAxis value rank) := by
  unfold resolve
  rw [if_pos ((refused_iff small).mpr out)]

/-- Values are accepted exactly if all are in range, and they name the axes that each names. -/
theorem normalize_eq_ok_iff (small : rank < twoPow 63) {values : List Int64} {axes : AxisSet}
    : normalize values rank = .ok axes
      ↔ (∀ value ∈ values, InRange rank value.toInt)
        ∧ axes = ofList (values.map fun value => named rank value.toInt) := by
  have each (value : Int64) (axis : Nat)
      : resolve rank value = .ok axis
        ↔ InRange rank value.toInt ∧ named rank value.toInt = axis := by
    by_cases inRange : InRange rank value.toInt
    · rw [resolve_of_inRange small inRange, Except.ok.injEq, and_iff_right inRange]
    · rw [resolve_of_out small inRange]
      exact iff_of_false (by simp) fun both => inRange both.1
  have all (numbers : List Nat)
      : values.mapM (resolve rank) = .ok numbers
        ↔ (∀ value ∈ values, InRange rank value.toInt)
          ∧ values.map (fun value => named rank value.toInt) = numbers := by
    simp only [mapM_eq_ok_iff, each]
    rw [List.forall₂_and_left, ← List.forall₂_map_left_iff, List.forall₂_eq_eq_eq]
  rw [normalize, map_eq_ok_iff]
  simp only [all]
  constructor
  · rintro ⟨_, ⟨inRange, rfl⟩, rfl⟩
    exact ⟨inRange, rfl⟩
  · rintro ⟨inRange, rfl⟩
    exact ⟨_, ⟨inRange, rfl⟩, rfl⟩

/-- Of the values out of range the first one is reported, by induction on the values. -/
theorem normalize_eq_error (small : rank < twoPow 63) {values : List Int64} {value : Int64}
    (first : values.find? (fun value => ¬ InRange rank value.toInt) = some value)
    : normalize values rank = .error (.invalidAxis value rank) := by
  have stopped : failure? (values.mapM (resolve rank)) = some (.invalidAxis value rank) := by
    rw [failure?_mapM]
    induction values with
    | nil => cases first
    | cons head rest ih =>
        rw [List.find?_cons] at first
        rw [List.findSome?_cons]
        by_cases inRange : InRange rank head.toInt
        · rw [resolve_of_inRange small inRange]
          exact ih (by simpa [inRange] using first)
        · rw [resolve_of_out small inRange]
          cases (by simpa [inRange] using first : head = value)
          rfl
  rw [normalize, failure?_eq_some_iff.mp stopped]
  rfl

end Rank

end TensorGraph.AxisSet
