import TensorGraph.Proofs.Floating.Arithmetic
import TensorGraph.Proofs.Integers
import TensorGraph.Proofs.Reduction.Fold

/-! The largest and the smallest elements.

The fold gives up the element that it holds only for one that compares beyond it. So it passes over
every not-a-number, and of the elements that are equal it keeps the first one.
-/

namespace TensorGraph

-----------------------------------------------------------------------------------------
-- The comparisons of an element type
-----------------------------------------------------------------------------------------

namespace DType

/-- Whether an element is a not-a-number. No integer is one. -/
def isNaN : (dtype : DType) → dtype.Element → Bool
  | bf16, x => x.isNaN
  | f16, x => x.isNaN
  | f32, x => x.isNaN
  | _, _ => false

/-- Where an element stands among the numbers of its type. -/
def position : (dtype : DType) → dtype.Element → Int
  | bf16, x => x.position
  | f16, x => x.position
  | f32, x => x.position
  | dtype, x => dtype.toInt x

/-- The comparisons of an element type are those of the positions. A not-a-number compares with
nothing, and no extreme value is one.
-/
structure IsOrdered (dtype : DType) (numeric : Numeric dtype.Element) : Prop where
  less
    : ∀ {x y},
        numeric.less x y = true
        ↔ dtype.isNaN x = false ∧ dtype.isNaN y = false ∧ dtype.position x < dtype.position y
  same
    : ∀ {x y},
        dtype.sameElement x y = true
        ↔ dtype.isNaN x = false ∧ dtype.isNaN y = false ∧ dtype.position x = dtype.position y
  lowest : dtype.isNaN numeric.lowest = false
  highest : dtype.isNaN numeric.highest = false

theorem isOrdered_of_isTwosComplement {dtype : DType} {numeric : Numeric dtype.Element}
    (arithmetic : IsTwosComplement dtype numeric) (integral : dtype.isIntegral)
    : IsOrdered dtype numeric := by
  have number (x : dtype.Element) : dtype.isNaN x = false := by
    cases dtype with
    | i32 | i64 => rfl
    | boolean | bf16 | f16 | f32 => cases integral
  have place (x : dtype.Element) : dtype.position x = dtype.toInt x := by
    cases dtype with
    | i32 | i64 => rfl
    | boolean | bf16 | f16 | f32 => cases integral
  have same (x y : dtype.Element) : dtype.sameElement x y = true ↔ x = y := by
    cases dtype with
    | i32 | i64 => exact beq_iff_eq
    | boolean | bf16 | f16 | f32 => cases integral
  refine ⟨?_, ?_, number _, number _⟩
  · intro x y
    simp only [number, place, true_and]
    exact arithmetic.less
  · intro x y
    simp only [number, place, same, true_and]
    exact ⟨congrArg dtype.toInt, arithmetic.injective⟩

theorem isNaN_infinity {format : FloatFormat} (sign : Bool)
    : (Floating.infinity sign : Floating format).isNaN = false := by
  rw [Floating.isNaN_eq_false_iff, Floating.magnitude_infinity]

/-- Every element type with an arithmetic is ordered, by cases on the type. -/
theorem exists_isOrdered {dtype : DType} (numbers : dtype.isNumeric)
    : ∃ numeric, dtype.numeric? = some numeric ∧ IsOrdered dtype numeric := by
  cases dtype with
  | boolean => cases numbers
  | i32 => exact ⟨_, rfl, isOrdered_of_isTwosComplement isTwosComplement_i32 rfl⟩
  | i64 => exact ⟨_, rfl, isOrdered_of_isTwosComplement isTwosComplement_i64 rfl⟩
  | bf16 | f16 | f32 =>
      exact ⟨_, rfl, Floating.less_iff, Floating.same_iff, isNaN_infinity true,
        isNaN_infinity false⟩

end DType

namespace Reduction

variable {dtype : DType} {beyond : dtype.Element → dtype.Element → Bool}
  {height : dtype.Element → Int}

/-- To be beyond an element is to stand higher, in one of the two directions of the order. -/
structure Ranks (dtype : DType) (beyond : dtype.Element → dtype.Element → Bool)
    (height : dtype.Element → Int)
    : Prop where
  beyond_iff
    : ∀ {held x},
        beyond held x = true
        ↔ dtype.isNaN held = false ∧ dtype.isNaN x = false ∧ height held < height x
  same_iff
    : ∀ {x y},
        dtype.sameElement x y = true
        ↔ dtype.isNaN x = false ∧ dtype.isNaN y = false ∧ height x = height y

section Directions

variable {numeric : Numeric dtype.Element}

theorem ranks_upward (ordered : dtype.IsOrdered numeric)
    : Ranks dtype numeric.less dtype.position :=
  ⟨ordered.less, ordered.same⟩

theorem ranks_downward (ordered : dtype.IsOrdered numeric)
    : Ranks dtype (fun held x => numeric.less x held) fun x => -dtype.position x := by
  constructor
  · intro held x
    rw [ordered.less, Int.neg_lt_neg_iff, and_left_comm]
  · intro x y
    rw [ordered.same, Int.neg_inj]

end Directions

namespace Ranks

theorem beyond_eq_false_iff (ranks : Ranks dtype beyond height) {held x : dtype.Element}
    (number : dtype.isNaN held = false)
    : beyond held x = false ↔ dtype.isNaN x = true ∨ height x ≤ height held := by
  rw [← Bool.not_eq_true, ranks.beyond_iff, ← Bool.not_eq_false]
  simp only [number, true_and, not_and, Int.not_lt]
  exact imp_iff_not_or

/-- An element that is beyond another one is not equal to what the other one is not beneath. -/
theorem same_eq_false (ranks : Ranks dtype beyond height) {held chosen x : dtype.Element}
    (above : beyond held chosen = true) (notBeyond : beyond held x = false)
    : dtype.sameElement chosen x = false := by
  obtain ⟨number, -, higher⟩ := ranks.beyond_iff.mp above
  rw [← Bool.not_eq_true, ranks.same_iff]
  rintro ⟨-, numberToo, level⟩
  rcases (ranks.beyond_eq_false_iff number).mp notBeyond with nan | lower
  · rw [numberToo] at nan
    cases nan
  · omega

end Ranks

-----------------------------------------------------------------------------------------
-- The element that a fold chooses
-----------------------------------------------------------------------------------------

/-- What a fold to an extreme value makes of elements: a number, the start or one of the elements,
that no element is beyond. Unless it is the start it is the first of the elements that equal it, and
it is the start exactly if no element is beyond that.
-/
structure Chosen (dtype : DType) (beyond : dtype.Element → dtype.Element → Bool)
    (start : dtype.Element) (elements : List dtype.Element) (chosen : dtype.Element)
    : Prop where
  number : dtype.isNaN chosen = false
  source : chosen = start ∨ chosen ∈ elements
  extreme : ∀ x ∈ elements, beyond chosen x = false
  first : chosen ≠ start → elements.find? (dtype.sameElement chosen) = some chosen
  start_iff : chosen = start ↔ ∀ x ∈ elements, beyond start x = false

namespace Chosen

variable {start chosen x : dtype.Element} {elements : List dtype.Element}

theorem nil (number : dtype.isNaN start = false) : Chosen dtype beyond start [] start where
  number := number
  source := .inl rfl
  extreme := by simp
  first := fun moved => absurd rfl moved
  start_iff := by simp

/-- What is not the start is beyond it. -/
theorem above_start (ranks : Ranks dtype beyond height) (number : dtype.isNaN start = false)
    (chose : Chosen dtype beyond start elements chosen) (moved : chosen ≠ start)
    : beyond start chosen = true := by
  have some : ¬ ∀ x ∈ elements, beyond start x = false := mt chose.start_iff.mpr moved
  push Not at some
  obtain ⟨x, member, above⟩ := some
  rw [Bool.ne_false_iff] at above
  obtain ⟨-, numberToo, higher⟩ := ranks.beyond_iff.mp above
  rcases (ranks.beyond_eq_false_iff chose.number).mp (chose.extreme x member) with nan | lower
  · rw [numberToo] at nan
    cases nan
  · exact ranks.beyond_iff.mpr ⟨number, chose.number, by omega⟩

theorem not_below_start (ranks : Ranks dtype beyond height) (number : dtype.isNaN start = false)
    (chose : Chosen dtype beyond start elements chosen)
    : height start ≤ height chosen := by
  by_cases moved : chosen = start
  · rw [moved]
  · exact Int.le_of_lt (ranks.beyond_iff.mp (chose.above_start ranks number moved)).2.2

/-- An element that is not beyond the start may come first: it changes nothing. -/
theorem pass (ranks : Ranks dtype beyond height) (number : dtype.isNaN start = false)
    (passed : beyond start x = false) (chose : Chosen dtype beyond start elements chosen)
    : Chosen dtype beyond start (x :: elements) chosen := by
  have level := chose.not_below_start ranks number
  refine ⟨chose.number, chose.source.imp_right (List.mem_cons_of_mem x), ?_, ?_, ?_⟩
  · refine List.forall_mem_cons.mpr ⟨?_, chose.extreme⟩
    rw [ranks.beyond_eq_false_iff chose.number]
    exact ((ranks.beyond_eq_false_iff number).mp passed).imp_right fun lower => by omega
  · intro moved
    have differs := ranks.same_eq_false (chose.above_start ranks number moved) passed
    rw [List.find?_cons_of_neg (by simp [differs])]
    exact chose.first moved
  · rw [List.forall_mem_cons, and_iff_right passed]
    exact chose.start_iff

/-- An element beyond the start may come first: the fold goes on from there. -/
theorem take (ranks : Ranks dtype beyond height) (taken : beyond start x = true)
    (chose : Chosen dtype beyond x elements chosen)
    : Chosen dtype beyond start (x :: elements) chosen := by
  obtain ⟨numberStart, number, higher⟩ := ranks.beyond_iff.mp taken
  have level := chose.not_below_start ranks number
  refine ⟨chose.number, ?_, ?_, ?_, ?_⟩
  · rw [List.mem_cons]
    exact .inr chose.source
  · refine List.forall_mem_cons.mpr ⟨?_, chose.extreme⟩
    exact (ranks.beyond_eq_false_iff chose.number).mpr (.inr level)
  · intro _
    by_cases moved : chosen = x
    · subst moved
      exact List.find?_cons_of_pos (ranks.same_iff.mpr ⟨number, number, rfl⟩)
    · have above := chose.above_start ranks number moved
      have differs := ranks.same_eq_false above
        ((ranks.beyond_eq_false_iff number).mpr (.inr (Int.le_refl _)))
      rw [List.find?_cons_of_neg (by simp [differs])]
      exact chose.first moved
  · constructor
    · rintro rfl
      omega
    · intro none
      rw [none x List.mem_cons_self] at taken
      cases taken

/-- A fold to an extreme value chooses, by induction on the elements. -/
theorem foldl (ranks : Ranks dtype beyond height) (number : dtype.isNaN start = false)
    (elements : List dtype.Element)
    : Chosen dtype beyond start elements
        (elements.foldl (fun held x => if beyond held x then x else held) start) := by
  induction elements generalizing start with
  | nil => exact nil number
  | cons x rest ih =>
      rw [List.foldl_cons]
      by_cases taken : beyond start x = true
      · rw [if_pos taken]
        exact (ih (ranks.beyond_iff.mp taken).2.1).take ranks taken
      · rw [if_neg taken]
        exact (ih number).pass ranks number (Bool.not_eq_true _ ▸ taken)

end Chosen

-----------------------------------------------------------------------------------------
-- The reductions to the largest and to the smallest element
-----------------------------------------------------------------------------------------

theorem fold_chosen (ranks : Ranks dtype beyond height) {start : dtype.Element}
    (number : dtype.isNaN start = false) {argument out : List dtype.Element} {shape : Shape}
    {axes : AxisSet} {keepDims : Bool} (fitting : Fitting argument out shape axes keepDims)
    : ∃ chosen,
        fold (fun held x => if beyond held x then x else held) start argument out shape axes
            keepDims
          = .ok chosen
        ∧ List.Forall₂ (Chosen dtype beyond start)
            ((List.range out.length).map (gathered argument shape axes)) chosen := by
  have counted : out.length = (shape.reduce axes false).numel :=
    fitting.out.trans (shape.numel_reduce axes keepDims)
  refine ⟨_, fold_of_fitting _ _ fitting, ?_⟩
  rw [slots, counted, List.forall₂_map_left_iff, List.forall₂_map_right_iff, List.forall₂_same]
  intro slot _
  exact Chosen.foldl ranks number _

/-- The reductions to the largest and to the smallest element succeed. For each slot the one chooses
upward from the smallest value of the type, and the other downward from the largest.
-/
theorem Kind.extremes_chosen (numbers : dtype.isNumeric) (argument out : List dtype.Element)
    (shape : Shape) (axes : AxisSet) (keepDims : Bool) (filled : argument.length = shape.numel)
    (fits : out.length = (shape.reduce axes keepDims).numel)
    (below : ∀ axis ∈ axes, axis < shape.rank)
    : ∃ numeric upward downward largest smallest,
        dtype.numeric? = some numeric
        ∧ Kind.max.kernel? dtype = some upward
        ∧ upward argument out shape axes keepDims = .ok largest
        ∧ List.Forall₂ (Chosen dtype numeric.less numeric.lowest)
            ((List.range out.length).map (gathered argument shape axes)) largest
        ∧ Kind.min.kernel? dtype = some downward
        ∧ downward argument out shape axes keepDims = .ok smallest
        ∧ List.Forall₂ (Chosen dtype (fun held x => numeric.less x held) numeric.highest)
            ((List.range out.length).map (gathered argument shape axes)) smallest := by
  obtain ⟨numeric, arithmetic, ordered⟩ := DType.exists_isOrdered numbers
  have fitting : Fitting argument out shape axes keepDims :=
    ⟨filled, fits, checkAxes_iff_below.mpr below⟩
  obtain ⟨largest, foundLargest, upward⟩ :=
    fold_chosen (ranks_upward ordered) ordered.lowest fitting
  obtain ⟨smallest, foundSmallest, downward⟩ :=
    fold_chosen (ranks_downward ordered) ordered.highest fitting
  exact ⟨numeric, _, _, largest, smallest, arithmetic, kernel_of_numeric _ arithmetic,
    foundLargest, upward, kernel_of_numeric _ arithmetic, foundSmallest, downward⟩

/-- Two rows: a not-a-number before both zeros, and nothing but not-a-numbers. -/
def zerosAmongNaNs : List Binary32 :=
  [⟨0x7fc00000⟩, .zero true, .zero false, ⟨0x7fc00000⟩, ⟨0xffc00001⟩, ⟨0x7f800001⟩]

/-- Of both zeros the first one is the largest and the smallest element of its row. A row without a
number has the values from which the folds start.
-/
theorem extremes_of_zerosAmongNaNs
    : zerosAmongNaNs.length = Shape.numel ⟨[2, 3]⟩
      ∧ maximum zerosAmongNaNs [.one, .one] ⟨[2, 3]⟩ (.ofList [1]) false
        = .ok [.zero true, .infinity true]
      ∧ minimum zerosAmongNaNs [.one, .one] ⟨[2, 3]⟩ (.ofList [1]) false
        = .ok [.zero true, .infinity false]
      ∧ Chosen .f32 Floating.less (.infinity true) (zerosAmongNaNs.take 3) (.zero true)
      ∧ Chosen .f32 (fun held x => Floating.less x held) (.infinity false)
          (zerosAmongNaNs.drop 3) (.infinity false) := by
  have greatest
      : maximum zerosAmongNaNs [.one, .one] ⟨[2, 3]⟩ (.ofList [1]) false
        = .ok [.zero true, .infinity true] := by
    decide +kernel
  have least
      : minimum zerosAmongNaNs [.one, .one] ⟨[2, 3]⟩ (.ofList [1]) false
        = .ok [.zero true, .infinity false] := by
    decide +kernel
  obtain ⟨numeric, upward, downward, largest, smallest, numbers, knownUpward, foundLargest,
    upwards, knownDownward, foundSmallest, downwards⟩ :=
    Kind.extremes_chosen (rfl : DType.f32.isNumeric = true) zerosAmongNaNs [.one, .one] ⟨[2, 3]⟩
      (.ofList [1]) false rfl rfl (by decide)
  cases numbers
  cases knownUpward
  cases knownDownward
  cases greatest.symm.trans foundLargest
  cases least.symm.trans foundSmallest
  obtain ⟨first, -⟩ := List.forall₂_cons.mp upwards
  obtain ⟨-, later⟩ := List.forall₂_cons.mp downwards
  obtain ⟨second, -⟩ := List.forall₂_cons.mp later
  exact ⟨rfl, greatest, least, first, second⟩

end Reduction

end TensorGraph
