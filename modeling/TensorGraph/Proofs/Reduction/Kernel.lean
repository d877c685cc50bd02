import TensorGraph.Proofs.AxisSet
import TensorGraph.Proofs.Reduction.Odometer
import TensorGraph.Proofs.Traversal
import TensorGraph.Reduction.Kind

/-! Every kernel completes on arguments that pass its checks.

Only the mean divides, and the one count that stops a division is so large that no buffer holds as
many elements.
-/

namespace TensorGraph

/-- A division by a count stops for no count that a buffer can reach. -/
theorem Numeric.divWord_eq_ok (value : Int64) {count : Nat} (small : count + 1 < twoPow 64)
    : ∃ quotient, Numeric.divWord value count = .ok quotient := by
  unfold Numeric.divWord
  by_cases none : count = 0
  · exact ⟨value, by simp [none]⟩
  · have different : Int64.ofNat count ≠ -1 := by
      intro same
      have signed : (Int64.ofNat count).toInt = -1 := by
        rw [same]
        rfl
      have words : twoPow 64 = 18446744073709551616 := rfl
      have size : Int64.size = 18446744073709551616 := rfl
      rw [Int64.toInt_ofNat', Int.bmod, size] at signed
      split at signed <;> omega
    simp [none, different]

theorem DType.divCount_eq_ok {dtype : DType} {numeric : Numeric dtype.Element}
    (numbers : dtype.numeric? = some numeric) (value : dtype.Element) {count : Nat}
    (small : count + 1 < twoPow 64)
    : ∃ quotient, numeric.divCount value count = .ok quotient := by
  cases dtype with
  | boolean => cases numbers
  | i32 =>
      cases numbers
      obtain ⟨quotient, divided⟩ := Numeric.divWord_eq_ok value.toInt64 small
      exact ⟨quotient.toInt32, map_eq_ok_iff.mpr ⟨quotient, divided, rfl⟩⟩
  | i64 =>
      cases numbers
      exact Numeric.divWord_eq_ok value small
  | bf16 | f16 | f32 =>
      cases numbers
      exact ⟨_, rfl⟩

namespace Reduction

variable {α : Type}

/-- The check of the axes looks at the largest one only. -/
theorem checkAxes_iff_below {shape : Shape} {axes : AxisSet}
    : checkAxes shape axes = .ok () ↔ ∀ axis ∈ axes, axis < shape.rank := by
  unfold checkAxes
  cases largest : axes.max? with
  | none =>
      rw [AxisSet.max?, List.getLast?_eq_none_iff] at largest
      simp [← AxisSet.mem_toList, largest]
  | some last =>
      constructor
      · intro checked axis member
        simp only at checked
        split at checked
        next below => exact Nat.lt_of_le_of_lt (AxisSet.le_max largest member) below
        · cases checked
      · intro below
        exact if_pos (below last (List.mem_of_getLast? largest))

/-- The arguments of a kernel pass its checks: the lengths fit the shape and so do the axes. -/
structure Fitting (argument out : List α) (shape : Shape) (axes : AxisSet) (keepDims : Bool)
    : Prop where
  argument : argument.length = shape.numel
  out : out.length = (shape.reduce axes keepDims).numel
  axes : checkAxes shape axes = .ok ()

theorem Fitting.checkArguments {argument out : List α} {shape : Shape} {axes : AxisSet}
    {keepDims : Bool} (fitting : Fitting argument out shape axes keepDims)
    : checkArguments argument.length out.length shape axes keepDims = .ok () := by
  simp [Reduction.checkArguments, Shape.count, fitting.argument, fitting.out, fitting.axes]

/-- A kernel gives one element for each element of the output, if its arguments pass the checks and
the argument is no longer than a buffer can be.
-/
def Completes (kernel : Kernel α) : Prop :=
  ∀ (argument out : List α) (shape : Shape) (axes : AxisSet) (keepDims : Bool),
    Fitting argument out shape axes keepDims
    → argument.length + 1 < twoPow 64
    → ∃ reduced,
        kernel argument out shape axes keepDims = .ok reduced ∧ reduced.length = out.length

theorem fold_eq_ok (combine : α → α → α) (start : α) {argument out : List α} {shape : Shape}
    {axes : AxisSet} {keepDims : Bool} (fitting : Fitting argument out shape axes keepDims)
    : ∃ folded,
        fold combine start argument out shape axes keepDims = .ok folded
        ∧ folded.length = out.length := by
  have slotCount
      : (List.replicate out.length start).length = (shape.reduce axes keepDims).numel := by
    rw [List.length_replicate, fitting.out]
  obtain ⟨folded, walked, length⟩ := walk_wheels_eq_ok combine slotCount fitting.argument
  refine ⟨folded, ?_, length.trans List.length_replicate⟩
  rw [fold, fitting.checkArguments]
  simp only [walked]
  rfl

theorem fold_completes (combine : α → α → α) (start : α) : Completes (fold combine start) :=
  fun _ _ _ _ _ fitting _ => fold_eq_ok combine start fitting

theorem l2_completes [Numeric α] : Completes (l2 : Kernel α) := by
  intro argument out shape axes keepDims fitting _
  obtain ⟨folded, done, length⟩ := fold_eq_ok
    (fun sum x => Numeric.add sum (Numeric.mul x x)) Numeric.zero fitting
  refine ⟨folded.map Numeric.sqrt, ?_, by rw [List.length_map, length]⟩
  rw [l2, done]
  rfl

/-- The mean completes because a slot that exists has no more elements than the argument. -/
theorem mean_completes [Numeric α]
    (divides
      : ∀ (value : α) {count : Nat},
          count + 1 < twoPow 64 → ∃ quotient, Numeric.divCount value count = .ok quotient)
    : Completes (mean : Kernel α) := by
  intro argument out shape axes keepDims fitting small
  obtain ⟨sums, done, length⟩ := fold_eq_ok Numeric.add Numeric.zero fitting
  have divided
      : failure? (sums.mapM fun total => Numeric.divCount total (word (shape.reducedCount axes)))
        = none := by
    rw [failure?_mapM, List.findSome?_eq_none_iff]
    intro total member
    have results : 0 < (shape.reduce axes keepDims).numel := by
      rw [← fitting.out, ← length]
      exact List.length_pos_of_mem member
    have most : word (shape.reducedCount axes) ≤ argument.length := by
      rw [fitting.argument, shape.numel_eq_reduce_mul axes keepDims]
      exact Nat.le_trans (word_le _) (Nat.le_mul_of_pos_left _ results)
    exact failure?_eq_none_iff.mpr (divides total (by omega))
  obtain ⟨means, all⟩ := failure?_eq_none_iff.mp divided
  refine ⟨means, ?_, ?_⟩
  · have summed : sum argument out shape axes keepDims = .ok sums := done
    rw [mean, summed]
    simp only [all]
    rfl
  · rw [← length]
    exact (mapM_eq_ok_iff.mp all).length_eq.symm

/-- A kernel looks at the length of its buffer only, not at what the buffer holds. -/
def Overwrites (kernel : Kernel α) : Prop :=
  ∀ (argument : List α) {out other : List α} (shape : Shape) (axes : AxisSet) (keepDims : Bool),
    out.length = other.length
    → kernel argument out shape axes keepDims = kernel argument other shape axes keepDims

theorem fold_overwrites (combine : α → α → α) (start : α) : Overwrites (fold combine start) := by
  intro argument out other shape axes keepDims same
  rw [fold, fold, same]

theorem l2_overwrites [Numeric α] : Overwrites (l2 : Kernel α) := by
  intro argument out other shape axes keepDims same
  rw [l2, l2, fold_overwrites _ _ argument shape axes keepDims same]

theorem mean_overwrites [Numeric α] : Overwrites (mean : Kernel α) := by
  intro argument out other shape axes keepDims same
  have summed : sum argument out shape axes keepDims = sum argument other shape axes keepDims :=
    fold_overwrites _ _ argument shape axes keepDims same
  rw [mean, mean, summed]

/-- A kernel that succeeds gives one element for each element of its buffer. -/
def KeepsLength (kernel : Kernel α) : Prop :=
  ∀ {argument out reduced : List α} {shape : Shape} {axes : AxisSet} {keepDims : Bool},
    kernel argument out shape axes keepDims = .ok reduced → reduced.length = out.length

theorem fold_keepsLength (combine : α → α → α) (start : α) : KeepsLength (fold combine start) := by
  intro argument out reduced shape axes keepDims done
  rw [fold] at done
  split at done
  · cases done
  · rw [length_walk (orFault_eq_ok_iff.mp done), List.length_replicate]

theorem l2_keepsLength [Numeric α] : KeepsLength (l2 : Kernel α) := by
  intro argument out reduced shape axes keepDims done
  obtain ⟨sums, summed, rfl⟩ := map_eq_ok_iff.mp done
  rw [List.length_map, fold_keepsLength _ _ summed]

theorem mean_keepsLength [Numeric α] : KeepsLength (mean : Kernel α) := by
  intro argument out reduced shape axes keepDims done
  rw [mean] at done
  split at done
  · cases done
  next sums summed =>
    have divided := (mapM_eq_ok_iff.mp (orFault_eq_ok_iff.mp done)).length_eq
    rw [← divided, fold_keepsLength _ _ summed]

theorem Kind.kernel_of_numeric {dtype : DType} {numeric : Numeric dtype.Element} (kind : Kind)
    (numbers : dtype.numeric? = some numeric)
    : kind.kernel? dtype = kind.arithmetic? numeric := by
  cases dtype <;> cases numbers <;> rfl

/-- What holds of all folds, of the norm and of the mean holds of the kernels of every kind, by
cases on the kind.
-/
theorem holds_of_kernel {kind : Kind} {dtype : DType} {kernel : Kernel dtype.Element}
    (known : kind.kernel? dtype = some kernel) {Holds : Kernel dtype.Element → Prop}
    (folds : ∀ combine start, Holds (fold combine start))
    (norms : ∀ [numbers : Numeric dtype.Element], dtype.numeric? = some numbers → Holds l2)
    (means : ∀ [numbers : Numeric dtype.Element], dtype.numeric? = some numbers → Holds mean)
    : Holds kernel := by
  have arithmetic {numeric : Numeric dtype.Element} (numbers : dtype.numeric? = some numeric)
      (known : kind.arithmetic? numeric = some kernel)
      : Holds kernel := by
    cases kind with
    | l1 | sum | prod | max | min =>
        cases known
        exact folds _ _
    | l2 =>
        cases known
        exact norms numbers
    | mean =>
        cases known
        exact means numbers
    | logicalAnd | logicalOr => cases known
  cases dtype with
  | boolean =>
      cases kind with
      | logicalAnd | logicalOr =>
          cases known
          exact folds _ _
      | _ => cases known
  | _ => exact arithmetic rfl known

/-- The kernels of every kind complete. -/
theorem Kind.completes {kind : Kind} {dtype : DType} {kernel : Kernel dtype.Element}
    (known : kind.kernel? dtype = some kernel)
    : Completes kernel := by
  refine holds_of_kernel known fold_completes (fun _ => l2_completes) ?_
  intro numeric numbers
  exact mean_completes fun value _ small => DType.divCount_eq_ok numbers value small

/-- No kernel of any kind reads its buffer. -/
theorem Kind.overwrites {kind : Kind} {dtype : DType} {kernel : Kernel dtype.Element}
    (known : kind.kernel? dtype = some kernel)
    : Overwrites kernel :=
  holds_of_kernel known fold_overwrites (fun _ => l2_overwrites) fun _ => mean_overwrites

/-- The kernels of every kind give one element for each element of their buffer. -/
theorem Kind.keepsLength {kind : Kind} {dtype : DType} {kernel : Kernel dtype.Element}
    (known : kind.kernel? dtype = some kernel)
    : KeepsLength kernel :=
  holds_of_kernel known fold_keepsLength (fun _ => l2_keepsLength) fun _ => mean_keepsLength

end Reduction
end TensorGraph
