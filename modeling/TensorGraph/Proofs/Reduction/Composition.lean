import Mathlib.Data.List.Nodup
import TensorGraph.Proofs.Integers
import TensorGraph.Proofs.Reduction.Fold

/-! Reductions in two steps.

A reduction whose outcome does not depend on the order and the grouping of the elements can be made
over one set of axes and then, on its result, over another: it is the reduction over the union.
-/

namespace TensorGraph.Reduction

open Shape (placeOf clearedFrom keptCoordinates)

variable {α : Type} {shape : Shape} {axes first second : AxisSet}

-----------------------------------------------------------------------------------------
-- The elements of a slot of a slot
-----------------------------------------------------------------------------------------

theorem numel_union (shape : Shape) (first second : AxisSet) (keepDims : Bool)
    : ((shape.reduce first true).reduce second keepDims).numel
      = (shape.reduce (first ∪ second) false).numel := by
  rw [Shape.numel_reduce, ← Shape.numel_reduce _ _ true, Shape.reduce_reduce, Shape.numel_reduce]

/-- The slot of an element is the same if the reduced axes are kept with extent 1. -/
theorem slotFor_eq_cleared {place : Nat} (below : place < shape.numel)
    : slotFor shape axes place
      = placeOf (shape.reduce axes true).dims (clearedFrom axes 0 (shape.coordinates place)) :=
  (Shape.placeOf_clearedFrom (Shape.coordinatesOf_inside below)).symm

theorem coordinates_slotFor {place : Nat} (below : place < shape.numel)
    : (shape.reduce axes true).coordinates (slotFor shape axes place)
      = clearedFrom axes 0 (shape.coordinates place) := by
  rw [slotFor_eq_cleared below]
  exact Shape.coordinatesOf_placeOf (Shape.coordinatesOf_inside below).clearedFrom

theorem slotFor_lt_kept {place : Nat} (below : place < shape.numel)
    : slotFor shape axes place < (shape.reduce axes true).numel := by
  rw [Shape.numel_reduce]
  exact slotFor_lt below

/-- An element goes to the same slot in two steps as in one. -/
theorem slotFor_slotFor {place : Nat} (below : place < shape.numel)
    : slotFor (shape.reduce first true) second (slotFor shape first place)
      = slotFor shape (first ∪ second) place := by
  rw [slotFor_eq_cleared (slotFor_lt_kept below), coordinates_slotFor below,
    Shape.clearedFrom_clearedFrom, Shape.reduce_reduce, slotFor_eq_cleared below]

theorem mem_members {place slot : Nat} (inBounds : slot < (shape.reduce axes false).numel)
    : place ∈ members shape axes slot ↔ place < shape.numel ∧ slotFor shape axes place = slot := by
  rw [members_eq inBounds, List.mem_filter, List.mem_range, decide_eq_true_iff]

theorem members_nodup (shape : Shape) (axes : AxisSet) (slot : Nat)
    : (members shape axes slot).Nodup :=
  List.nodup_range.filter _

/-- The elements of a slot of the second step, each a slot of the first step, are together those of
the slot of the union.
-/
theorem members_union {slot : Nat} (inBounds : slot < (shape.reduce (first ∪ second) false).numel)
    : ((members (shape.reduce first true) second slot).flatMap (members shape first)).Perm
        (members shape (first ∪ second) slot) := by
  have inBoundsAgain : slot < ((shape.reduce first true).reduce second false).numel := by
    rwa [numel_union]
  have inFirst {middle : Nat} (member : middle ∈ members (shape.reduce first true) second slot)
      : middle < (shape.reduce first false).numel := by
    rw [← Shape.numel_reduce _ _ true]
    exact ((mem_members inBoundsAgain).mp member).1
  have distinct
      : ((members (shape.reduce first true) second slot).flatMap (members shape first)).Nodup := by
    refine List.nodup_flatMap.mpr ⟨fun middle _ => members_nodup shape first middle, ?_⟩
    refine (members_nodup (shape.reduce first true) second slot).imp_of_mem ?_
    intro middle other middleMember otherMember different place member again
    have goes := ((mem_members (inFirst middleMember)).mp member).2
    have goesToo := ((mem_members (inFirst otherMember)).mp again).2
    exact different (goes.symm.trans goesToo)
  refine (List.perm_ext_iff_of_nodup distinct (members_nodup _ _ _)).mpr fun place => ?_
  rw [List.mem_flatMap, mem_members inBounds]
  constructor
  · rintro ⟨middle, middleMember, member⟩
    obtain ⟨below, goes⟩ := (mem_members (inFirst middleMember)).mp member
    obtain ⟨-, goesOn⟩ := (mem_members inBoundsAgain).mp middleMember
    refine ⟨below, ?_⟩
    rw [← slotFor_slotFor below, goes, goesOn]
  · rintro ⟨below, goes⟩
    refine ⟨slotFor shape first place, ?_, (mem_members (slotFor_lt below)).mpr ⟨below, rfl⟩⟩
    rw [← slotFor_slotFor below] at goes
    exact (mem_members inBoundsAgain).mpr ⟨slotFor_lt_kept below, goes⟩

-----------------------------------------------------------------------------------------
-- Folds that regroup
-----------------------------------------------------------------------------------------

/-- A fold whose outcome does not depend on the order and the grouping of the elements. -/
structure Regroups (combine : α → α → α) (start : α) : Prop where
  assoc : ∀ x y z, combine (combine x y) z = combine x (combine y z)
  comm : ∀ x y, combine x y = combine y x
  neutral : ∀ x, combine x start = x

section

variable {combine : α → α → α} {start : α}

theorem Regroups.foldl_perm (regroups : Regroups combine start) {elements others : List α}
    (shuffled : elements.Perm others)
    : elements.foldl combine start = others.foldl combine start := by
  refine shuffled.foldl_eq' ?_ start
  intro x _ y _ held
  rw [regroups.assoc, regroups.assoc, regroups.comm x y]

/-- A part of the elements may be folded by itself. -/
theorem Regroups.combine_foldl (regroups : Regroups combine start) (held : α) (elements : List α)
    : combine held (elements.foldl combine start) = elements.foldl combine held := by
  have : Std.Associative combine := ⟨regroups.assoc⟩
  have moved
      : elements.foldl combine (combine held start)
        = combine held (elements.foldl combine start) :=
    List.foldl_assoc
  rw [← moved, regroups.neutral]

/-- The fold over the folds of groups of elements is the fold over all elements, by induction on the
groups.
-/
theorem Regroups.foldl_flatMap {β : Type} (regroups : Regroups combine start) (groups : List β)
    (elements : β → List α) (held : α)
    : (groups.map fun group => (elements group).foldl combine start).foldl combine held
      = (groups.flatMap elements).foldl combine held := by
  induction groups generalizing held with
  | nil => rfl
  | cons group rest ih =>
      rw [List.map_cons, List.foldl_cons, ih, regroups.combine_foldl, List.flatMap_cons,
        List.foldl_append]

/-- The slots of the slots hold what the slots of the union of the axes hold. -/
theorem Regroups.slots_slots (regroups : Regroups combine start) (argument : List α)
    (shape : Shape) (first second : AxisSet)
    : slots combine start (slots combine start argument shape first)
        (shape.reduce first true) second
      = slots combine start argument shape (first ∪ second) := by
  rw [slots, numel_union]
  apply List.map_congr_left
  intro slot member
  have inBounds := List.mem_range.mp member
  have folded
      : ((members (shape.reduce first true) second slot).filterMap fun middle =>
          (slots combine start argument shape first)[middle]?)
        = (members (shape.reduce first true) second slot).map fun middle =>
          (gathered argument shape first middle).foldl combine start := by
    rw [← List.filterMap_eq_map]
    apply List.filterMap_congr
    intro middle middleMember
    have inFirst := ((mem_members (numel_union shape first second false ▸ inBounds)).mp
      middleMember).1
    rw [Shape.numel_reduce] at inFirst
    exact getElem?_slots combine start argument inFirst
  have joined
      : (members (shape.reduce first true) second slot).flatMap (gathered argument shape first)
        = ((members (shape.reduce first true) second slot).flatMap (members shape first)).filterMap
            fun place => argument[place]? :=
    List.filterMap_flatMap.symm
  rw [folded, regroups.foldl_flatMap, joined]
  exact regroups.foldl_perm ((members_union inBounds).filterMap _)

end

-----------------------------------------------------------------------------------------
-- Kernels that regroup
-----------------------------------------------------------------------------------------

section Integral

variable {dtype : DType} {numeric : Numeric dtype.Element}

theorem regroups_add (integral : dtype.isIntegral) (numbers : dtype.numeric? = some numeric)
    : Regroups numeric.add numeric.zero := by
  cases dtype with
  | i32 =>
      cases numbers
      exact ⟨Int32.add_assoc, Int32.add_comm, Int32.add_zero⟩
  | i64 =>
      cases numbers
      exact ⟨Int64.add_assoc, Int64.add_comm, Int64.add_zero⟩
  | boolean | bf16 | f16 | f32 => cases integral

theorem regroups_mul (integral : dtype.isIntegral) (numbers : dtype.numeric? = some numeric)
    : Regroups numeric.mul numeric.one := by
  cases dtype with
  | i32 =>
      cases numbers
      exact ⟨Int32.mul_assoc, Int32.mul_comm, Int32.mul_one⟩
  | i64 =>
      cases numbers
      exact ⟨Int64.mul_assoc, Int64.mul_comm, Int64.mul_one⟩
  | boolean | bf16 | f16 | f32 => cases integral

/-- A choice between two elements regroups if it is a choice by number that never takes the start
against another element.
-/
theorem regroups_of_toInt (arithmetic : dtype.IsTwosComplement numeric)
    {combine : dtype.Element → dtype.Element → dtype.Element} {start : dtype.Element}
    {choose : Int → Int → Int} [associative : Std.Associative choose]
    [commutative : Std.Commutative choose]
    (chosen : ∀ x y, dtype.toInt (combine x y) = choose (dtype.toInt x) (dtype.toInt y))
    (passed : ∀ x, choose (dtype.toInt x) (dtype.toInt start) = dtype.toInt x)
    : Regroups combine start where
  assoc x y z := by
    apply arithmetic.injective
    rw [chosen, chosen, chosen, chosen, associative.assoc]
  comm x y := by
    apply arithmetic.injective
    rw [chosen, chosen, commutative.comm]
  neutral x := by
    apply arithmetic.injective
    rw [chosen, passed]

theorem regroups_max (arithmetic : dtype.IsTwosComplement numeric)
    : Regroups (fun greatest x => if numeric.less greatest x then x else greatest)
        numeric.lowest := by
  refine regroups_of_toInt arithmetic (fun x y => ?_) fun x => max_eq_left (arithmetic.lowest x)
  by_cases less : numeric.less x y = true
  · rw [if_pos less, max_eq_right (Int.le_of_lt (arithmetic.less.mp less))]
  · rw [if_neg less, max_eq_left]
    exact Int.not_lt.mp (mt arithmetic.less.mpr less)

theorem regroups_min (arithmetic : dtype.IsTwosComplement numeric)
    : Regroups (fun least x => if numeric.less x least then x else least)
        numeric.highest := by
  refine regroups_of_toInt arithmetic (fun x y => ?_) fun x => min_eq_left (arithmetic.highest x)
  by_cases less : numeric.less y x = true
  · rw [if_pos less, min_eq_right (Int.le_of_lt (arithmetic.less.mp less))]
  · rw [if_neg less, min_eq_left]
    exact Int.not_lt.mp (mt arithmetic.less.mpr less)

end Integral

/-- The reductions that regroup on the elements of a type: on integers the sum, the product and the
extreme values, and on truth values both connectives.
-/
def Kind.Regroups (kind : Kind) (dtype : DType) : Prop :=
  dtype.isIntegral ∧ kind ∈ [.sum, .prod, .max, .min] ∨ dtype = .boolean ∧ kind.isLogical

theorem Kind.exists_fold {kind : Kind} {dtype : DType} (regroups : kind.Regroups dtype)
    : ∃ combine start,
        kind.kernel? dtype = some (fold combine start)
        ∧ Reduction.Regroups combine start := by
  rcases regroups with ⟨integral, listed⟩ | ⟨rfl, logical⟩
  · obtain ⟨numeric, numbers, arithmetic⟩ := DType.exists_isTwosComplement integral
    cases kind with
    | sum => exact ⟨_, _, kernel_of_numeric _ numbers, regroups_add integral numbers⟩
    | prod => exact ⟨_, _, kernel_of_numeric _ numbers, regroups_mul integral numbers⟩
    | max => exact ⟨_, _, kernel_of_numeric _ numbers, regroups_max arithmetic⟩
    | min => exact ⟨_, _, kernel_of_numeric _ numbers, regroups_min arithmetic⟩
    | l1 | l2 | mean | logicalAnd | logicalOr => simp at listed
  · cases kind with
    | logicalAnd => exact ⟨and, true, rfl, Bool.and_assoc, Bool.and_comm, Bool.and_true⟩
    | logicalOr => exact ⟨or, false, rfl, Bool.or_assoc, Bool.or_comm, Bool.or_false⟩
    | l1 | l2 | sum | mean | prod | max | min => cases logical

-----------------------------------------------------------------------------------------
-- Reducing twice
-----------------------------------------------------------------------------------------

/-- Reduces over one set of axes and then the result, in which these axes have extent 1, over
another.
-/
def reduceTwice (kernel : Kernel α) (argument room out : List α) (shape : Shape)
    (first second : AxisSet) (keepFirst keepDims : Bool)
    : Except (Failure TensorError) (List α) := do
  let reduced ← kernel argument room shape first keepFirst
  kernel reduced out (shape.reduce first true) second keepDims

theorem fold_of_unfilled {argument out : List α} {shape : Shape} {axes : AxisSet}
    {keepDims : Bool} (combine : α → α → α) (start : α) (fits : shape.Fits)
    (short : argument.length < twoPow 64) (unfilled : argument.length ≠ shape.numel)
    : fold combine start argument out shape axes keepDims
      = .error (.error (.lengthMismatch shape.numel argument.length)) := by
  rw [fold, checkArguments, fits.count_eq, word_of_lt short, if_pos unfilled]

theorem Regroups.fold_fold {combine : α → α → α} {start : α} (regroups : Regroups combine start)
    (argument : List α) {room out : List α} {shape : Shape} {first second : AxisSet}
    {keepFirst keepDims : Bool} (fits : shape.Fits) (short : argument.length < twoPow 64)
    (firstBelow : ∀ axis ∈ first, axis < shape.rank)
    (secondBelow : ∀ axis ∈ second, axis < shape.rank)
    (roomFits : room.length = (shape.reduce first keepFirst).numel)
    (outFits : out.length = (shape.reduce (first ∪ second) keepDims).numel)
    : reduceTwice (fold combine start) argument room out shape first second keepFirst keepDims
      = fold combine start argument out shape (first ∪ second) keepDims := by
  by_cases filled : argument.length = shape.numel
  · have unionBelow := AxisSet.forall_mem_union.mpr ⟨firstBelow, secondBelow⟩
    have secondBelowKept (axis : Nat) (member : axis ∈ second)
        : axis < (shape.reduce first true).rank := by
      rw [Shape.rank_reduce]
      exact secondBelow axis member
    have once : Fitting argument room shape first keepFirst :=
      ⟨filled, roomFits, checkAxes_iff_below.mpr firstBelow⟩
    have again
        : Fitting (slots combine start argument shape first) out (shape.reduce first true) second
            keepDims := by
      refine ⟨?_, ?_, checkAxes_iff_below.mpr secondBelowKept⟩
      · rw [length_slots, Shape.numel_reduce _ _ true]
      · rw [numel_union, outFits, Shape.numel_reduce]
    have whole : Fitting argument out shape (first ∪ second) keepDims :=
      ⟨filled, outFits, checkAxes_iff_below.mpr unionBelow⟩
    rw [reduceTwice, fold_of_fitting combine start once]
    refine (fold_of_fitting combine start again).trans ?_
    rw [fold_of_fitting combine start whole, regroups.slots_slots]
  · rw [reduceTwice, fold_of_unfilled combine start fits short filled,
      fold_of_unfilled combine start fits short filled]
    rfl

/-- A reduction that regroups can be made in two steps. Over one set of axes and then over another
it has the outcome that it has over their union, so their order does not matter either; they may
have axes in common. The products of the extents fit machine words.
-/
theorem Kind.reduce_union {kind : Kind} {dtype : DType} (regroups : kind.Regroups dtype)
    : ∃ kernel,
        kind.kernel? dtype = some kernel
        ∧ ∀ (argument room out : List dtype.Element) (shape : Shape) (first second : AxisSet)
            (keepFirst keepDims : Bool),
            shape.Fits
            → argument.length < twoPow 64
            → (∀ axis ∈ first, axis < shape.rank)
            → (∀ axis ∈ second, axis < shape.rank)
            → room.length = (shape.reduce first keepFirst).numel
            → out.length = (shape.reduce (first ∪ second) keepDims).numel
            → reduceTwice kernel argument room out shape first second keepFirst keepDims
                = kernel argument out shape (first ∪ second) keepDims
              ∧ (argument.length = shape.numel
                → ∃ reduced,
                    kernel argument out shape (first ∪ second) keepDims = .ok reduced
                    ∧ reduced.length = out.length)
              ∧ ∀ (other : List dtype.Element) (keepSecond : Bool),
                  other.length = (shape.reduce second keepSecond).numel
                  → reduceTwice kernel argument other out shape second first keepSecond keepDims
                    = reduceTwice kernel argument room out shape first second keepFirst
                        keepDims := by
  obtain ⟨combine, start, known, regroups⟩ := exists_fold regroups
  refine ⟨_, known, ?_⟩
  intro argument room out shape first second keepFirst keepDims fits short firstBelow secondBelow
    roomFits outFits
  have twice := regroups.fold_fold argument fits short firstBelow secondBelow roomFits outFits
  refine ⟨twice, ?_, ?_⟩
  · intro filled
    have unionBelow := AxisSet.forall_mem_union.mpr ⟨firstBelow, secondBelow⟩
    refine ⟨_, fold_of_fitting combine start
      ⟨filled, outFits, checkAxes_iff_below.mpr unionBelow⟩, ?_⟩
    rw [length_slots, outFits, Shape.numel_reduce _ _ keepDims]
  · intro other keepSecond otherFits
    rw [AxisSet.union_comm] at outFits
    rw [twice, regroups.fold_fold argument fits short secondBelow firstBelow otherFits outFits,
      AxisSet.union_comm]

/-- The sum over the rows of a square and then over both axes is the sum over both. -/
theorem sum_of_square_twice
    : Kind.sum.Regroups .i32
      ∧ reduceTwice sum [(1 : Int32), 2, 3, 4] [0, 0] [0] ⟨[2, 2]⟩ (.ofList [0]) (.ofList [0, 1])
          false true
        = .ok [10]
      ∧ reduceTwice sum [(1 : Int32), 2, 3, 4] [0] [0] ⟨[2, 2]⟩ (.ofList [0, 1]) (.ofList [0])
          true true
        = .ok [10] := by
  have regroups : Kind.sum.Regroups .i32 := .inl ⟨rfl, List.mem_cons_self⟩
  obtain ⟨kernel, known, composed⟩ := Kind.reduce_union regroups
  cases known
  obtain ⟨twice, -, swapped⟩ := composed [1, 2, 3, 4] [0, 0] [0] ⟨[2, 2]⟩ (.ofList [0])
    (.ofList [0, 1]) false true (by decide) (by decide) (by decide) (by decide) rfl rfl
  have once
      : sum [(1 : Int32), 2, 3, 4] [0] ⟨[2, 2]⟩ (.ofList [0] ∪ .ofList [0, 1]) true = .ok [10] :=
    rfl
  have summed := twice.trans once
  exact ⟨regroups, summed, (swapped [0] true rfl).trans summed⟩

/-- Four numbers pass for as many as extents ask for whose product loses bits. Over two axes at once
they are summed, but over the first one alone the third number has no slot.
-/
theorem exists_reduceTwice_fault
    : Kind.sum.Regroups .i32
      ∧ Kind.sum.kernel? .i32 = some sum
      ∧ Shape.count ⟨[2, twoPow 63 + 1, 2]⟩ = 4
      ∧ (Shape.reduce ⟨[2, twoPow 63 + 1, 2]⟩ (.ofList [0]) true).count = 2
      ∧ reduceTwice sum [(1 : Int32), 2, 3, 4] [0, 0] [0, 0] ⟨[2, twoPow 63 + 1, 2]⟩ (.ofList [0])
          (.ofList [1]) true true
        = .error (.fault .indexOutOfRange)
      ∧ sum [(1 : Int32), 2, 3, 4] [0, 0] ⟨[2, twoPow 63 + 1, 2]⟩ (.ofList [0] ∪ .ofList [1]) true
        = .ok [4, 6] :=
  ⟨.inl ⟨rfl, List.mem_cons_self⟩, rfl, by decide, by decide, rfl, rfl⟩

end TensorGraph.Reduction
