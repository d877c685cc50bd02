import Mathlib.Data.List.Basic
import Mathlib.Data.List.Forall2
import TensorGraph.Proofs.AxisSet
import TensorGraph.Shape

/-! Extents and element counts of reduced shapes, and the shapes whose elements a machine word
counts.
-/

namespace TensorGraph.Shape

variable (axes : AxisSet) (keepDims : Bool)

/-- The extents that a reduction leaves of `dims`, whose axes count from `first`. -/
def reduceFrom (first : Nat) (dims : List Nat) : List Nat :=
  (dims.zipIdx first).filterMap fun (extent, axis) =>
    if axis ∈ axes then
      if keepDims then some 1 else none
    else some extent

@[simp]
theorem reduceFrom_nil (first : Nat) : reduceFrom axes keepDims first [] = [] := rfl

variable {axes keepDims}

theorem reduceFrom_cons_of_notMem {first : Nat} (kept : first ∉ axes) (extent : Nat)
    (rest : List Nat)
    : reduceFrom axes keepDims first (extent :: rest)
      = extent :: reduceFrom axes keepDims (first + 1) rest := by
  simp [reduceFrom, List.zipIdx_cons, kept]

theorem reduceFrom_true_cons_of_mem {first : Nat} (reduced : first ∈ axes) (extent : Nat)
    (rest : List Nat)
    : reduceFrom axes true first (extent :: rest) = 1 :: reduceFrom axes true (first + 1) rest := by
  simp [reduceFrom, List.zipIdx_cons, reduced]

theorem reduceFrom_false_cons_of_mem {first : Nat} (reduced : first ∈ axes) (extent : Nat)
    (rest : List Nat)
    : reduceFrom axes false first (extent :: rest) = reduceFrom axes false (first + 1) rest := by
  simp [reduceFrom, List.zipIdx_cons, reduced]

/-- Dropping the reduced axes leaves as many elements as keeping them with extent 1, by induction on
the extents.
-/
theorem product_reduceFrom (first : Nat) (dims : List Nat)
    : product (reduceFrom axes true first dims) = product (reduceFrom axes false first dims) := by
  induction dims generalizing first with
  | nil => rfl
  | cons extent rest ih =>
      by_cases reduced : first ∈ axes
      · rw [reduceFrom_true_cons_of_mem reduced, reduceFrom_false_cons_of_mem reduced,
          product_cons, Nat.one_mul, ih]
      · rw [reduceFrom_cons_of_notMem reduced, reduceFrom_cons_of_notMem reduced, product_cons,
          product_cons, ih]

/-- Reducing over one set of axes and then over another leaves the extents that reducing over their
union leaves, by induction on the extents.
-/
theorem reduceFrom_reduceFrom (axes others : AxisSet) (first : Nat) (dims : List Nat)
    : reduceFrom others true first (reduceFrom axes true first dims)
      = reduceFrom (axes ∪ others) true first dims := by
  induction dims generalizing first with
  | nil => rfl
  | cons extent rest ih =>
      by_cases reduced : first ∈ axes
      · rw [reduceFrom_true_cons_of_mem reduced,
          reduceFrom_true_cons_of_mem (AxisSet.mem_union.mpr (.inl reduced)), ← ih]
        by_cases again : first ∈ others
        · exact reduceFrom_true_cons_of_mem again _ _
        · exact reduceFrom_cons_of_notMem again _ _
      · rw [reduceFrom_cons_of_notMem reduced]
        by_cases later : first ∈ others
        · rw [reduceFrom_true_cons_of_mem later,
            reduceFrom_true_cons_of_mem (AxisSet.mem_union.mpr (.inr later)), ih]
        · have kept : first ∉ axes ∪ others := by simp [reduced, later]
          rw [reduceFrom_cons_of_notMem later, reduceFrom_cons_of_notMem kept, ih]

theorem reduce_reduce (shape : Shape) (axes others : AxisSet)
    : (shape.reduce axes true).reduce others true = shape.reduce (axes ∪ others) true :=
  congrArg Shape.mk (reduceFrom_reduceFrom axes others 0 shape.dims)

theorem dims_reduce_true (shape : Shape) (axes : AxisSet)
    : (shape.reduce axes true).dims
      = shape.dims.zipIdx.map fun (extent, axis) => if axis ∈ axes then 1 else extent := by
  rw [reduce, ← List.filterMap_eq_map]
  apply List.filterMap_congr
  rintro ⟨extent, axis⟩ _
  by_cases reduced : axis ∈ axes <;> simp [reduced]

theorem rank_reduce (shape : Shape) (axes : AxisSet)
    : (shape.reduce axes true).rank = shape.rank := by
  rw [rank, dims_reduce_true, List.length_map, List.length_zipIdx, rank]

/-- Where the reduced axes are kept, they have extent 1 and the others their own. -/
theorem dim?_reduce_true (shape : Shape) (axes : AxisSet) (axis : Nat)
    : (shape.reduce axes true).dim? axis
      = (shape.dim? axis).map fun extent => if axis ∈ axes then 1 else extent := by
  rw [dim?, dims_reduce_true, List.getElem?_map, List.getElem?_zipIdx, Option.map_map, dim?,
    Nat.zero_add]
  rfl

/-- Where the reduced axes are dropped, the extents of the others are left in their order. -/
theorem dims_reduce_false (shape : Shape) (axes : AxisSet)
    : (shape.reduce axes false).dims
      = (shape.dims.zipIdx.filter fun (_, axis) => axis ∉ axes).map Prod.fst := by
  rw [reduce, ← List.filterMap_eq_map, ← List.filterMap_eq_filter, List.filterMap_filterMap]
  apply List.filterMap_congr
  rintro ⟨extent, axis⟩ _
  by_cases reduced : axis ∈ axes <;> simp [reduced, Option.guard]

/-- As many axes are dropped as the set has. -/
theorem rank_reduce_false {shape : Shape} {axes : AxisSet}
    (below : ∀ axis ∈ axes, axis < shape.rank)
    : (shape.reduce axes false).rank = shape.rank - axes.size := by
  have dropped : ((List.range shape.rank).filter (· ∈ axes)).Perm axes.toList := by
    refine (List.perm_ext_iff_of_nodup (List.nodup_range.filter _)
      (axes.ascending.imp Nat.ne_of_lt)).mpr fun axis => ?_
    rw [List.mem_filter, List.mem_range, decide_eq_true_iff, AxisSet.mem_toList]
    exact ⟨fun both => both.2, fun member => ⟨below axis member, member⟩⟩
  have left
      : (shape.reduce axes false).rank
        = (List.range shape.rank).countP fun axis => axis ∉ axes := by
    rw [rank, dims_reduce_false, List.length_map, ← List.countP_eq_length_filter, rank,
      List.range_eq_range', ← List.zipIdx_map_snd, List.countP_map]
    rfl
  have size : (List.range shape.rank).countP (· ∈ axes) = axes.size := by
    rw [List.countP_eq_length_filter, dropped.length_eq, AxisSet.size]
  have split
      : (List.range shape.rank).length
        = (List.range shape.rank).countP (· ∈ axes)
          + (List.range shape.rank).countP fun axis => axis ∉ axes := by
    rw [List.length_eq_countP_add_countP (· ∈ axes)]
    simp only [decide_eq_true_eq]
  rw [List.length_range, size, ← left] at split
  omega

theorem numel_reduce (shape : Shape) (axes : AxisSet) (keepDims : Bool)
    : (shape.reduce axes keepDims).numel = (shape.reduce axes false).numel := by
  cases keepDims with
  | false => rfl
  | true => exact product_reduceFrom 0 shape.dims

/-- The elements are the elements left times the elements of the reduced axes, here listed from
`first` in ascending order, by induction on the extents.
-/
theorem product_eq_reduceFrom_mul {first : Nat} {listed : List Nat}
    (ascending : listed.Pairwise (· < ·)) (beyond : ∀ axis ∈ listed, first ≤ axis)
    (same : ∀ axis, first ≤ axis → (axis ∈ axes ↔ axis ∈ listed)) (dims : List Nat)
    : product dims
      = product (reduceFrom axes false first dims)
        * product (listed.filterMap fun axis => dims[axis - first]?) := by
  induction dims generalizing first listed with
  | nil => simp
  | cons extent rest ih =>
      have later {others : List Nat} (above : ∀ axis ∈ others, first + 1 ≤ axis)
          : others.filterMap (fun axis => (extent :: rest)[axis - first]?)
            = others.filterMap fun axis => rest[axis - (first + 1)]? := by
        apply List.filterMap_congr
        intro axis member
        have step : axis - first = axis - (first + 1) + 1 := by
          have := above axis member
          omega
        rw [step, List.getElem?_cons_succ]
      by_cases reduced : first ∈ axes
      · obtain ⟨others, rfl⟩ : ∃ others, listed = first :: others := by
          cases listed with
          | nil => exact absurd ((same first (Nat.le_refl _)).mp reduced) List.not_mem_nil
          | cons head others =>
              have least := beyond head List.mem_cons_self
              rcases List.mem_cons.mp ((same first (Nat.le_refl _)).mp reduced) with rfl | inOthers
              · exact ⟨others, rfl⟩
              · have greater := (List.pairwise_cons.mp ascending).1 first inOthers
                omega
        obtain ⟨above, othersAscending⟩ := List.pairwise_cons.mp ascending
        have step := ih othersAscending above (fun axis beyondFirst => by
          rw [same axis (by omega), List.mem_cons, or_iff_right (by omega)])
        rw [reduceFrom_false_cons_of_mem reduced, product_cons, step,
          List.filterMap_cons_some (by rw [Nat.sub_self]; rfl), product_cons, later above]
        exact Nat.mul_left_comm _ _ _
      · have above (axis : Nat) (member : axis ∈ listed) : first + 1 ≤ axis := by
          have least := beyond axis member
          have different : axis ≠ first := by
            rintro rfl
            exact reduced ((same _ least).mpr member)
          omega
        have step := ih ascending above fun axis beyondFirst => same axis (by omega)
        rw [reduceFrom_cons_of_notMem reduced, product_cons, product_cons, step, later above,
          Nat.mul_assoc]

theorem numel_eq_reduce_mul (shape : Shape) (axes : AxisSet) (keepDims : Bool)
    : shape.numel = (shape.reduce axes keepDims).numel * shape.reducedCount axes := by
  rw [numel_reduce]
  exact product_eq_reduceFrom_mul axes.ascending (fun _ _ => Nat.zero_le _)
    (fun _ _ => Iff.rfl) shape.dims

-----------------------------------------------------------------------------------------
-- Products that fit machine words
-----------------------------------------------------------------------------------------

/-- Every product of some of the extents fits a machine word. -/
def Fits (shape : Shape) : Prop :=
  ∀ extents, extents.Sublist shape.dims → product extents < twoPow 64

/-- The largest product of some of the extents, which leaves out those that are 0. -/
def span (dims : List Nat) : Nat :=
  product (dims.map (max 1))

theorem product_mono {smaller larger : List Nat} (each : List.Forall₂ (· ≤ ·) smaller larger)
    : product smaller ≤ product larger := by
  induction each with
  | nil => exact Nat.le_refl _
  | cons head _ ih => exact Nat.mul_le_mul head ih

theorem span_mono {smaller larger : List Nat} (each : List.Forall₂ (· ≤ ·) smaller larger)
    : span smaller ≤ span larger := by
  refine product_mono (List.forall₂_map_left_iff.mpr (List.forall₂_map_right_iff.mpr ?_))
  exact each.imp fun _ _ small => by omega

theorem product_le_span (dims : List Nat) : product dims ≤ span dims :=
  product_mono
    (List.forall₂_map_right_iff.mpr (List.forall₂_same.mpr fun _ _ => Nat.le_max_right _ _))

theorem span_pos (dims : List Nat) : 0 < span dims := by
  induction dims with
  | nil => exact Nat.one_pos
  | cons extent rest ih => exact Nat.mul_pos (Nat.le_max_left 1 extent) ih

theorem span_le_cons (extent : Nat) (rest : List Nat) : span rest ≤ span (extent :: rest) :=
  Nat.le_mul_of_pos_left _ (Nat.le_max_left 1 extent)

theorem span_le_of_sublist {some all : List Nat} (sublist : some.Sublist all)
    : span some ≤ span all := by
  induction sublist with
  | slnil => exact Nat.le_refl _
  | cons extent _ ih => exact Nat.le_trans ih (span_le_cons extent _)
  | cons_cons extent _ ih => exact Nat.mul_le_mul_left _ ih

theorem span_eq_product {dims : List Nat} (some : product dims ≠ 0) : span dims = product dims := by
  induction dims with
  | nil => rfl
  | cons extent rest ih =>
      obtain ⟨here, later⟩ := Nat.mul_ne_zero_iff.mp some
      rw [span, List.map_cons, product_cons, ← span, ih later,
        Nat.max_eq_right (Nat.pos_of_ne_zero here), product_cons]

theorem product_nonzero (dims : List Nat) : product (dims.filter (· ≠ 0)) = span dims := by
  induction dims with
  | nil => rfl
  | cons extent rest ih =>
      rw [span, List.map_cons, product_cons, ← span, ← ih]
      cases extent with
      | zero => simp
      | succ extent => simp

theorem fits_iff {shape : Shape} : shape.Fits ↔ span shape.dims < twoPow 64 := by
  constructor
  · intro fits
    rw [← product_nonzero]
    exact fits _ List.filter_sublist
  · intro small extents sublist
    exact Nat.lt_of_le_of_lt (product_le_span extents)
      (Nat.lt_of_le_of_lt (span_le_of_sublist sublist) small)

instance (shape : Shape) : Decidable shape.Fits :=
  decidable_of_iff _ fits_iff.symm

theorem span_reduceFrom_le (axes : AxisSet) (keepDims : Bool) (first : Nat) (dims : List Nat)
    : span (reduceFrom axes keepDims first dims) ≤ span dims := by
  induction dims generalizing first with
  | nil => exact Nat.le_refl _
  | cons extent rest ih =>
      have later := Nat.le_trans (ih (first + 1)) (span_le_cons extent rest)
      by_cases reduced : first ∈ axes
      · cases keepDims with
        | true =>
            rw [reduceFrom_true_cons_of_mem reduced]
            exact Nat.le_trans (Nat.le_of_eq (Nat.one_mul _)) later
        | false =>
            rw [reduceFrom_false_cons_of_mem reduced]
            exact later
      · rw [reduceFrom_cons_of_notMem reduced]
        exact Nat.mul_le_mul_left _ (ih (first + 1))

/-- With an extent of at least 1 on every axis, the elements are the elements left times the
elements of the reduced axes.
-/
theorem reducedCount_le_span (shape : Shape) (axes : AxisSet)
    : shape.reducedCount axes ≤ span shape.dims := by
  let full : Shape := ⟨shape.dims.map (max 1)⟩
  have extents
      : axes.toList.filterMap full.dim? = (axes.toList.filterMap shape.dim?).map (max 1) := by
    rw [List.map_filterMap]
    exact List.filterMap_congr fun axis _ => List.getElem?_map
  calc shape.reducedCount axes
    _ ≤ span (axes.toList.filterMap shape.dim?) := product_le_span _
    _ = full.reducedCount axes := by rw [reducedCount, extents, span]
    _ ≤ full.numel :=
        Nat.le_of_dvd (span_pos shape.dims)
          ⟨_, (full.numel_eq_reduce_mul axes false).trans (Nat.mul_comm _ _)⟩

namespace Fits

variable {shape : Shape} (fits : shape.Fits)
include fits

theorem numel_lt : shape.numel < twoPow 64 :=
  fits shape.dims (.refl _)

/-- The number of elements is computed as it is. -/
theorem count_eq : shape.count = shape.numel :=
  word_of_lt fits.numel_lt

theorem mono {smaller : Shape} (each : List.Forall₂ (· ≤ ·) smaller.dims shape.dims)
    : smaller.Fits :=
  fits_iff.mpr (Nat.lt_of_le_of_lt (span_mono each) (fits_iff.mp fits))

/-- What a reduction leaves fits too, because reduced axes are dropped or have extent 1. -/
theorem reduce (axes : AxisSet) (keepDims : Bool) : (shape.reduce axes keepDims).Fits :=
  fits_iff.mpr (Nat.lt_of_le_of_lt (span_reduceFrom_le axes keepDims 0 shape.dims)
    (fits_iff.mp fits))

/-- The number of elements that are folded into each result is computed as it is. -/
theorem reducedCount_lt (axes : AxisSet) : shape.reducedCount axes < twoPow 64 :=
  Nat.lt_of_le_of_lt (reducedCount_le_span shape axes) (fits_iff.mp fits)

/-- The strides are computed as they are, because each is a product of the extents behind an axis.
-/
theorem strides_lt : ∀ stride ∈ shape.strides, stride < twoPow 64 := by
  have behind (dims : List Nat) (stride : Nat) (member : stride ∈ stridesOf dims)
      : ∃ extents : List Nat, extents.Sublist dims ∧ product extents = stride := by
    induction dims with
    | nil => cases member
    | cons extent rest ih =>
        rcases List.mem_cons.mp member with rfl | later
        · exact ⟨rest, List.sublist_cons_self extent rest, rfl⟩
        · obtain ⟨extents, sublist, same⟩ := ih later
          exact ⟨extents, sublist.trans (List.sublist_cons_self extent rest), same⟩
  intro stride member
  obtain ⟨extents, sublist, rfl⟩ := behind shape.dims stride member
  exact fits extents sublist

end Fits

/-- Machine words hold the number of elements and the strides of a shape as they are. -/
structure Exact (shape : Shape) : Prop where
  count : shape.count = shape.numel
  strides : shape.strides.map word = shape.strides

theorem Fits.exact {shape : Shape} (fits : shape.Fits) : shape.Exact where
  count := fits.count_eq
  strides :=
    (List.map_congr_left fun stride member => word_of_lt (fits.strides_lt stride member)).trans
      (List.map_id _)

end TensorGraph.Shape
