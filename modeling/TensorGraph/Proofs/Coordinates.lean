import Mathlib.Data.List.Forall2
import Mathlib.Data.Nat.Count
import TensorGraph.Proofs.Shape

/-! Coordinates of the elements of a tensor.

The elements stand in row-major order, so a place in that order and the coordinates determine each
other. A reduction drops the coordinates on its axes; over every choice of the others lie equally
many elements.
-/

namespace TensorGraph

namespace Shape

-----------------------------------------------------------------------------------------
-- Places and coordinates
-----------------------------------------------------------------------------------------

/-- The coordinates of the element at a place of the row-major order, outermost axis first. -/
def coordinatesOf : (dims : List Nat) → (place : Nat) → List Nat
  | [], _ => []
  | _ :: rest, place => place / product rest :: coordinatesOf rest (place % product rest)

def coordinates (shape : Shape) (place : Nat) : List Nat :=
  coordinatesOf shape.dims place

/-- The place in row-major order of the element with the given coordinates. -/
def placeOf : (dims coordinates : List Nat) → Nat
  | _ :: rest, coordinate :: others => product rest * coordinate + placeOf rest others
  | _, _ => 0

/-- Each coordinate is below the extent of its axis. -/
def Inside (dims coordinates : List Nat) : Prop :=
  List.Forall₂ (fun coordinate extent => coordinate < extent) coordinates dims

theorem placeOf_lt {dims coordinates : List Nat} (inside : Inside dims coordinates)
    : placeOf dims coordinates < product dims := by
  induction inside with
  | nil => exact Nat.one_pos
  | @cons coordinate extent others rest here _ ih =>
      calc product rest * coordinate + placeOf rest others
        _ < product rest * coordinate + product rest := Nat.add_lt_add_left ih _
        _ = (coordinate + 1) * product rest := by rw [Nat.succ_mul, Nat.mul_comm]
        _ ≤ extent * product rest := Nat.mul_le_mul_right _ here

theorem coordinatesOf_placeOf {dims coordinates : List Nat} (inside : Inside dims coordinates)
    : coordinatesOf dims (placeOf dims coordinates) = coordinates := by
  induction inside with
  | nil => rfl
  | @cons coordinate extent others rest _ later ih =>
      have below : placeOf rest others < product rest := placeOf_lt later
      have positive := Nat.zero_lt_of_lt below
      rw [placeOf, coordinatesOf, Nat.mul_add_div positive, Nat.div_eq_of_lt below,
        Nat.mul_add_mod, Nat.mod_eq_of_lt below, ih, Nat.add_zero]

theorem placeOf_coordinatesOf {dims : List Nat} {place : Nat} (below : place < product dims)
    : placeOf dims (coordinatesOf dims place) = place := by
  induction dims generalizing place with
  | nil => exact (Nat.lt_one_iff.mp below).symm
  | cons extent rest ih =>
      have positive : 0 < product rest := by
        rw [product_cons] at below
        exact Nat.pos_of_mul_pos_left (Nat.zero_lt_of_lt below)
      rw [coordinatesOf, placeOf, ih (Nat.mod_lt place positive), Nat.div_add_mod]

theorem coordinatesOf_inside {dims : List Nat} {place : Nat} (below : place < product dims)
    : Inside dims (coordinatesOf dims place) := by
  induction dims generalizing place with
  | nil => exact .nil
  | cons extent rest ih =>
      rw [product_cons] at below
      have positive : 0 < product rest := Nat.pos_of_mul_pos_left (Nat.zero_lt_of_lt below)
      exact .cons ((Nat.div_lt_iff_lt_mul positive).mpr below) (ih (Nat.mod_lt place positive))

-----------------------------------------------------------------------------------------
-- Dropping the coordinates on some axes
-----------------------------------------------------------------------------------------

/-- The coordinates on the axes that a reduction leaves. -/
def keptCoordinates (axes : AxisSet) (coordinates : List Nat) : List Nat :=
  reduceFrom axes false 0 coordinates

/-- Coordinates of the shape in which the reduced axes are kept lie, without these axes, inside the
shape in which they are dropped, and at the same place. By induction on the extents.
-/
theorem inside_dropped {axes : AxisSet} {first : Nat} {dims coordinates : List Nat}
    (inside : Inside (reduceFrom axes true first dims) coordinates)
    : Inside (reduceFrom axes false first dims) (reduceFrom axes false first coordinates)
      ∧ placeOf (reduceFrom axes true first dims) coordinates
        = placeOf (reduceFrom axes false first dims)
            (reduceFrom axes false first coordinates) := by
  induction dims generalizing first coordinates with
  | nil =>
      cases inside
      exact ⟨.nil, rfl⟩
  | cons extent rest ih =>
      by_cases reduced : first ∈ axes
      · rw [reduceFrom_true_cons_of_mem reduced] at inside ⊢
        obtain ⟨coordinate, others, single, later, rfl⟩ := List.forall₂_cons_right_iff.mp inside
        obtain ⟨stays, same⟩ := ih later
        have zero : coordinate = 0 := Nat.lt_one_iff.mp single
        rw [reduceFrom_false_cons_of_mem reduced, reduceFrom_false_cons_of_mem reduced, placeOf,
          zero, Nat.mul_zero, Nat.zero_add]
        exact ⟨stays, same⟩
      · rw [reduceFrom_cons_of_notMem reduced] at inside ⊢
        obtain ⟨coordinate, others, here, later, rfl⟩ := List.forall₂_cons_right_iff.mp inside
        obtain ⟨stays, same⟩ := ih later
        rw [reduceFrom_cons_of_notMem reduced, reduceFrom_cons_of_notMem reduced, placeOf, placeOf,
          same, product_reduceFrom]
        exact ⟨.cons here stays, rfl⟩

-----------------------------------------------------------------------------------------
-- Clearing the coordinates on some axes
-----------------------------------------------------------------------------------------

/-- The coordinates, whose axes count from `first`, with 0 on the given axes. They are what a
reduction leaves that keeps these axes with extent 1.
-/
def clearedFrom (axes : AxisSet) (first : Nat) (coordinates : List Nat) : List Nat :=
  (coordinates.zipIdx first).map fun (coordinate, axis) =>
    if axis ∈ axes then 0 else coordinate

@[simp]
theorem clearedFrom_cons (axes : AxisSet) (first coordinate : Nat) (others : List Nat)
    : clearedFrom axes first (coordinate :: others)
      = (if first ∈ axes then 0 else coordinate) :: clearedFrom axes (first + 1) others :=
  rfl

/-- Clearing twice clears the union of the axes, by induction on the coordinates. -/
theorem clearedFrom_clearedFrom (axes others : AxisSet) (first : Nat) (coordinates : List Nat)
    : clearedFrom others first (clearedFrom axes first coordinates)
      = clearedFrom (axes ∪ others) first coordinates := by
  induction coordinates generalizing first with
  | nil => rfl
  | cons coordinate rest ih =>
      rw [clearedFrom_cons, clearedFrom_cons, clearedFrom_cons, ih]
      by_cases reduced : first ∈ axes <;> simp [reduced]

theorem Inside.clearedFrom {axes : AxisSet} {first : Nat} {dims coordinates : List Nat}
    (inside : Inside dims coordinates)
    : Inside (Shape.reduceFrom axes true first dims)
        (Shape.clearedFrom axes first coordinates) := by
  induction inside generalizing first with
  | nil => exact .nil
  | cons here _ ih =>
      rw [clearedFrom_cons]
      by_cases reduced : first ∈ axes
      · rw [reduceFrom_true_cons_of_mem reduced, if_pos reduced]
        exact .cons Nat.one_pos ih
      · rw [reduceFrom_cons_of_notMem reduced, if_neg reduced]
        exact .cons here ih

/-- Clearing coordinates does not change the others, by induction on the coordinates. -/
theorem reduceFrom_clearedFrom (axes : AxisSet) (first : Nat) (coordinates : List Nat)
    : reduceFrom axes false first (clearedFrom axes first coordinates)
      = reduceFrom axes false first coordinates := by
  induction coordinates generalizing first with
  | nil => rfl
  | cons coordinate rest ih =>
      rw [clearedFrom_cons]
      by_cases reduced : first ∈ axes
      · rw [reduceFrom_false_cons_of_mem reduced, reduceFrom_false_cons_of_mem reduced, ih]
      · rw [reduceFrom_cons_of_notMem reduced, reduceFrom_cons_of_notMem reduced,
          if_neg reduced, ih]

/-- The coordinates that are left lie inside the extents that are left. -/
theorem Inside.reduceFrom {axes : AxisSet} {first : Nat} {dims coordinates : List Nat}
    (inside : Inside dims coordinates)
    : Inside (reduceFrom axes false first dims) (reduceFrom axes false first coordinates) := by
  have dropped
      : Inside (Shape.reduceFrom axes false first dims)
          (Shape.reduceFrom axes false first (Shape.clearedFrom axes first coordinates)) :=
    (inside_dropped inside.clearedFrom).1
  rwa [reduceFrom_clearedFrom] at dropped

/-- Whether the reduced axes are kept or dropped, an element has the same place. -/
theorem placeOf_clearedFrom {axes : AxisSet} {first : Nat} {dims coordinates : List Nat}
    (inside : Inside dims coordinates)
    : placeOf (reduceFrom axes true first dims) (clearedFrom axes first coordinates)
      = placeOf (reduceFrom axes false first dims)
          (reduceFrom axes false first coordinates) := by
  rw [(inside_dropped inside.clearedFrom).2, reduceFrom_clearedFrom]

-----------------------------------------------------------------------------------------
-- Counting places
-----------------------------------------------------------------------------------------

/-- Of a table with `width` places in a row, the rows and the places in a row that fit are counted
apart. By induction on the rows.
-/
theorem count_mul {width : Nat} {fits : Nat → Prop} [DecidablePred fits] (row column : Nat → Prop)
    [DecidablePred row] [DecidablePred column]
    (split : ∀ r c, c < width → (fits (r * width + c) ↔ row r ∧ column c)) (rows : Nat)
    : Nat.count fits (rows * width) = Nat.count row rows * Nat.count column width := by
  induction rows with
  | zero => simp
  | succ rows ih =>
      have last
          : Nat.count (fun c => fits (rows * width + c)) width
            = if row rows then Nat.count column width else 0 := by
        split
        next fitting =>
          refine Nat.le_antisymm (Nat.count_mono_left ?_) (Nat.count_mono_left ?_)
          · exact fun c below fit => ((split rows c below).mp fit).2
          · exact fun c below fit => (split rows c below).mpr ⟨fitting, fit⟩
        next unfitting =>
          rw [Nat.count_iff_forall_not]
          exact fun c below fit => unfitting ((split rows c below).mp fit).1
      rw [Nat.succ_mul, Nat.count_add, ih, last, Nat.count_succ, Nat.add_mul]
      split <;> simp

/-- Over every choice of the coordinates that are left lie equally many elements. By induction on
the extents: a reduced axis multiplies their number by its extent, a kept one leaves it.
-/
theorem exists_count_places (axes : AxisSet) (first : Nat) (dims : List Nat)
    : ∃ share,
        product dims = product (reduceFrom axes false first dims) * share
        ∧ ∀ kept,
            Inside (reduceFrom axes false first dims) kept
            → Nat.count (fun place => reduceFrom axes false first (coordinatesOf dims place) = kept)
                (product dims)
              = share := by
  induction dims generalizing first with
  | nil =>
      refine ⟨1, rfl, ?_⟩
      intro kept inside
      cases inside
      simp [coordinatesOf]
  | cons extent rest ih =>
      obtain ⟨share, total, counted⟩ := ih (first + 1)
      have row (r c : Nat) (below : c < product rest)
          : coordinatesOf (extent :: rest) (r * product rest + c)
            = r :: coordinatesOf rest c := by
        have positive := Nat.zero_lt_of_lt below
        rw [coordinatesOf, Nat.mul_comm, Nat.mul_add_div positive, Nat.div_eq_of_lt below,
          Nat.mul_add_mod, Nat.mod_eq_of_lt below, Nat.add_zero]
      by_cases reduced : first ∈ axes
      · refine ⟨extent * share, ?_, ?_⟩
        · rw [reduceFrom_false_cons_of_mem reduced, product_cons, total, Nat.mul_left_comm]
        · intro kept inside
          rw [reduceFrom_false_cons_of_mem reduced] at inside
          rw [product_cons, count_mul (fun _ => True)
            (fun c => reduceFrom axes false (first + 1) (coordinatesOf rest c) = kept),
            Nat.count_true, counted kept inside]
          intro r c below
          rw [row r c below, reduceFrom_false_cons_of_mem reduced, true_and]
      · refine ⟨share, ?_, ?_⟩
        · rw [reduceFrom_cons_of_notMem reduced, product_cons, product_cons, total, Nat.mul_assoc]
        · intro kept inside
          rw [reduceFrom_cons_of_notMem reduced] at inside
          obtain ⟨coordinate, others, here, later, rfl⟩ := List.forall₂_cons_right_iff.mp inside
          have one : Nat.count (fun r => r = coordinate) extent = 1 := by
            rw [Nat.count_eq_card_filter_range]
            refine Finset.card_eq_one.mpr ⟨coordinate, ?_⟩
            ext r
            rw [Finset.mem_filter, Finset.mem_range, Finset.mem_singleton]
            exact ⟨fun both => both.2, fun same => ⟨same ▸ here, same⟩⟩
          rw [product_cons, count_mul (fun r => r = coordinate)
            (fun c => reduceFrom axes false (first + 1) (coordinatesOf rest c) = others),
            one, counted others later, Nat.one_mul]
          intro r c below
          rw [row r c below, reduceFrom_cons_of_notMem reduced, List.cons.injEq]

/-- Over every choice of the coordinates that a reduction leaves lie as many elements as it folds
into each result.
-/
theorem count_places (shape : Shape) (axes : AxisSet) {kept : List Nat}
    (inside : Inside (shape.reduce axes false).dims kept)
    : Nat.count (fun place => keptCoordinates axes (shape.coordinates place) = kept) shape.numel
      = shape.reducedCount axes := by
  obtain ⟨share, total, counted⟩ := exists_count_places axes 0 shape.dims
  have positive : 0 < (shape.reduce axes false).numel := Nat.zero_lt_of_lt (placeOf_lt inside)
  have same := (shape.numel_eq_reduce_mul axes false).symm.trans total
  rw [Nat.eq_of_mul_eq_mul_left positive same]
  exact counted kept inside

end Shape

end TensorGraph
