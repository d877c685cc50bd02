import Mathlib.Algebra.GroupWithZero.Nat
import Mathlib.Data.Set.Function
import TensorGraph.Proofs.Coordinates

/-! Strides of row-major shapes.

An element stands where its coordinates, each taken times the stride of its axis, add up to. That
numbers the coordinates without gaps. A reduced axis that is kept has the one coordinate 0, so
leaving it out moves no element.
-/

namespace TensorGraph.Shape

variable {shape : Shape} {axes : AxisSet}

-----------------------------------------------------------------------------------------
-- Offsets
-----------------------------------------------------------------------------------------

/-- The coordinates of the elements of a shape: one for each axis, below its extent. -/
def grid (shape : Shape) : Set (List Nat) :=
  {coordinates | Inside shape.dims coordinates}

/-- Where the element with the given coordinates stands, counted by the strides. -/
def offset (shape : Shape) (coordinates : List Nat) : Nat :=
  (List.zipWith (· * ·) coordinates shape.strides).sum

/-- The strides count what stands before an element in row-major order, by induction on the
extents.
-/
theorem offset_eq_placeOf (shape : Shape) (coordinates : List Nat)
    : shape.offset coordinates = placeOf shape.dims coordinates := by
  obtain ⟨dims⟩ := shape
  change (List.zipWith (· * ·) coordinates (stridesOf dims)).sum = placeOf dims coordinates
  induction dims generalizing coordinates with
  | nil =>
      rw [stridesOf, List.zipWith_nil_right, List.sum_nil]
      rfl
  | cons extent rest ih =>
      cases coordinates with
      | nil => rfl
      | cons coordinate others =>
          rw [stridesOf, List.zipWith_cons_cons, List.sum_cons, ih, placeOf, Nat.mul_comm]

/-- The coordinates of a shape and the places up to its number of elements determine each other. -/
theorem offset_bijOn (shape : Shape)
    : Set.BijOn shape.offset shape.grid (Set.Iio shape.numel) := by
  have inverse : Set.InvOn shape.coordinates shape.offset shape.grid (Set.Iio shape.numel) := by
    constructor
    · intro coordinates inside
      rw [offset_eq_placeOf]
      exact coordinatesOf_placeOf inside
    · intro place below
      rw [offset_eq_placeOf]
      exact placeOf_coordinatesOf below
  refine inverse.bijOn ?_ ?_
  · intro coordinates inside
    rw [offset_eq_placeOf]
    exact placeOf_lt inside
  · exact fun place below => coordinatesOf_inside below

-----------------------------------------------------------------------------------------
-- Reduced axes
-----------------------------------------------------------------------------------------

theorem keptCoordinates_mapsTo (shape : Shape) (axes : AxisSet)
    : Set.MapsTo (keptCoordinates axes) (shape.reduce axes true).grid
        (shape.reduce axes false).grid :=
  fun _ inside => (inside_dropped inside).1

theorem offset_keptCoordinates (shape : Shape) (axes : AxisSet)
    : Set.EqOn (shape.reduce axes true).offset
        ((shape.reduce axes false).offset ∘ keptCoordinates axes)
        (shape.reduce axes true).grid := by
  intro coordinates inside
  rw [Function.comp_apply, offset_eq_placeOf, offset_eq_placeOf]
  exact (inside_dropped inside).2

/-- Leaving out the coordinates on the reduced axes loses nothing: their offsets are those of the
elements that are left.
-/
theorem keptCoordinates_bijOn (shape : Shape) (axes : AxisSet)
    : Set.BijOn (keptCoordinates axes) (shape.reduce axes true).grid
        (shape.reduce axes false).grid := by
  have whole
      : Set.BijOn ((shape.reduce axes false).offset ∘ keptCoordinates axes)
          (shape.reduce axes true).grid (Set.Iio (shape.reduce axes false).numel) := by
    rw [← shape.numel_reduce axes true]
    exact (shape.reduce axes true).offset_bijOn.congr (offset_keptCoordinates shape axes)
  refine ⟨keptCoordinates_mapsTo shape axes, whole.injOn.of_comp, ?_⟩
  intro kept inside
  obtain ⟨coordinates, member, same⟩ := whole.surjOn ((offset_bijOn _).mapsTo inside)
  exact ⟨coordinates, member,
    (offset_bijOn _).injOn (keptCoordinates_mapsTo shape axes member) inside same⟩

/-- The laws of reduced shapes. The number of elements is the same with and without the reduced
axes, and times the number of elements folded into each it is that of the whole shape. Reducing over
one set of axes and then over another reduces over their union. The strides number the coordinates
of a shape, and leaving out the coordinates on the reduced axes leaves the number as it is. If the
products of the extents fit machine words, the numbers of elements and the strides are computed as
they are.
-/
theorem reduction_laws (shape : Shape) (axes others : AxisSet)
    : (shape.reduce axes true).numel = (shape.reduce axes false).numel
      ∧ shape.numel = (shape.reduce axes false).numel * shape.reducedCount axes
      ∧ (shape.reduce axes true).reduce others true = shape.reduce (axes ∪ others) true
      ∧ Set.BijOn shape.offset shape.grid (Set.Iio shape.numel)
      ∧ Set.BijOn (keptCoordinates axes) (shape.reduce axes true).grid
          (shape.reduce axes false).grid
      ∧ Set.EqOn (shape.reduce axes true).offset
          ((shape.reduce axes false).offset ∘ keptCoordinates axes)
          (shape.reduce axes true).grid
      ∧ (shape.Fits
        → shape.Exact
          ∧ (∀ keepDims, (shape.reduce axes keepDims).Exact)
          ∧ word (shape.reducedCount axes) = shape.reducedCount axes) :=
  ⟨shape.numel_reduce axes true, shape.numel_eq_reduce_mul axes false,
    shape.reduce_reduce axes others, shape.offset_bijOn, shape.keptCoordinates_bijOn axes,
    shape.offset_keptCoordinates axes,
    fun fits => ⟨fits.exact, fun keepDims => (fits.reduce axes keepDims).exact,
      word_of_lt (fits.reducedCount_lt axes)⟩⟩

example : Shape.offset ⟨[2, 1, 4]⟩ [1, 0, 3] = 7 ∧ Shape.offset ⟨[2, 4]⟩ [1, 3] = 7 := by decide

end TensorGraph.Shape
