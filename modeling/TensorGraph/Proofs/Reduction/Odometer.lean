import TensorGraph.Proofs.Shape
import TensorGraph.Reduction.Odometer

/-! The odometer stays within its axes and its slot within the result.

While every wheel stands before its end, the slot is the sum of what the wheels contribute. A turn
keeps this, so the slot never falls below zero, and it stays below the number of results.
-/

namespace TensorGraph.Reduction

-----------------------------------------------------------------------------------------
-- Turning the odometer
-----------------------------------------------------------------------------------------

/-- Every wheel stands before its end. -/
def InRange (odometer : List Wheel) : Prop :=
  ∀ wheel ∈ odometer, wheel.position < wheel.extent

/-- The slot that the positions of the wheels lead to. -/
def slotOf : List Wheel → Nat
  | [] => 0
  | wheel :: rest => wheel.stride * wheel.position + slotOf rest

/-- How far each wheel goes and how far its steps move the slot. -/
def frame (odometer : List Wheel) : List (Nat × Nat) :=
  odometer.map fun wheel => (wheel.extent, wheel.stride)

@[simp]
theorem slotOf_cons (wheel : Wheel) (rest : List Wheel)
    : slotOf (wheel :: rest) = wheel.stride * wheel.position + slotOf rest :=
  rfl

/-- A turn of an odometer in range leads to an odometer in range and to its slot, whatever the
wheels beyond it contribute. By induction on the wheels.
-/
theorem turn_eq_ok {odometer : List Wheel} (inRange : InRange odometer) (beyond : Nat)
    : ∃ turned,
        turn odometer (slotOf odometer + beyond) = .ok (turned, slotOf turned + beyond)
        ∧ InRange turned
        ∧ frame turned = frame odometer := by
  induction odometer with
  | nil => exact ⟨[], rfl, inRange, rfl⟩
  | cons wheel rest ih =>
      obtain ⟨here, others⟩ := List.forall_mem_cons.mp inRange
      rw [turn, slotOf_cons]
      by_cases more : wheel.position + 1 < wheel.extent
      · refine ⟨⟨wheel.extent, wheel.stride, wheel.position + 1⟩ :: rest, ?_, ?_, rfl⟩
        · rw [if_pos more, slotOf_cons, Nat.mul_succ]
          simp only [Except.ok.injEq, Prod.mk.injEq, true_and]
          omega
        · exact List.forall_mem_cons.mpr ⟨more, others⟩
      · -- The wheel returns to its start and gives back what it contributed to the slot.
        obtain ⟨turned, moved, turnedInRange, same⟩ := ih others
        have enough
            : ¬ wheel.stride * wheel.position + slotOf rest + beyond + wheel.stride
              < wheel.stride * (wheel.position + 1) := by
          rw [Nat.mul_succ]
          omega
        have back
            : wheel.stride * wheel.position + slotOf rest + beyond + wheel.stride
              - wheel.stride * (wheel.position + 1)
              = slotOf rest + beyond := by
          rw [Nat.mul_succ]
          omega
        refine ⟨⟨wheel.extent, wheel.stride, 0⟩ :: turned, ?_, ?_, ?_⟩
        · rw [if_neg more, if_neg enough, back, moved, slotOf_cons]
          simp [Except.map]
        · exact List.forall_mem_cons.mpr ⟨Nat.zero_lt_of_lt here, turnedInRange⟩
        · simpa [frame] using same

/-- A walk that succeeds gives one result for each slot. By induction on the values. -/
theorem length_walk {α : Type} {combine : α → α → α} {odometer : List Wheel} {slot : Nat}
    {slots values folded : List α} (walked : walk combine odometer slot slots values = .ok folded)
    : folded.length = slots.length := by
  induction values generalizing odometer slot slots with
  | nil =>
      rw [walk] at walked
      cases walked
      rfl
  | cons value rest ih =>
      rw [walk] at walked
      split at walked
      · cases walked
      · split at walked
        · cases walked
        · rw [ih walked, List.length_set]

/-- A walk whose odometer leads to slots that exist folds every value, by induction on the values.
-/
theorem walk_eq_ok {α : Type} (combine : α → α → α) {odometer : List Wheel}
    (inRange : InRange odometer) {slots : List α}
    (bounded
      : ∀ other, InRange other → frame other = frame odometer → slotOf other < slots.length)
    (values : List α)
    : ∃ folded,
        walk combine odometer (slotOf odometer) slots values = .ok folded
        ∧ folded.length = slots.length := by
  induction values generalizing odometer slots with
  | nil => exact ⟨slots, by rw [walk], rfl⟩
  | cons value rest ih =>
      have inside := bounded odometer inRange rfl
      have present := List.getElem?_eq_getElem inside
      obtain ⟨turned, moved, turnedInRange, same⟩ := turn_eq_ok inRange 0
      rw [Nat.add_zero, Nat.add_zero] at moved
      rw [walk]
      simp only [present, moved]
      have stillBounded (other : List Wheel) (otherInRange : InRange other)
          (otherSame : frame other = frame turned)
          : slotOf other
            < (slots.set (slotOf odometer) (combine slots[slotOf odometer] value)).length := by
        rw [List.length_set]
        exact bounded other otherInRange (otherSame.trans same)
      obtain ⟨folded, done, length⟩ := ih turnedInRange stillBounded
      exact ⟨folded, done, length.trans List.length_set⟩

-----------------------------------------------------------------------------------------
-- The odometer of a shape
-----------------------------------------------------------------------------------------

/-- The wheels of the extents `dims`, whose axes count from `first`, outermost axis first. -/
def wheelsFrom (axes : AxisSet) (first : Nat) (dims : List Nat) : List Wheel :=
  ((dims.zip (Shape.stridesOf (Shape.reduceFrom axes true first dims))).zipIdx first).map
    fun ((extent, stride), axis) => ⟨extent, if axis ∈ axes then 0 else stride, 0⟩

theorem wheels_eq (shape : Shape) (axes : AxisSet)
    : wheels shape axes = (wheelsFrom axes 0 shape.dims).reverse :=
  rfl

theorem wheelsFrom_cons (axes : AxisSet) (first extent : Nat) (rest : List Nat)
    : wheelsFrom axes first (extent :: rest)
      = ⟨extent,
            if first ∈ axes then 0
            else Shape.product (Shape.reduceFrom axes true (first + 1) rest),
            0⟩
          :: wheelsFrom axes (first + 1) rest := by
  by_cases reduced : first ∈ axes
  · simp [wheelsFrom, Shape.reduceFrom_true_cons_of_mem reduced, Shape.stridesOf,
      List.zipIdx_cons, reduced]
  · simp [wheelsFrom, Shape.reduceFrom_cons_of_notMem reduced, Shape.stridesOf,
      List.zipIdx_cons, reduced]

/-- Wheels in range lead to a slot below the number of results, by induction on the extents. -/
theorem slotOf_lt_of_frame {axes : AxisSet} {first : Nat} {dims : List Nat} {outer : List Wheel}
    (inRange : InRange outer) (same : frame outer = frame (wheelsFrom axes first dims))
    : slotOf outer < Shape.product (Shape.reduceFrom axes true first dims) := by
  induction dims generalizing first outer with
  | nil =>
      have none : outer = [] := List.map_eq_nil_iff.mp same
      simp [none, slotOf]
  | cons extent rest ih =>
      rw [wheelsFrom_cons] at same
      obtain ⟨wheel, others, rfl, here, later⟩ := List.map_eq_cons_iff.mp same
      obtain ⟨position, othersInRange⟩ := List.forall_mem_cons.mp inRange
      obtain ⟨rfl, stride⟩ := Prod.mk.inj here
      have below := ih othersInRange later
      rw [slotOf_cons, stride]
      by_cases reduced : first ∈ axes
      · rw [Shape.reduceFrom_true_cons_of_mem reduced, Shape.product_cons]
        simpa [reduced] using below
      · rw [Shape.reduceFrom_cons_of_notMem reduced, Shape.product_cons]
        simp only [if_neg reduced]
        generalize Shape.product (Shape.reduceFrom axes true (first + 1) rest) = results at below
        calc results * wheel.position + slotOf others
          _ < results * wheel.position + results := Nat.add_lt_add_left below _
          _ = (wheel.position + 1) * results := by rw [Nat.succ_mul, Nat.mul_comm]
          _ ≤ wheel.extent * results := Nat.mul_le_mul_right _ position

/-- At its start an odometer over at least one element is in range. -/
theorem wheelsFrom_inRange {axes : AxisSet} {first : Nat} {dims : List Nat}
    (some : Shape.product dims ≠ 0)
    : InRange (wheelsFrom axes first dims) := by
  induction dims generalizing first with
  | nil => simp [InRange, wheelsFrom]
  | cons extent rest ih =>
      rw [Shape.product_cons, Nat.mul_ne_zero_iff] at some
      rw [wheelsFrom_cons]
      exact List.forall_mem_cons.mpr ⟨Nat.pos_of_ne_zero some.1, ih some.2⟩

theorem slotOf_append (inner outer : List Wheel)
    : slotOf (inner ++ outer) = slotOf inner + slotOf outer := by
  induction inner with
  | nil => exact (Nat.zero_add _).symm
  | cons wheel rest ih => rw [List.cons_append, slotOf_cons, slotOf_cons, ih, Nat.add_assoc]

theorem slotOf_reverse (odometer : List Wheel) : slotOf odometer.reverse = slotOf odometer := by
  induction odometer with
  | nil => rfl
  | cons wheel rest ih =>
      rw [List.reverse_cons, slotOf_append, ih, slotOf_cons]
      exact Nat.add_comm _ _

theorem slotOf_eq_zero {odometer : List Wheel} (start : ∀ wheel ∈ odometer, wheel.position = 0)
    : slotOf odometer = 0 := by
  induction odometer with
  | nil => rfl
  | cons wheel rest ih =>
      obtain ⟨here, others⟩ := List.forall_mem_cons.mp start
      rw [slotOf_cons, here, ih others, Nat.mul_zero]

/-- An odometer at its start stands at the first slot. -/
theorem slotOf_wheels (shape : Shape) (axes : AxisSet) : slotOf (wheels shape axes) = 0 := by
  rw [wheels_eq, slotOf_reverse]
  apply slotOf_eq_zero
  intro wheel member
  obtain ⟨_, -, rfl⟩ := List.mem_map.mp member
  rfl

/-- The walk over the elements of a tensor folds every element into a slot of the result. -/
theorem walk_wheels_eq_ok {α : Type} (combine : α → α → α) {shape : Shape} {axes : AxisSet}
    {keepDims : Bool} {slots values : List α}
    (slotCount : slots.length = (shape.reduce axes keepDims).numel)
    (valueCount : values.length = shape.numel)
    : ∃ folded,
        walk combine (wheels shape axes) 0 slots values = .ok folded
        ∧ folded.length = slots.length := by
  by_cases none : shape.numel = 0
  · have nil : values = [] := List.eq_nil_of_length_eq_zero (valueCount.trans none)
    exact ⟨slots, by rw [nil, walk], rfl⟩
  · have inRange : InRange (wheels shape axes) := by
      intro wheel member
      exact wheelsFrom_inRange none wheel (List.mem_reverse.mp member)
    have bounded (other : List Wheel) (otherInRange : InRange other)
        (same : frame other = frame (wheels shape axes))
        : slotOf other < slots.length := by
      have outerInRange : InRange other.reverse := by
        intro wheel member
        exact otherInRange wheel (List.mem_reverse.mp member)
      have outerSame : frame other.reverse = frame (wheelsFrom axes 0 shape.dims) := by
        rw [wheels_eq, frame, frame, List.map_reverse] at same
        rw [frame, List.map_reverse, same, List.reverse_reverse, frame]
      have below := slotOf_lt_of_frame outerInRange outerSame
      rw [slotOf_reverse, Shape.product_reduceFrom] at below
      rw [slotCount, Shape.numel_reduce]
      exact below
    have walked := walk_eq_ok combine inRange bounded values
    rw [slotOf_wheels] at walked
    exact walked

end TensorGraph.Reduction
