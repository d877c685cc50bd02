import TensorGraph.Proofs.Coordinates
import TensorGraph.Proofs.Reduction.Odometer
import TensorGraph.Proofs.Traversal
import TensorGraph.Reduction.Kernel

/-! The walk of the odometer, told by coordinates.

The wheels always show the coordinates of the next element, and the slot that goes with them is the
place of the coordinates that the reduction leaves. So each slot receives, in row-major order, the
elements that agree with it in these coordinates, and no others.
-/

namespace TensorGraph.Reduction

open Shape (placeOf coordinatesOf keptCoordinates reduceFrom)

variable {α : Type} {shape : Shape} {axes : AxisSet}

-----------------------------------------------------------------------------------------
-- The elements of a slot
-----------------------------------------------------------------------------------------

/-- The places, in row-major order, of the elements whose coordinates without those on the reduced
axes are the coordinates of the slot.
-/
def members (shape : Shape) (axes : AxisSet) (slot : Nat) : List Nat :=
  (List.range shape.numel).filter fun place =>
    keptCoordinates axes (shape.coordinates place) = (shape.reduce axes false).coordinates slot

/-- What the slots of a reduction hold by definition: each the fold over its elements. -/
def slots (combine : α → α → α) (start : α) (argument : List α) (shape : Shape) (axes : AxisSet)
    : List α :=
  (List.range (shape.reduce axes false).numel).map fun slot =>
    ((members shape axes slot).filterMap fun place => argument[place]?).foldl combine start

/-- The slot into which the element at a place goes. -/
def slotFor (shape : Shape) (axes : AxisSet) (place : Nat) : Nat :=
  placeOf (shape.reduce axes false).dims (keptCoordinates axes (shape.coordinates place))

theorem keptCoordinates_inside {place : Nat} (below : place < shape.numel)
    : Shape.Inside (shape.reduce axes false).dims
        (keptCoordinates axes (shape.coordinates place)) :=
  (Shape.coordinatesOf_inside below).reduceFrom

theorem slotFor_lt {place : Nat} (below : place < shape.numel)
    : slotFor shape axes place < (shape.reduce axes false).numel :=
  Shape.placeOf_lt (keptCoordinates_inside below)

/-- An element agrees with a slot in the coordinates that are left exactly if it goes there. -/
theorem kept_eq_iff {place slot : Nat} (below : place < shape.numel)
    (inBounds : slot < (shape.reduce axes false).numel)
    : keptCoordinates axes (shape.coordinates place) = (shape.reduce axes false).coordinates slot
      ↔ slotFor shape axes place = slot := by
  constructor
  · intro same
    rw [slotFor, same]
    exact Shape.placeOf_coordinatesOf inBounds
  · rintro rfl
    exact (Shape.coordinatesOf_placeOf (keptCoordinates_inside below)).symm

theorem members_eq {slot : Nat} (inBounds : slot < (shape.reduce axes false).numel)
    : members shape axes slot
      = (List.range shape.numel).filter fun place => slotFor shape axes place = slot := by
  apply List.filter_congr
  intro place member
  exact decide_eq_decide.mpr (kept_eq_iff (List.mem_range.mp member) inBounds)

/-- Each element goes to exactly one slot. -/
theorem existsUnique_slot {place : Nat} (below : place < shape.numel)
    : ∃! slot, slot < (shape.reduce axes false).numel ∧ place ∈ members shape axes slot := by
  refine ⟨slotFor shape axes place, ⟨slotFor_lt below, ?_⟩, ?_⟩
  · rw [members_eq (slotFor_lt below), List.mem_filter, List.mem_range]
    exact ⟨below, decide_eq_true rfl⟩
  · rintro slot ⟨inBounds, member⟩
    rw [members_eq inBounds, List.mem_filter] at member
    exact (of_decide_eq_true member.2).symm

/-- Each slot receives as many elements as the extents of the reduced axes say. -/
theorem length_members {slot : Nat} (inBounds : slot < (shape.reduce axes false).numel)
    : (members shape axes slot).length = shape.reducedCount axes := by
  rw [members, ← List.countP_eq_length_filter]
  exact shape.count_places axes (Shape.coordinatesOf_inside inBounds)

example : members ⟨[2, 3]⟩ (.ofList [0]) 1 = [1, 4] := by decide

/-- The elements that go into a slot, in row-major order. -/
def gathered (argument : List α) (shape : Shape) (axes : AxisSet) (slot : Nat) : List α :=
  (members shape axes slot).filterMap fun place => argument[place]?

theorem length_gathered {argument : List α} (filled : argument.length = shape.numel) {slot : Nat}
    (inBounds : slot < (shape.reduce axes false).numel)
    : (gathered argument shape axes slot).length = shape.reducedCount axes := by
  rw [← length_members inBounds, gathered, List.length_filterMap_eq_countP, List.countP_eq_length]
  intro place member
  have below : place < argument.length := by
    rw [filled]
    exact List.mem_range.mp (List.mem_of_mem_filter member)
  rw [List.getElem?_eq_getElem below, Option.isSome_some]

theorem length_slots (combine : α → α → α) (start : α) (argument : List α) (shape : Shape)
    (axes : AxisSet)
    : (slots combine start argument shape axes).length = (shape.reduce axes false).numel := by
  rw [slots, List.length_map, List.length_range]

theorem getElem?_slots (combine : α → α → α) (start : α) (argument : List α) {slot : Nat}
    (inBounds : slot < (shape.reduce axes false).numel)
    : (slots combine start argument shape axes)[slot]?
      = some ((gathered argument shape axes slot).foldl combine start) := by
  rw [slots, List.getElem?_map, List.getElem?_range inBounds, Option.map_some, gathered]

-----------------------------------------------------------------------------------------
-- The wheels show the coordinates
-----------------------------------------------------------------------------------------

/-- The place of the walk at which the wheels stand, innermost wheel first. -/
def stepOf : List Wheel → Nat
  | [] => 0
  | wheel :: rest => wheel.position + wheel.extent * stepOf rest

/-- A turn leads to the next place, if there is one. By induction on the wheels. -/
theorem stepOf_turn {odometer turned : List Wheel} {slot next : Nat} (inRange : InRange odometer)
    (moved : turn odometer slot = .ok (turned, next))
    (more : stepOf odometer + 1 < Shape.product (odometer.map Wheel.extent))
    : stepOf turned = stepOf odometer + 1 := by
  induction odometer generalizing turned slot next with
  | nil => exact absurd more (Nat.lt_irrefl 1)
  | cons wheel rest ih =>
      obtain ⟨here, others⟩ := List.forall_mem_cons.mp inRange
      rw [turn] at moved
      split at moved
      · cases moved
        exact Nat.add_right_comm _ _ _
      next last =>
        split at moved
        · cases moved
        · obtain ⟨⟨turnedRest, index⟩, movedRest, same⟩ := map_eq_ok_iff.mp moved
          cases same
          have full : wheel.position + 1 = wheel.extent := by omega
          rw [List.map_cons, Shape.product_cons, stepOf, Nat.add_right_comm, full,
            Nat.add_comm wheel.extent, ← Nat.mul_succ] at more
          rw [stepOf, stepOf, ih others movedRest (Nat.lt_of_mul_lt_mul_left more), Nat.zero_add,
            Nat.mul_succ, Nat.add_right_comm, full, Nat.add_comm]

theorem stepOf_append (inner outer : List Wheel)
    : stepOf (inner ++ outer)
      = stepOf inner + Shape.product (inner.map Wheel.extent) * stepOf outer := by
  induction inner with
  | nil => simp [stepOf]
  | cons wheel rest ih =>
      rw [List.cons_append, stepOf, ih, stepOf, List.map_cons, Shape.product_cons, Nat.mul_add,
        Nat.mul_assoc, Nat.add_assoc]

/-- The wheels, outermost first, show the coordinates of the place at which they stand. -/
theorem stepOf_reverse (outer : List Wheel)
    : stepOf outer.reverse = placeOf (outer.map Wheel.extent) (outer.map Wheel.position) := by
  induction outer with
  | nil => rfl
  | cons wheel rest ih =>
      have extents
          : Shape.product (rest.reverse.map Wheel.extent)
            = Shape.product (rest.map Wheel.extent) := by
        rw [List.map_reverse]
        exact List.prod_reverse _
      rw [List.reverse_cons, stepOf_append, ih, extents, List.map_cons, List.map_cons, placeOf,
        stepOf, stepOf, Nat.mul_zero, Nat.add_zero, Nat.add_comm]

/-- The slot of wheels in range is the place of the coordinates that are left, by induction on the
extents.
-/
theorem slotOf_eq_placeOf {first : Nat} {dims : List Nat} {outer : List Wheel}
    (same : frame outer = frame (wheelsFrom axes first dims))
    : slotOf outer
      = placeOf (reduceFrom axes false first dims)
          (reduceFrom axes false first (outer.map Wheel.position)) := by
  induction dims generalizing first outer with
  | nil =>
      have none : outer = [] := List.map_eq_nil_iff.mp same
      rw [none]
      rfl
  | cons extent rest ih =>
      rw [wheelsFrom_cons] at same
      obtain ⟨wheel, others, rfl, here, later⟩ := List.map_eq_cons_iff.mp same
      obtain ⟨-, stride⟩ := Prod.mk.inj here
      rw [slotOf_cons, stride, ih later, List.map_cons]
      by_cases reduced : first ∈ axes
      · rw [Shape.reduceFrom_false_cons_of_mem reduced, Shape.reduceFrom_false_cons_of_mem reduced,
          if_pos reduced, Nat.zero_mul, Nat.zero_add]
      · rw [Shape.reduceFrom_cons_of_notMem reduced, Shape.reduceFrom_cons_of_notMem reduced,
          if_neg reduced, placeOf, Shape.product_reduceFrom]

/-- The odometer of a shape is about to visit the element at a place. -/
structure StandsAt (shape : Shape) (axes : AxisSet) (odometer : List Wheel) (place : Nat)
    : Prop where
  inRange : InRange odometer
  frame : frame odometer = frame (wheels shape axes)
  step : stepOf odometer = place

theorem StandsAt.extents {odometer : List Wheel} {place : Nat}
    (stands : StandsAt shape axes odometer place)
    : odometer.map Wheel.extent = shape.dims.reverse := by
  have frames (first : Nat) (dims : List Nat)
      : (wheelsFrom axes first dims).map Wheel.extent = dims := by
    induction dims generalizing first with
    | nil => rfl
    | cons extent rest ih => rw [wheelsFrom_cons, List.map_cons, ih]
  have same := congrArg (List.map Prod.fst) stands.frame
  rw [Reduction.frame, Reduction.frame, List.map_map, List.map_map, wheels_eq,
    List.map_reverse] at same
  exact same.trans (congrArg List.reverse (frames 0 shape.dims))

/-- Where the odometer stands, its slot is the one for that element. -/
theorem StandsAt.slotOf {odometer : List Wheel} {place : Nat}
    (stands : StandsAt shape axes odometer place)
    : slotOf odometer = slotFor shape axes place := by
  have outer
      : Reduction.frame odometer.reverse
        = Reduction.frame (wheelsFrom axes 0 shape.dims) := by
    have same := stands.frame
    rw [wheels_eq, Reduction.frame, Reduction.frame, List.map_reverse] at same
    rw [Reduction.frame, List.map_reverse, same, List.reverse_reverse, Reduction.frame]
  have extents : odometer.reverse.map Wheel.extent = shape.dims := by
    rw [List.map_reverse, stands.extents, List.reverse_reverse]
  have inside : Shape.Inside shape.dims (odometer.reverse.map Wheel.position) := by
    rw [← extents, Shape.Inside, List.forall₂_map_left_iff, List.forall₂_map_right_iff,
      List.forall₂_same]
    intro wheel member
    exact stands.inRange wheel (List.mem_reverse.mp member)
  have shown : shape.coordinates place = odometer.reverse.map Wheel.position := by
    have step := stepOf_reverse odometer.reverse
    rw [List.reverse_reverse, stands.step, extents] at step
    rw [Shape.coordinates, step]
    exact Shape.coordinatesOf_placeOf inside
  rw [← slotOf_reverse, slotOf_eq_placeOf outer, slotFor, shown]
  rfl

theorem StandsAt.start (some : shape.numel ≠ 0) : StandsAt shape axes (wheels shape axes) 0 := by
  refine ⟨?_, rfl, ?_⟩
  · intro wheel member
    exact wheelsFrom_inRange some wheel (List.mem_reverse.mp member)
  · have start (odometer : List Wheel) (zero : ∀ wheel ∈ odometer, wheel.position = 0)
        : stepOf odometer = 0 := by
      induction odometer with
      | nil => rfl
      | cons wheel rest ih =>
          obtain ⟨here, others⟩ := List.forall_mem_cons.mp zero
          rw [stepOf, here, ih others, Nat.mul_zero]
    apply start
    intro wheel member
    obtain ⟨_, -, rfl⟩ := List.mem_map.mp (List.mem_reverse.mp member)
    rfl

theorem StandsAt.turn {odometer : List Wheel} {place : Nat}
    (stands : StandsAt shape axes odometer place)
    : ∃ turned,
        Reduction.turn odometer (Reduction.slotOf odometer)
          = .ok (turned, Reduction.slotOf turned)
        ∧ (place + 1 < shape.numel → StandsAt shape axes turned (place + 1)) := by
  obtain ⟨turned, moved, inRange, same⟩ := turn_eq_ok stands.inRange 0
  refine ⟨turned, moved, fun more => ⟨inRange, same.trans stands.frame, ?_⟩⟩
  rw [stepOf_turn stands.inRange moved, stands.step]
  rw [stands.step, stands.extents]
  exact Nat.lt_of_lt_of_eq more (List.prod_reverse _).symm

-----------------------------------------------------------------------------------------
-- The walk
-----------------------------------------------------------------------------------------

/-- A walk over the elements from a place on folds each of them into its slot. By induction on the
elements that are left.
-/
theorem walk_from (combine : α → α → α) {argument : List α}
    (filled : argument.length = shape.numel) {place : Nat} {odometer : List Wheel}
    {held values : List α} (left : argument.drop place = values)
    (stands : values ≠ [] → StandsAt shape axes odometer place)
    (slotCount : held.length = (shape.reduce axes false).numel)
    : ∃ folded,
        walk combine odometer (slotOf odometer) held values = .ok folded
        ∧ ∀ slot,
            folded[slot]?
            = held[slot]?.map fun start =>
                (((List.range' place values.length).filter fun place =>
                    slotFor shape axes place = slot).filterMap fun place =>
                  argument[place]?).foldl combine start := by
  induction values generalizing place odometer held with
  | nil => exact ⟨held, by rw [walk], fun slot => by simp⟩
  | cons value rest ih =>
      have standing := stands (List.cons_ne_nil _ _)
      have present : argument[place]? = some value := by
        rw [← Nat.add_zero place, ← List.getElem?_drop, left]
        rfl
      have below : place < shape.numel := filled ▸ (List.getElem?_eq_some_iff.mp present).1
      have slotBelow : slotOf odometer < held.length := by
        rw [standing.slotOf, slotCount]
        exact slotFor_lt below
      obtain ⟨turned, moved, next⟩ := standing.turn
      have later : argument.drop (place + 1) = rest := by
        rw [← List.drop_drop, left]
        rfl
      have stillStands (more : rest ≠ []) : StandsAt shape axes turned (place + 1) := by
        apply next
        have length := congrArg List.length later
        have positive := List.length_pos_iff.mpr more
        rw [List.length_drop] at length
        omega
      have slotsLeft
          : (held.set (slotOf odometer) (combine held[slotOf odometer] value)).length
            = (shape.reduce axes false).numel := by
        rw [List.length_set, slotCount]
      obtain ⟨folded, done, slots⟩ := ih later stillStands slotsLeft
      refine ⟨folded, ?_, ?_⟩
      · rw [walk]
        simp only [List.getElem?_eq_getElem slotBelow, moved]
        exact done
      · intro slot
        rw [slots slot, List.length_cons, List.range'_succ, List.getElem?_set]
        by_cases here : slotOf odometer = slot
        · have goes : slotFor shape axes place = slot := standing.slotOf.symm.trans here
          subst slot
          simp [goes, present, slotBelow]
        · have differs : slotFor shape axes place ≠ slot := standing.slotOf ▸ here
          simp [differs, here]

/-- The walk over all elements leaves in each slot the fold over its elements. -/
theorem walk_eq_slots (combine : α → α → α) (start : α) {argument : List α} {slotCount : Nat}
    (filled : argument.length = shape.numel)
    (counted : slotCount = (shape.reduce axes false).numel)
    : walk combine (wheels shape axes) 0 (List.replicate slotCount start) argument
      = .ok (slots combine start argument shape axes) := by
  have stands (some : argument ≠ []) : StandsAt shape axes (wheels shape axes) 0 := by
    apply StandsAt.start
    rw [← filled]
    exact (List.length_pos_iff.mpr some).ne'
  have allSlots : (List.replicate slotCount start).length = (shape.reduce axes false).numel := by
    rw [List.length_replicate, counted]
  obtain ⟨folded, done, folds⟩ := walk_from combine filled List.drop_zero stands allSlots
  rw [slotOf_wheels] at done
  rw [done]
  congr 1
  apply List.ext_getElem?
  intro slot
  rw [folds, slots, List.getElem?_map, List.getElem?_replicate, counted]
  by_cases inBounds : slot < (shape.reduce axes false).numel
  · rw [if_pos inBounds, List.getElem?_range inBounds, Option.map_some, Option.map_some,
      members_eq inBounds, filled, List.range_eq_range']
  · rw [if_neg inBounds, List.getElem?_eq_none (by rw [List.length_range]; omega)]
    rfl

end TensorGraph.Reduction
