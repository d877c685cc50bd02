import TensorGraph.Proofs.Reduction.Slots

/-! The walk of the odometer in machine words.

Products of extents, strides and slots are machine words, which lose the leading bits of what does
not fit. The walk does not notice. An element never goes to a slot beyond its own place, and no list
has more elements than a machine word can tell.
-/

namespace TensorGraph

-----------------------------------------------------------------------------------------
-- Arithmetic of words
-----------------------------------------------------------------------------------------

theorem word_add (x y : Nat) : word (word x + word y) = word (x + y) :=
  (Nat.add_mod x y (twoPow 64)).symm

theorem word_mul (x y : Nat) : word (word x * y) = word (x * y) :=
  Nat.mod_mul_mod x y (twoPow 64)

/-- A difference that loses a bit gets it back, by whether the words borrow. -/
theorem word_sub {x y : Nat} (enough : y ≤ x)
    : word (word x + twoPow 64 - word y) = word (x - y) := by
  obtain ⟨rest, rfl⟩ := Nat.exists_eq_add_of_le enough
  have words : twoPow 64 = 18446744073709551616 := rfl
  rw [Nat.add_sub_cancel_left]
  simp only [word, words]
  omega

/-- A product that is computed word by word is the machine word of the product, by induction on the
extents.
-/
theorem foldl_word_mul (dims : List Nat) (first : Nat)
    : dims.foldl (fun product extent => word (product * extent)) (word first)
      = word (first * Shape.product dims) := by
  induction dims generalizing first with
  | nil => rw [List.foldl_nil, Shape.product_nil, Nat.mul_one]
  | cons extent rest ih =>
      rw [List.foldl_cons, word_mul, ih, Shape.product_cons, Nat.mul_assoc]

theorem Shape.count_eq_foldl (shape : Shape)
    : shape.count = shape.dims.foldl (fun product extent => word (product * extent)) 1 := by
  have computed := foldl_word_mul shape.dims 1
  rw [Nat.one_mul] at computed
  exact computed.symm

namespace Reduction

-----------------------------------------------------------------------------------------
-- Turning the odometer
-----------------------------------------------------------------------------------------

/-- Moves to the next element as `turn` does, with the slot and the strides in machine words. A slot
below zero is not noticed.
-/
def turnInWords : List Wheel → (slot : Nat) → List Wheel × Nat
  | [], slot => ([], slot)
  | wheel :: rest, slot =>
      let position := wheel.position + 1
      let moved := word (slot + word wheel.stride)
      if position < wheel.extent then (⟨wheel.extent, wheel.stride, position⟩ :: rest, moved)
      else
        let back := word (word wheel.stride * position)
        let (turned, index) := turnInWords rest (word (moved + twoPow 64 - back))
        (⟨wheel.extent, wheel.stride, 0⟩ :: turned, index)

/-- In machine words a turn leads to the machine word of the slot, by induction on the wheels. -/
theorem turnInWords_eq {odometer turned : List Wheel} {slot next : Nat}
    (moved : turn odometer slot = .ok (turned, next))
    : turnInWords odometer (word slot) = (turned, word next) := by
  induction odometer generalizing slot turned next with
  | nil =>
      cases moved
      rfl
  | cons wheel rest ih =>
      rw [turn] at moved
      rw [turnInWords]
      simp only [word_add]
      split at moved
      next more =>
        cases moved
        rw [if_pos more]
      next last =>
        split at moved
        · cases moved
        next enough =>
          obtain ⟨⟨turnedRest, index⟩, movedRest, same⟩ := map_eq_ok_iff.mp moved
          cases same
          rw [if_neg last, word_mul, word_sub (Nat.le_of_not_lt enough), ih movedRest]

-----------------------------------------------------------------------------------------
-- The walk
-----------------------------------------------------------------------------------------

variable {α : Type}

/-- Folds each value into the slot at which the odometer stands, as `walk` does, with the slot in a
machine word.
-/
def walkInWords (combine : α → α → α)
    : List Wheel → (slot : Nat) → (slots values : List α) → Except Fault (List α)
  | _, _, slots, [] => .ok slots
  | odometer, slot, slots, value :: rest =>
      match slots[slot]? with
      | none => .error .indexOutOfRange
      | some held =>
          let (turned, next) := turnInWords odometer slot
          walkInWords combine turned next (slots.set slot (combine held value)) rest

variable {shape : Shape} {axes : AxisSet}

/-- No element goes to a slot beyond its own place, because reduced axes only bring elements closer
together. By induction on the extents.
-/
theorem placeOf_reduceFrom_le (axes : AxisSet) (first : Nat) {dims coordinates : List Nat}
    (inside : Shape.Inside dims coordinates)
    : Shape.placeOf (Shape.reduceFrom axes false first dims)
          (Shape.reduceFrom axes false first coordinates)
        ≤ Shape.placeOf dims coordinates := by
  induction inside generalizing first with
  | nil => exact Nat.le_refl 0
  | @cons coordinate extent others rest below later ih =>
      by_cases reduced : first ∈ axes
      · rw [Shape.reduceFrom_false_cons_of_mem reduced, Shape.reduceFrom_false_cons_of_mem reduced]
        exact Nat.le_trans (ih (first + 1)) (Nat.le_add_left _ _)
      · rw [Shape.reduceFrom_cons_of_notMem reduced, Shape.reduceFrom_cons_of_notMem reduced]
        have some : Shape.product rest ≠ 0 := Nat.ne_zero_of_lt (Shape.placeOf_lt later)
        have fewer
            : Shape.product (Shape.reduceFrom axes false (first + 1) rest)
              ≤ Shape.product rest := by
          rw [← Shape.span_eq_product some]
          exact Nat.le_trans (Shape.product_le_span _)
            (Shape.span_reduceFrom_le axes false (first + 1) rest)
        exact Nat.add_le_add (Nat.mul_le_mul_right coordinate fewer) (ih (first + 1))

theorem slotFor_le {place : Nat} (below : place < shape.numel)
    : slotFor shape axes place ≤ place := by
  have closer := placeOf_reduceFrom_le axes 0 (Shape.coordinatesOf_inside below)
  rw [Shape.placeOf_coordinatesOf below] at closer
  exact closer

theorem StandsAt.slotOf_le {odometer : List Wheel} {place : Nat}
    (stands : StandsAt shape axes odometer place) (below : place < shape.numel)
    : Reduction.slotOf odometer ≤ place := by
  rw [stands.slotOf]
  exact slotFor_le below

/-- From a place on the walk in machine words is the walk, if machine words tell the places of the
values that are left. By induction on these values.
-/
theorem walkInWords_from (combine : α → α → α) {odometer : List Wheel} {place : Nat}
    (slots : List α) {values : List α} (inside : place + values.length ≤ shape.numel)
    (told : place + values.length ≤ twoPow 64)
    (stands : values ≠ [] → StandsAt shape axes odometer place)
    : walkInWords combine odometer (slotOf odometer) slots values
      = walk combine odometer (slotOf odometer) slots values := by
  induction values generalizing odometer place slots with
  | nil => rw [walkInWords, walk]
  | cons value rest ih =>
      have standing := stands (List.cons_ne_nil _ _)
      rw [List.length_cons] at inside told
      have slot : word (slotOf odometer) = slotOf odometer := by
        have near := standing.slotOf_le (by omega)
        exact word_of_lt (by omega)
      obtain ⟨turned, moved, next⟩ := standing.turn
      have inWords := turnInWords_eq moved
      rw [slot] at inWords
      rw [walkInWords, walk]
      cases slots[slotOf odometer]? with
      | none => rfl
      | some held =>
          simp only [inWords, moved]
          cases rest with
          | nil => rw [walkInWords, walk]
          | cons following others =>
              rw [List.length_cons] at inside told
              have later := next (by omega)
              have nextSlot : word (slotOf turned) = slotOf turned := by
                have near := later.slotOf_le (by omega)
                exact word_of_lt (by omega)
              rw [nextSlot]
              have insideToo : place + 1 + (following :: others).length ≤ shape.numel := by
                rw [List.length_cons]
                omega
              have toldToo : place + 1 + (following :: others).length ≤ twoPow 64 := by
                rw [List.length_cons]
                omega
              exact ih _ insideToo toldToo fun _ => later

/-- The fold whose walk is computed in machine words. -/
def foldInWords (combine : α → α → α) (start : α) : Kernel α :=
  fun argument out shape axes keepDims =>
    match checkArguments argument.length out.length shape axes keepDims with
    | .error cause => .error (.error cause)
    | .ok () =>
        orFault (walkInWords combine (wheels shape axes) 0 (List.replicate out.length start)
          argument)

/-- In machine words a fold is the same for every list that a machine can hold, under every shape,
also where the products of the extents lose bits.
-/
theorem foldInWords_eq (combine : α → α → α) (start : α) {argument : List α}
    (short : argument.length < twoPow 64) (out : List α) (shape : Shape) (axes : AxisSet)
    (keepDims : Bool)
    : foldInWords combine start argument out shape axes keepDims
      = fold combine start argument out shape axes keepDims := by
  unfold foldInWords fold
  cases checked : checkArguments argument.length out.length shape axes keepDims with
  | error cause => rfl
  | ok _ =>
      have inside : argument.length ≤ shape.numel := by
        unfold checkArguments at checked
        split at checked
        · cases checked
        next same =>
          rw [word_of_lt short, not_not] at same
          rw [same]
          exact word_le shape.numel
      have stands (some : argument ≠ []) : StandsAt shape axes (wheels shape axes) 0 := by
        apply StandsAt.start
        have positive := List.length_pos_iff.mpr some
        omega
      have walked := walkInWords_from combine (List.replicate out.length start)
        (by rwa [Nat.zero_add]) (by omega) stands
      rw [slotOf_wheels] at walked
      simp only [walked]

end Reduction

end TensorGraph
