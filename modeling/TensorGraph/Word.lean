import TensorGraph.Failure
import TensorGraph.PowerOfTwo

/-! Machine words of 64 bits, in which sizes and places are computed. A product that does not fit
loses its leading bits.
-/

namespace TensorGraph

/-- A number as a machine word holds it. -/
def word (n : Nat) : Nat :=
  n % twoPow 64

theorem word_lt (n : Nat) : word n < twoPow 64 :=
  Nat.mod_lt n (twoPow.pos 64)

theorem word_le (n : Nat) : word n ≤ n :=
  Nat.mod_le n (twoPow 64)

theorem word_of_lt {n : Nat} (fits : n < twoPow 64) : word n = n :=
  Nat.mod_eq_of_lt fits

/-- A place in a list of the given length, as a machine word holds it. A place within the list is a
word as it is, because no list is longer than a word can tell.
-/
def placeWithin (length place : Nat) : Nat :=
  if place ≤ length then place else word place

theorem placeWithin_of_le {length place : Nat} (inside : place ≤ length)
    : placeWithin length place = place :=
  if_pos inside

theorem placeWithin_eq_word {length : Nat} (short : length < twoPow 64) (place : Nat)
    : placeWithin length place = word place := by
  unfold placeWithin
  split
  next inside => exact (word_of_lt (Nat.lt_of_le_of_lt inside short)).symm
  · rfl

/-- The `size` elements of a list from `start` on, if the list has them. -/
def slice {α : Type} (values : List α) (start size : Nat) : Except Fault (List α) :=
  if start + size ≤ values.length then .ok ((values.drop start).take size)
  else .error .indexOutOfRange

end TensorGraph
