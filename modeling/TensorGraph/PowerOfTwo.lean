/-! Powers of two, in which bit patterns, significands and byte sequences are measured. -/

namespace TensorGraph

/-- The power of two with the given exponent. -/
def twoPow (exponent : Nat) : Nat :=
  Nat.pow 2 exponent

namespace twoPow

@[simp]
theorem zero : twoPow 0 = 1 := rfl

theorem succ (exponent : Nat) : twoPow (exponent + 1) = 2 * twoPow exponent :=
  Nat.mul_comm (twoPow exponent) 2

theorem add (m n : Nat) : twoPow (m + n) = twoPow m * twoPow n := by
  induction n with
  | zero => exact (Nat.mul_one _).symm
  | succ n ih => rw [← Nat.add_assoc, succ, succ, ih, Nat.mul_left_comm]

theorem pos (exponent : Nat) : 0 < twoPow exponent := by
  induction exponent with
  | zero => exact Nat.one_pos
  | succ exponent ih =>
      rw [succ]
      exact Nat.mul_pos Nat.two_pos ih

end twoPow

end TensorGraph
