import TensorGraph.PowerOfTwo

/-! Byte sequences and little-endian numbers. -/

namespace TensorGraph

abbrev Bytes := List UInt8

namespace Bytes

/-- The lowest `count` bytes of a number, lowest first. -/
def ofNumber : (count : Nat) → (number : Nat) → Bytes
  | 0, _ => []
  | count + 1, number => UInt8.ofNat number :: ofNumber count (number / 256)

/-- The number that a byte sequence stands for, lowest byte first. -/
def toNumber : Bytes → Nat
  | [] => 0
  | byte :: rest => byte.toNat + 256 * toNumber rest

/-- The first `count` pieces of `size` bytes each. -/
def pieces (size : Nat) : (count : Nat) → Bytes → List Bytes
  | 0, _ => []
  | count + 1, bytes => bytes.take size :: pieces size count (bytes.drop size)

@[simp]
theorem length_ofNumber (count number : Nat) : (ofNumber count number).length = count := by
  induction count generalizing number with
  | zero => rfl
  | succ count ih => simp [ofNumber, ih]

/-- A byte more makes room for 256 times as many numbers. -/
theorem twoPow_byte (count : Nat) : twoPow (8 * (count + 1)) = 256 * twoPow (8 * count) := by
  rw [Nat.mul_succ, twoPow.add, Nat.mul_comm]
  rfl

theorem toNumber_lt (bytes : Bytes) : toNumber bytes < twoPow (8 * bytes.length) := by
  induction bytes with
  | nil => exact Nat.one_pos
  | cons byte rest ih =>
      have low := byte.toNat_lt
      rw [List.length_cons, twoPow_byte, toNumber]
      omega

@[simp]
theorem ofNumber_toNumber (bytes : Bytes) : ofNumber bytes.length (toNumber bytes) = bytes := by
  induction bytes with
  | nil => rfl
  | cons byte rest ih =>
      have low := byte.toNat_lt
      have high : (byte.toNat + 256 * toNumber rest) / 256 = toNumber rest := by omega
      simp only [List.length_cons, toNumber, ofNumber, high, ih, List.cons.injEq, and_true]
      apply UInt8.toNat_inj.mp
      simp only [UInt8.toNat_ofNat']
      omega

theorem toNumber_ofNumber {count number : Nat} (small : number < twoPow (8 * count))
    : toNumber (ofNumber count number) = number := by
  induction count generalizing number with
  | zero => exact (Nat.lt_one_iff.mp small).symm
  | succ count ih =>
      have rest : number / 256 < twoPow (8 * count) := by
        rw [twoPow_byte] at small
        omega
      simp only [ofNumber, toNumber, ih rest, UInt8.toNat_ofNat']
      omega

@[simp]
theorem length_pieces (size count : Nat) (bytes : Bytes)
    : (pieces size count bytes).length = count := by
  induction count generalizing bytes with
  | zero => rfl
  | succ count ih => simp [pieces, ih]

end Bytes

end TensorGraph
