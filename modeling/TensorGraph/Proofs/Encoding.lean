import TensorGraph.Proofs.Tensor

/-! The byte image of elements, buffers and tensors.

What is written can be read back. What is read is written again as it was, but for truth values: of
a byte they only keep whether it is 0.
-/

namespace TensorGraph

namespace DType

/-- The bits of an element fit into its bytes, by cases on the type. -/
theorem toBits_lt (dtype : DType) (element : dtype.Element)
    : dtype.toBits element < twoPow (8 * dtype.byteSize) := by
  cases dtype with
  | boolean => cases element <;> decide
  | i32 => exact element.toBitVec.isLt
  | i64 => exact element.toBitVec.isLt
  | bf16 => exact element.bits.isLt
  | f16 => exact element.bits.isLt
  | f32 => exact element.bits.isLt

@[simp]
theorem ofBits_toBits (dtype : DType) (element : dtype.Element)
    : dtype.ofBits (dtype.toBits element) = element := by
  cases dtype with
  | boolean => cases element <;> rfl
  | i32 => simp [ofBits, toBits]
  | i64 => simp [ofBits, toBits]
  | bf16 => simp [ofBits, toBits]
  | f16 => simp [ofBits, toBits]
  | f32 => simp [ofBits, toBits]

@[simp]
theorem length_encode (dtype : DType) (element : dtype.Element)
    : (dtype.encode element).length = dtype.byteSize :=
  Bytes.length_ofNumber _ _

@[simp]
theorem decode_encode (dtype : DType) (element : dtype.Element)
    : dtype.decode (dtype.encode element) = element := by
  unfold decode encode
  rw [Bytes.toNumber_ofNumber (dtype.toBits_lt element), ofBits_toBits]

/-- Every pattern of the right size is an element of its own, by cases on the type. -/
theorem toBits_ofBits {dtype : DType} (numbers : dtype.isNumeric) {bits : Nat}
    (small : bits < twoPow (8 * dtype.byteSize))
    : dtype.toBits (dtype.ofBits bits) = bits := by
  cases dtype with
  | boolean => cases numbers
  | i32 | i64 | bf16 | f16 | f32 => exact (BitVec.toNat_ofNat _ _).trans (Nat.mod_eq_of_lt small)

/-- The byte that is written where a byte was read. -/
def settled (dtype : DType) (byte : UInt8) : UInt8 :=
  if dtype = .boolean then
    if byte = 0 then 0 else 1
  else byte

theorem map_settled {dtype : DType} (numbers : dtype ≠ .boolean) (bytes : Bytes)
    : bytes.map dtype.settled = bytes := by
  have same : dtype.settled = id := funext fun byte => if_neg numbers
  rw [same, List.map_id]

/-- The bytes of an element are written again as they were read, each by itself. By cases on the
type: a truth value has one byte.
-/
theorem encode_decode {dtype : DType} {bytes : Bytes} (sized : bytes.length = dtype.byteSize)
    : dtype.encode (dtype.decode bytes) = bytes.map dtype.settled := by
  by_cases truth : dtype = .boolean
  · subst truth
    obtain ⟨byte, rfl⟩ := List.length_eq_one_iff.mp sized
    by_cases zero : byte = 0
    · subst zero
      rfl
    · have positive : byte.toNat ≠ 0 := fun none => zero (UInt8.toNat_inj.mp none)
      have read : decode .boolean [byte] = true := bne_iff_ne.mpr positive
      rw [read, List.map_cons, settled, if_pos rfl, if_neg zero]
      rfl
  · have numbers : dtype.isNumeric = true := by
      cases dtype with
      | boolean => exact absurd rfl truth
      | _ => rfl
    rw [map_settled truth]
    unfold encode decode
    rw [toBits_ofBits numbers (sized ▸ Bytes.toNumber_lt bytes), ← sized, Bytes.ofNumber_toNumber]

end DType

namespace Bytes

/-- Pieces of the right size are read back, by list induction. -/
theorem pieces_flatMap {α : Type} {encode : α → Bytes} {size : Nat}
    (sized : ∀ value, (encode value).length = size) (values : List α)
    : pieces size values.length (values.flatMap encode) = values.map encode := by
  induction values with
  | nil => rfl
  | cons value rest ih =>
      simp only [List.flatMap_cons, List.length_cons, pieces, List.map_cons]
      rw [List.take_left' (sized value), List.drop_left' (sized value), ih]

/-- A whole number of pieces has the right size each, and together they are the bytes. By induction
on their number.
-/
theorem pieces_spec {size count : Nat} {bytes : Bytes} (whole : bytes.length = count * size)
    : (∀ piece ∈ pieces size count bytes, piece.length = size)
      ∧ (pieces size count bytes).flatten = bytes := by
  induction count generalizing bytes with
  | zero =>
      rw [Nat.zero_mul, List.length_eq_zero_iff] at whole
      subst whole
      exact ⟨by simp [pieces], rfl⟩
  | succ count ih =>
      rw [Nat.succ_mul] at whole
      have rest : (bytes.drop size).length = count * size := by
        rw [List.length_drop]
        omega
      obtain ⟨sized, joined⟩ := ih rest
      rw [pieces, List.forall_mem_cons, List.flatten_cons, joined]
      refine ⟨⟨?_, sized⟩, List.take_append_drop size bytes⟩
      rw [List.length_take]
      omega

end Bytes

namespace Buffer

@[simp]
theorem length_toBytes (buffer : Buffer)
    : buffer.toBytes.length = buffer.length * buffer.dtype.byteSize := by
  simp [toBytes, length, List.length_flatMap, List.map_const']

/-- A buffer is read back from its image. -/
@[simp]
theorem decode_toBytes (buffer : Buffer) : decode buffer.dtype buffer.toBytes = buffer := by
  obtain ⟨dtype, elements⟩ := buffer
  have count : (toBytes ⟨dtype, elements⟩).length / dtype.byteSize = elements.length := by
    rw [length_toBytes]
    exact Nat.mul_div_cancel _ dtype.byteSize_pos
  unfold decode
  rw [count]
  unfold toBytes
  rw [Bytes.pieces_flatMap dtype.length_encode, List.map_map]
  simp [Function.comp_def]

/-- A whole number of elements is written again as it was read. -/
theorem toBytes_decode {dtype : DType} {bytes : Bytes} (whole : dtype.byteSize ∣ bytes.length)
    : (decode dtype bytes).toBytes = bytes.map dtype.settled := by
  obtain ⟨sized, joined⟩ := Bytes.pieces_spec (Nat.div_mul_cancel whole).symm
  have written
      : (bytes.pieces dtype.byteSize (bytes.length / dtype.byteSize)).map
            (fun piece => dtype.encode (dtype.decode piece))
        = (bytes.pieces dtype.byteSize (bytes.length / dtype.byteSize)).map
            (List.map dtype.settled) :=
    List.map_congr_left fun piece member => DType.encode_decode (sized piece member)
  calc (decode dtype bytes).toBytes
    _ = ((bytes.pieces dtype.byteSize (bytes.length / dtype.byteSize)).map
          fun piece => dtype.encode (dtype.decode piece)).flatten := by
      rw [toBytes, decode, List.flatMap_map]
      rfl
    _ = (bytes.pieces dtype.byteSize (bytes.length / dtype.byteSize)).flatten.map
          dtype.settled := by
      rw [written, List.map_flatten]
    _ = bytes.map dtype.settled := by
      rw [joined]

/-- Bytes are refused exactly if they end in the middle of an element. -/
theorem ofBytes_eq_ok_iff {dtype : DType} {bytes : Bytes} {buffer : Buffer}
    : ofBytes dtype bytes = .ok buffer
      ↔ dtype.byteSize ∣ bytes.length ∧ decode dtype bytes = buffer := by
  rw [Nat.dvd_iff_mod_eq_zero]
  by_cases whole : bytes.length % dtype.byteSize = 0 <;> simp [ofBytes, whole]

theorem ofBytes_eq_error_iff {dtype : DType} {bytes : Bytes}
    : (∃ cause, ofBytes dtype bytes = .error cause) ↔ ¬ dtype.byteSize ∣ bytes.length := by
  rw [Nat.dvd_iff_mod_eq_zero]
  by_cases whole : bytes.length % dtype.byteSize = 0 <;> simp [ofBytes, whole]

end Buffer

namespace Tensor

theorem ofBytes_eq_ok_iff {dtype : DType} {shape : Shape} {bytes : Bytes} {tensor : Tensor}
    : ofBytes dtype shape bytes = .ok tensor
      ↔ bytes.length = shape.count * dtype.byteSize
        ∧ Buffer.ofBytes dtype bytes = .ok tensor.buffer
        ∧ tensor.shape = some shape := by
  rw [Buffer.ofBytes_eq_ok_iff]
  by_cases sized : bytes.length = shape.count * dtype.byteSize
  · have whole : dtype.byteSize ∣ bytes.length := ⟨shape.count, sized.trans (Nat.mul_comm _ _)⟩
    simp only [ofBytes, sized, dite_true, Except.ok.injEq, true_and]
    constructor
    · rintro rfl
      exact ⟨⟨sized ▸ whole, rfl⟩, rfl⟩
    · rintro ⟨⟨-, buffer⟩, shaped⟩
      exact eq_of_parts buffer shaped.symm
  · simp [ofBytes, sized]

/-- Bytes are read as a tensor exactly if there are as many as the shape asks for, and then written
again as they were, but for truth values, where 1 takes the place of every byte that is not 0. What
a tensor writes is read as that tensor. A buffer refuses bytes exactly if they end in the middle of
an element.
-/
theorem ofBytes_toBytes (dtype : DType) (shape : Shape) (bytes : Bytes)
    : ((∃ tensor, ofBytes dtype shape bytes = .ok tensor)
          ↔ bytes.length = shape.count * dtype.byteSize)
      ∧ (∀ tensor,
          ofBytes dtype shape bytes = .ok tensor
          → tensor.dtype = dtype
            ∧ tensor.shape = some shape
            ∧ (dtype ≠ .boolean → tensor.toBytes = bytes)
            ∧ (dtype = .boolean
              → tensor.toBytes = bytes.map fun byte => if byte = 0 then 0 else 1))
      ∧ (∀ tensor : Tensor,
          tensor.toBytes.length = tensor.length * tensor.dtype.byteSize
          ∧ (tensor.shape = some shape
            → ofBytes tensor.dtype shape tensor.toBytes = .ok tensor))
      ∧ ((∃ cause, Buffer.ofBytes dtype bytes = .error cause)
          ↔ ¬ dtype.byteSize ∣ bytes.length) := by
  refine ⟨⟨?_, ?_⟩, ?_, ?_, Buffer.ofBytes_eq_error_iff⟩
  · rintro ⟨tensor, read⟩
    exact (ofBytes_eq_ok_iff.mp read).1
  · intro sized
    exact ⟨_, dif_pos sized⟩
  · intro tensor read
    obtain ⟨-, stored, shaped⟩ := ofBytes_eq_ok_iff.mp read
    obtain ⟨whole, decoded⟩ := Buffer.ofBytes_eq_ok_iff.mp stored
    have written : tensor.toBytes = bytes.map dtype.settled := by
      rw [toBytes, ← decoded, Buffer.toBytes_decode whole]
    refine ⟨by rw [Tensor.dtype, ← decoded, Buffer.decode], shaped, ?_, ?_⟩
    · intro numbers
      rw [written, DType.map_settled numbers]
    · rintro rfl
      exact written
  · intro tensor
    refine ⟨tensor.buffer.length_toBytes, ?_⟩
    intro shaped
    have sized : tensor.toBytes.length = shape.count * tensor.dtype.byteSize := by
      rw [← length_of_shape shaped]
      exact tensor.buffer.length_toBytes
    refine ofBytes_eq_ok_iff.mpr ⟨sized, ?_, shaped⟩
    exact Buffer.ofBytes_eq_ok_iff.mpr
      ⟨⟨_, sized.trans (Nat.mul_comm _ _)⟩, tensor.buffer.decode_toBytes⟩

/-- Of two truth values the byte 7 becomes 1, and the payload of a not-a-number is kept. -/
theorem ofBytes_toBytes_payload
    : (∃ tensor, ofBytes .boolean ⟨[2]⟩ [0, 7] = .ok tensor ∧ tensor.toBytes = [0, 1])
      ∧ ∃ tensor,
          ofBytes .f32 .scalar [1, 0, 0xa0, 0x7f] = .ok tensor
          ∧ tensor.toBytes = [1, 0, 0xa0, 0x7f]
          ∧ ofBytes tensor.dtype .scalar tensor.toBytes = .ok tensor := by
  constructor
  · obtain ⟨accepted, written, -, -⟩ := ofBytes_toBytes .boolean ⟨[2]⟩ [0, 7]
    obtain ⟨tensor, read⟩ := accepted.mpr rfl
    exact ⟨tensor, read, (written tensor read).2.2.2 rfl⟩
  · obtain ⟨accepted, written, reread, -⟩ := ofBytes_toBytes .f32 .scalar [1, 0, 0xa0, 0x7f]
    obtain ⟨tensor, read⟩ := accepted.mpr rfl
    obtain ⟨-, shaped, unchanged, -⟩ := written tensor read
    exact ⟨tensor, read, unchanged (by decide), (reread tensor).2 shaped⟩

end Tensor

end TensorGraph
