import TensorGraph.Bytes
import TensorGraph.DType
import TensorGraph.Numeric

/-! The values that each element type stands for, with their equality and byte image. -/

namespace TensorGraph.DType

/-- The values of an element type. -/
abbrev Element : DType → Type
  | boolean => Bool
  | i32 => Int32
  | i64 => Int64
  | bf16 => BFloat16
  | f16 => Binary16
  | f32 => Binary32

instance : (dtype : DType) → DecidableEq dtype.Element
  | boolean => inferInstanceAs (DecidableEq Bool)
  | i32 => inferInstanceAs (DecidableEq Int32)
  | i64 => inferInstanceAs (DecidableEq Int64)
  | bf16 => inferInstanceAs (DecidableEq BFloat16)
  | f16 => inferInstanceAs (DecidableEq Binary16)
  | f32 => inferInstanceAs (DecidableEq Binary32)

/-- The value that fresh buffers hold. -/
def zeroElement : (dtype : DType) → dtype.Element
  | boolean => false
  | i32 => 0
  | i64 => 0
  | bf16 => .zero false
  | f16 => .zero false
  | f32 => .zero false

/-- Equality as the element type compares: a not-a-number differs from itself and the two zeros
are equal.
-/
def sameElement : (dtype : DType) → dtype.Element → dtype.Element → Bool
  | boolean, x, y => x == y
  | i32, x, y => x == y
  | i64, x, y => x == y
  | bf16, x, y => x.same y
  | f16, x, y => x.same y
  | f32, x, y => x.same y

/-- The arithmetic of an element type, which truth values do not have. -/
def numeric? : (dtype : DType) → Option (Numeric dtype.Element)
  | boolean => none
  | i32 => some inferInstance
  | i64 => some inferInstance
  | bf16 => some inferInstance
  | f16 => some inferInstance
  | f32 => some inferInstance

/-- The bits of an element as a number. -/
def toBits : (dtype : DType) → dtype.Element → Nat
  | boolean, x => x.toNat
  | i32, x => x.toBitVec.toNat
  | i64, x => x.toBitVec.toNat
  | bf16, x => x.bits.toNat
  | f16, x => x.bits.toNat
  | f32, x => x.bits.toNat

/-- The element with the given bits; every number but 0 is read as true. -/
def ofBits : (dtype : DType) → Nat → dtype.Element
  | boolean, bits => bits != 0
  | i32, bits => Int32.ofBitVec (BitVec.ofNat 32 bits)
  | i64, bits => Int64.ofBitVec (BitVec.ofNat 64 bits)
  | bf16, bits => ⟨BitVec.ofNat _ bits⟩
  | f16, bits => ⟨BitVec.ofNat _ bits⟩
  | f32, bits => ⟨BitVec.ofNat _ bits⟩

/-- The bytes of an element, lowest first. -/
def encode (dtype : DType) (element : dtype.Element) : Bytes :=
  Bytes.ofNumber dtype.byteSize (dtype.toBits element)

/-- The element whose bytes are given, lowest first. -/
def decode (dtype : DType) (bytes : Bytes) : dtype.Element :=
  dtype.ofBits bytes.toNumber

end TensorGraph.DType
