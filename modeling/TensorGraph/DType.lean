/-! The six element types of a tensor, with their stable tags, names and sizes. -/

namespace TensorGraph

/-- The element type of a tensor buffer. -/
inductive DType
  | boolean
  | i32
  | i64
  | bf16
  | f16
  | f32
  deriving DecidableEq, Repr

namespace DType

/-- Every element type, in tag order. -/
def all : List DType :=
  [boolean, i32, i64, bf16, f16, f32]

/-- The number under which an element type crosses a call boundary. -/
def tag : DType → Nat
  | boolean => 0
  | i32 => 1
  | i64 => 2
  | bf16 => 3
  | f16 => 4
  | f32 => 5

/-- The element type with the given tag. -/
def ofTag? (number : Nat) : Option DType :=
  all[number]?

def name : DType → String
  | boolean => "boolean"
  | i32 => "i32"
  | i64 => "i64"
  | bf16 => "bf16"
  | f16 => "f16"
  | f32 => "f32"

/-- Bytes taken by one element. -/
def byteSize : DType → Nat
  | boolean => 1
  | i32 => 4
  | i64 => 8
  | bf16 => 2
  | f16 => 2
  | f32 => 4

/-- The floating-point types. -/
def isReal : DType → Bool
  | bf16 | f16 | f32 => true
  | _ => false

/-- The signed integer types. -/
def isIntegral : DType → Bool
  | i32 | i64 => true
  | _ => false

/-- The types with arithmetic: all but the truth values. -/
def isNumeric : DType → Bool
  | boolean => false
  | _ => true

theorem mem_all (dtype : DType) : dtype ∈ all := by
  cases dtype <;> simp [all]

@[simp]
theorem ofTag?_tag (dtype : DType) : ofTag? dtype.tag = some dtype := by
  cases dtype <;> rfl

theorem byteSize_pos (dtype : DType) : 0 < dtype.byteSize := by
  cases dtype <;> decide

theorem isNumeric_eq_isReal_or_isIntegral (dtype : DType)
    : dtype.isNumeric = (dtype.isReal || dtype.isIntegral) := by
  cases dtype <;> rfl

end DType

end TensorGraph
