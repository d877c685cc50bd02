import TensorGraph.Host.Session
import TensorGraph.Proofs.Traversal

/-! What the arguments of a call stand for: when they can be read, and how they are refused. -/

namespace TensorGraph.Host

/-- No refusal is reported as a success, by cases on what is refused. -/
theorem Refusal.status_ne_ok (refusal : Refusal) : refusal.status ≠ .ok := by
  cases refusal with
  | argument reason => simp [status]
  | graph cause => cases cause <;> simp [status, Status.ofGraphError]
  | fault stop => simp [status]

/-- The elements that are passed by an address and a number. No elements need no address. -/
inductive Reads {α : Type} : Address (List α) → (count : Nat) → List α → Prop
  | nothing {address : Address (List α)} : Reads address 0 []
  | stored {memory : List α} {count : Nat} : Reads (some memory) count (memory.take count)

/-- What is read depends on the address and the number, by cases on how it is read. -/
theorem Reads.unique {α : Type} {address : Address (List α)} {count : Nat}
    {elements others : List α} (reads : Reads address count elements)
    (again : Reads address count others)
    : elements = others := by
  cases reads <;> cases again <;> simp

theorem slice_eq_ok_iff {α : Type} {address : Address (List α)} {count : Nat} {what : String}
    {elements : List α}
    : slice address count what = .ok elements ↔ Reads address count elements := by
  constructor
  · intro read
    unfold slice at read
    split at read
    next zero =>
      cases read
      exact zero ▸ .nothing
    · split at read
      · cases read
      · cases read
        exact .stored
  · intro reads
    cases reads with
    | nothing => rfl
    | @stored memory =>
        unfold slice
        split
        next zero => simp [zero]
        · rfl

/-- Elements are refused only if they have no address. -/
theorem slice_eq_error {α : Type} {address : Address (List α)} {count : Nat} {what : String}
    {refusal : Refusal} (refused : slice address count what = .error refusal)
    : refusal = .argument (what ++ " is null") := by
  unfold slice at refused
  split at refused
  · cases refused
  · split at refused
    · cases refused
      rfl
    · cases refused

theorem slices_eq_ok_iff {α β : Type} {first : Except Refusal α} {second : Except Refusal β}
    {x : α} {y : β}
    : slices first second = .ok (x, y) ↔ first = .ok x ∧ second = .ok y := by
  cases first <;> cases second <;> simp [slices]

theorem slices_eq_error {α β : Type} {first : Except Refusal α} {second : Except Refusal β}
    {refusal : Refusal} (refused : slices first second = .error refusal)
    : first = .error refusal ∨ second = .error refusal := by
  cases first <;> cases second <;> simp_all [slices]

theorem required_eq_ok_iff {context : Address Context} {addressed : Bool} {present : Context}
    : required context addressed = .ok present ↔ context = some present ∧ addressed = true := by
  cases context <;> cases addressed <;> simp [required]

theorem required_eq_error {context : Address Context} {addressed : Bool} {refusal : Refusal}
    (refused : required context addressed = .error refusal)
    : refusal = .argument "null argument" := by
  cases context <;> cases addressed <;> simp [required] at refused <;> exact refused.symm

theorem elementType_eq_ok_iff {tag : Nat} {dtype : DType}
    : elementType tag = .ok dtype ↔ DType.ofTag? tag = some dtype := by
  unfold elementType
  cases DType.ofTag? tag <;> simp

theorem elementType_eq_error {tag : Nat} {refusal : Refusal}
    (refused : elementType tag = .error refusal)
    : refusal = .argument s!"unknown element type tag {tag}" := by
  unfold elementType at refused
  split at refused
  · cases refused
  · cases refused
    rfl

theorem reductionKind_eq_ok_iff {tag : Nat} {kind : Reduction.Kind}
    : reductionKind tag = .ok kind ↔ Reduction.Kind.ofTag? tag = some kind := by
  unfold reductionKind
  cases Reduction.Kind.ofTag? tag <;> simp

theorem reductionKind_eq_error {tag : Nat} {refusal : Refusal}
    (refused : reductionKind tag = .error refusal)
    : refusal = .argument s!"unknown reduction kind {tag}" := by
  unfold reductionKind at refused
  split at refused
  · cases refused
  · cases refused
    rfl

theorem graphRefusal_eq_ok_iff {α : Type} {outcome : Except GraphError α} {value : α}
    : graphRefusal outcome = .ok value ↔ outcome = .ok value :=
  mapError_eq_ok_iff

theorem graphRefusal_eq_error_iff {α : Type} {outcome : Except GraphError α} {refusal : Refusal}
    : graphRefusal outcome = .error refusal
      ↔ ∃ cause, outcome = .error cause ∧ refusal = .graph cause := by
  cases outcome <;> simp [graphRefusal, Except.mapError, eq_comm]

end TensorGraph.Host
