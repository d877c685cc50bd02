import TensorGraph.Proofs.Reduction.Kernel
import TensorGraph.Proofs.Reduction.Slots

/-! What a reduction does to its buffer.

Seen from the buffer a reduction works in place: it checks its arguments, overwrites the buffer and
then folds one element after the other into it. It is refused before the first write or it
completes, and then each slot holds the fold over its elements.
-/

namespace TensorGraph.Reduction

variable {α β ε : Type}

-----------------------------------------------------------------------------------------
-- Working in place
-----------------------------------------------------------------------------------------

/-- The walk on a buffer: what the slots hold when it ends, and the fault that ended it early. -/
def walkInto (combine : α → α → α)
    : List Wheel → (slot : Nat) → (held values : List α) → List α × Option Fault
  | _, _, held, [] => (held, none)
  | odometer, slot, held, value :: rest =>
      match held[slot]? with
      | none => (held, some .indexOutOfRange)
      | some current =>
          let written := held.set slot (combine current value)
          match turn odometer slot with
          | .error fault => (written, some fault)
          | .ok (turned, next) => walkInto combine turned next written rest

/-- A reduction on a buffer: what the buffer holds when it ends, and why it failed if it did. -/
def foldInto (combine : α → α → α) (start : α) (argument out : List α) (shape : Shape)
    (axes : AxisSet) (keepDims : Bool)
    : List α × Option (Failure TensorError) :=
  match checkArguments argument.length out.length shape axes keepDims with
  | .error cause => (out, some (.error cause))
  | .ok () =>
      let (held, fault) :=
        walkInto combine (wheels shape axes) 0 (List.replicate out.length start) argument
      (held, fault.map .fault)

/-- The answer of a run on a buffer: the contents of the buffer, unless the run failed. -/
def answer : β × Option ε → Except ε β
  | (held, none) => .ok held
  | (_, some failure) => .error failure

theorem answer_eq_ok_iff {run : β × Option ε} {held : β}
    : answer run = .ok held ↔ run = (held, none) := by
  rcases run with ⟨contents, _ | failure⟩ <;> simp [answer]

/-- A walk is the answer of the walk on a buffer, by induction on the values. -/
theorem walk_eq_answer (combine : α → α → α) (odometer : List Wheel) (slot : Nat)
    (held values : List α)
    : walk combine odometer slot held values
      = answer (walkInto combine odometer slot held values) := by
  induction values generalizing odometer slot held with
  | nil => rw [walk, walkInto, answer]
  | cons value rest ih =>
      rw [walk, walkInto]
      cases held[slot]? with
      | none => rfl
      | some current =>
          cases turn odometer slot with
          | error fault => rfl
          | ok moved => exact ih moved.1 moved.2 _

/-- A reduction is the answer of the reduction on a buffer. -/
theorem fold_eq_answer (combine : α → α → α) (start : α) (argument out : List α) (shape : Shape)
    (axes : AxisSet) (keepDims : Bool)
    : fold combine start argument out shape axes keepDims
      = answer (foldInto combine start argument out shape axes keepDims) := by
  rw [fold, foldInto]
  cases checkArguments argument.length out.length shape axes keepDims with
  | error cause => rfl
  | ok _ =>
      rw [walk_eq_answer]
      rcases walkInto combine (wheels shape axes) 0 (List.replicate out.length start) argument
        with ⟨held, _ | fault⟩ <;> rfl

-----------------------------------------------------------------------------------------
-- Refused or completed
-----------------------------------------------------------------------------------------

/-- The arguments of a reduction do not fit together: a length is not the one that the shape asks
for, or the largest axis is not below the rank.
-/
def Unfit (argument out : List α) (shape : Shape) (axes : AxisSet) (keepDims : Bool) : Prop :=
  argument.length ≠ shape.numel
  ∨ out.length ≠ (shape.reduce axes keepDims).numel
  ∨ ∃ axis, axes.max? = some axis ∧ shape.rank ≤ axis

theorem checkAxes_eq_ok_iff {shape : Shape} {axes : AxisSet}
    : checkAxes shape axes = .ok () ↔ ¬ ∃ axis, axes.max? = some axis ∧ shape.rank ≤ axis := by
  rw [checkAxes]
  cases axes.max? with
  | none => simp
  | some axis =>
      by_cases below : axis < shape.rank
      · simp [below]
      · simp [below, Nat.le_of_not_lt below]

theorem fitting_of_not_unfit {argument out : List α} {shape : Shape} {axes : AxisSet}
    {keepDims : Bool} (fit : ¬ Unfit argument out shape axes keepDims)
    : Fitting argument out shape axes keepDims := by
  obtain ⟨arguments, others⟩ := not_or.mp fit
  obtain ⟨outs, inRank⟩ := not_or.mp others
  exact ⟨not_not.mp arguments, not_not.mp outs, checkAxes_eq_ok_iff.mpr inRank⟩

section Checks

variable {argument out : List α} {shape : Shape}
variable (fits : shape.Fits) (short : argument.length < twoPow 64)
variable (shortToo : out.length < twoPow 64)
include fits short shortToo

/-- Where no number and no product loses bits, the checks compare the lengths with the numbers of
elements.
-/
theorem checkArguments_eq (axes : AxisSet) (keepDims : Bool)
    : checkArguments argument.length out.length shape axes keepDims
      = if argument.length ≠ shape.numel then
          .error (.lengthMismatch shape.numel argument.length)
        else if out.length ≠ (shape.reduce axes keepDims).numel then
          .error (.shapeMismatch (shape.reduce axes keepDims).dims [out.length])
        else checkAxes shape axes := by
  rw [checkArguments, fits.count_eq, (fits.reduce axes keepDims).count_eq, word_of_lt short,
    word_of_lt shortToo]

/-- Arguments that do not fit are refused, by the first check that fails. -/
theorem checkArguments_of_unfit {axes : AxisSet} {keepDims : Bool}
    (unfit : Unfit argument out shape axes keepDims)
    : ∃ cause,
        checkArguments argument.length out.length shape axes keepDims = .error cause := by
  rw [checkArguments_eq fits short shortToo]
  by_cases arguments : argument.length = shape.numel
  · by_cases outs : out.length = (shape.reduce axes keepDims).numel
    · rw [if_neg (not_not.mpr arguments), if_neg (not_not.mpr outs)]
      have refused : checkAxes shape axes ≠ .ok () := by
        rw [Ne, checkAxes_eq_ok_iff, not_not]
        exact (unfit.resolve_left (not_not.mpr arguments)).resolve_left (not_not.mpr outs)
      cases checked : checkAxes shape axes with
      | error cause => exact ⟨cause, rfl⟩
      | ok _ => exact absurd checked refused
    · rw [if_neg (not_not.mpr arguments), if_pos outs]
      exact ⟨_, rfl⟩
  · rw [if_pos arguments]
    exact ⟨_, rfl⟩

/-- With and without the reduced axes the outcome is the same, unless the length of the buffer is
refused: then each names the extents that it expects.
-/
theorem foldInto_keepDims (combine : α → α → α) (start : α) (axes : AxisSet)
    : foldInto combine start argument out shape axes true
        = foldInto combine start argument out shape axes false
      ∨ ∀ keepDims,
          foldInto combine start argument out shape axes keepDims
          = (out,
              some
                (.error (.shapeMismatch (shape.reduce axes keepDims).dims [out.length]))) := by
  by_cases arguments : argument.length = shape.numel
  · by_cases outs : out.length = (shape.reduce axes false).numel
    · have same
          : checkArguments argument.length out.length shape axes true
            = checkArguments argument.length out.length shape axes false := by
        rw [checkArguments_eq fits short shortToo, checkArguments_eq fits short shortToo,
          shape.numel_reduce axes true, if_neg (not_not.mpr outs), if_neg (not_not.mpr outs)]
      exact .inl (by rw [foldInto, foldInto, same])
    · refine .inr fun keepDims => ?_
      rw [← shape.numel_reduce axes keepDims] at outs
      rw [foldInto, checkArguments_eq fits short shortToo, if_neg (not_not.mpr arguments),
        if_pos outs]
  · refine .inl ?_
    simp only [foldInto, checkArguments_eq fits short shortToo, if_pos arguments]

end Checks

theorem foldInto_of_checked {argument out : List α} {shape : Shape} {axes : AxisSet}
    {keepDims : Bool} (combine : α → α → α) (start : α)
    (fitting : Fitting argument out shape axes keepDims)
    : foldInto combine start argument out shape axes keepDims
      = (slots combine start argument shape axes, none) := by
  have counted : out.length = (shape.reduce axes false).numel :=
    fitting.out.trans (shape.numel_reduce axes keepDims)
  have walked := walk_eq_slots combine start fitting.argument counted
  rw [walk_eq_answer, answer_eq_ok_iff] at walked
  rw [foldInto, fitting.checkArguments]
  simp only [walked, Option.map_none]

theorem fold_of_fitting {argument out : List α} {shape : Shape} {axes : AxisSet}
    {keepDims : Bool} (combine : α → α → α) (start : α)
    (fitting : Fitting argument out shape axes keepDims)
    : fold combine start argument out shape axes keepDims
      = .ok (slots combine start argument shape axes) := by
  rw [fold_eq_answer, foldInto_of_checked combine start fitting, answer]

/-- A reduction is refused exactly if its arguments do not fit, and then the buffer is as before;
otherwise each slot holds the fold over its elements. Every element goes to exactly one slot, and
the slots share the elements evenly.
-/
theorem fold_by_coordinates (combine : α → α → α) (start : α) {argument out : List α}
    {shape : Shape} (fits : shape.Fits) (short : argument.length < twoPow 64)
    (shortToo : out.length < twoPow 64) (axes : AxisSet)
    : (∀ keepDims,
        (Unfit argument out shape axes keepDims
          → ∃ cause,
              fold combine start argument out shape axes keepDims = .error (.error cause)
              ∧ foldInto combine start argument out shape axes keepDims
                = (out, some (.error cause)))
        ∧ (¬ Unfit argument out shape axes keepDims
          → fold combine start argument out shape axes keepDims
              = .ok (slots combine start argument shape axes)
            ∧ foldInto combine start argument out shape axes keepDims
              = (slots combine start argument shape axes, none)
            ∧ out.length = (slots combine start argument shape axes).length))
      ∧ (∀ place < shape.numel,
          ∃! slot, slot < (shape.reduce axes false).numel ∧ place ∈ members shape axes slot)
      ∧ (∀ slot < (shape.reduce axes false).numel,
          (members shape axes slot).length = shape.reducedCount axes)
      ∧ (foldInto combine start argument out shape axes true
            = foldInto combine start argument out shape axes false
          ∨ ∀ keepDims,
              foldInto combine start argument out shape axes keepDims
              = (out,
                  some
                    (.error
                      (.shapeMismatch (shape.reduce axes keepDims).dims [out.length])))) := by
  refine ⟨fun keepDims => ⟨?_, ?_⟩, fun _ => existsUnique_slot, fun _ => length_members,
    foldInto_keepDims fits short shortToo combine start axes⟩
  · intro unfit
    obtain ⟨cause, refused⟩ := checkArguments_of_unfit fits short shortToo unfit
    have unchanged
        : foldInto combine start argument out shape axes keepDims
          = (out, some (.error cause)) := by
      rw [foldInto, refused]
    refine ⟨cause, ?_, unchanged⟩
    rw [fold_eq_answer, unchanged, answer]
  · intro fit
    have fitting := fitting_of_not_unfit fit
    have completed := foldInto_of_checked combine start fitting
    refine ⟨?_, completed, ?_⟩
    · rw [fold_eq_answer, completed, answer]
    · rw [slots, List.length_map, List.length_range, fitting.out, shape.numel_reduce axes keepDims]

/-- The sums of two rows. -/
theorem fold_by_coordinates_rows
    : Shape.Fits ⟨[2, 3]⟩
      ∧ ¬ Unfit [(1 : Int32), 2, 3, 4, 5, 6] [7, 7] ⟨[2, 3]⟩ (.ofList [1]) false
      ∧ fold (· + ·) 0 [(1 : Int32), 2, 3, 4, 5, 6] [7, 7] ⟨[2, 3]⟩ (.ofList [1]) false
        = .ok [6, 15] := by
  have fits : Shape.Fits ⟨[2, 3]⟩ := by decide
  have fit : ¬ Unfit [(1 : Int32), 2, 3, 4, 5, 6] [7, 7] ⟨[2, 3]⟩ (.ofList [1]) false := by
    rintro (lengths | lengths | ⟨axis, largest, beyond⟩)
    · exact lengths rfl
    · exact lengths rfl
    · cases largest
      exact absurd beyond (by decide)
  have short : [(1 : Int32), 2, 3, 4, 5, 6].length < twoPow 64 := by decide
  have shortToo : [(7 : Int32), 7].length < twoPow 64 := by decide
  obtain ⟨outcome, -⟩ := fold_by_coordinates (· + ·) 0 fits short shortToo (.ofList [1])
  exact ⟨fits, fit, ((outcome false).2 fit).1⟩

/-- A buffer with three slots does not fit the sum of two numbers. With and without the reduced axis
other extents are named as the expected ones. Four numbers pass for as many as extents ask for whose
product loses bits, and then the third one has no slot.
-/
theorem exists_refusals_different
    : sum [(1 : Int32), 2] [7, 7, 7] ⟨[2]⟩ (.ofList [0]) true
        = .error (.error (.shapeMismatch [1] [3]))
      ∧ sum [(1 : Int32), 2] [7, 7, 7] ⟨[2]⟩ (.ofList [0]) false
        = .error (.error (.shapeMismatch [] [3]))
      ∧ sum [(1 : Int32), 2] [7, 7, 7] ⟨[2]⟩ (.ofList [0]) true
        ≠ sum [(1 : Int32), 2] [7, 7, 7] ⟨[2]⟩ (.ofList [0]) false
      ∧ Shape.count ⟨[2, twoPow 63 + 1, 2]⟩ = 4
      ∧ sum [(1 : Int32), 2, 3, 4] [7, 7] ⟨[2, twoPow 63 + 1, 2]⟩ (.ofList [0]) false
        = .error (.fault .indexOutOfRange) := by
  have kept
      : sum [(1 : Int32), 2] [7, 7, 7] ⟨[2]⟩ (.ofList [0]) true
        = .error (.error (.shapeMismatch [1] [3])) :=
    rfl
  have dropped
      : sum [(1 : Int32), 2] [7, 7, 7] ⟨[2]⟩ (.ofList [0]) false
        = .error (.error (.shapeMismatch [] [3])) :=
    rfl
  refine ⟨kept, dropped, ?_, by decide, rfl⟩
  rw [kept, dropped]
  simp

end TensorGraph.Reduction
