import TensorGraph.Floating.Exponential
import TensorGraph.NonMaxSuppression.Candidate
import TensorGraph.Tensor.Error
import TensorGraph.Word

/-! Greedy selection of boxes that do not overlap too much.

The best waiting box is compared with the boxes selected since it was last compared. Each overlap
lowers its score, and an overlap at the threshold drops it. A box whose score stayed the same is
selected; a box with a lowered score goes back to the queue.
-/

namespace TensorGraph.NonMaxSuppression

/-- The attributes and limits of a selection. -/
structure Parameters where
  encoding : BoxEncoding := .corner
  maxPerClass : Nat := 0
  overlapThreshold : Binary32 := .zero false
  scoreThreshold : Binary32 := .zero false
  /-- The width of the decay of scores; decay is off unless it is positive. -/
  sigma : Binary32 := .zero false
  sortDescending : Bool := true
  deriving DecidableEq, Repr

/-- A selected box with the score under which it was selected. -/
structure Selected where
  batch : Nat
  label : Nat
  index : Nat
  score : Binary32
  deriving DecidableEq, Repr

namespace Parameters

def minusHalf : Binary32 :=
  .ofRatio true 1 2 0

/-- The factor of the squared overlap in the exponent of the decay. -/
def decayScale (parameters : Parameters) : Binary32 :=
  if (Floating.zero false).less parameters.sigma then minusHalf.div parameters.sigma
  else .zero false

/-- The factor by which an overlap lowers a score. -/
def decay (parameters : Parameters) (overlap : Binary32) : Binary32 :=
  if overlap.lessOrSame parameters.overlapThreshold then
    ((parameters.decayScale.mul overlap).mul overlap).exp
  else .zero false

/-- Lowers a score by the overlaps with the given boxes, in order, until an overlap reaches its
threshold or the score falls to its threshold. Tells whether an overlap reached its threshold.
-/
def lower (parameters : Parameters) (box : Box) : List Box → Binary32 → Binary32 × Bool
  | [], score => (score, false)
  | kept :: rest, score =>
      let overlap := box.overlap kept
      let lowered := score.mul (parameters.decay overlap)
      if parameters.overlapThreshold.lessOrSame overlap then (lowered, true)
      else if lowered.lessOrSame parameters.scoreThreshold then (lowered, false)
      else parameters.lower box rest lowered

end Parameters

/-- What becomes of the best waiting box. -/
inductive Verdict
  /-- It is selected under the given score. -/
  | select (score : Binary32)
  /-- It waits again, with the given lower score. -/
  | postpone (score : Binary32)
  | drop
  deriving DecidableEq, Repr

/-- Compares the best waiting box with the selections, latest first, that it was not compared with
before.
-/
def judge (parameters : Parameters) (selected : List Candidate) (next : Candidate) : Verdict :=
  let unchecked := selected.take (selected.length - next.checked)
  match parameters.lower next.box (unchecked.map Candidate.box) next.score with
  | (_, true) => .drop
  | (score, false) =>
      if score.same next.score then .select score
      else if parameters.scoreThreshold.less score then .postpone score
      else .drop

/-- A number equals itself. -/
theorem same_self_of_less {format : FloatFormat} {x y : Floating format} (less : x.less y)
    : y.same y := by
  simp only [Floating.less, Bool.and_eq_true] at less
  simp [Floating.same, less.1.2]

/-- A box waits again only after a comparison with a new selection. -/
theorem checked_lt_of_postpone {parameters : Parameters} {selected : List Candidate}
    {next : Candidate} {score : Binary32}
    (verdict : judge parameters selected next = .postpone score)
    : next.checked < selected.length := by
  refine Nat.lt_of_not_le fun fresh => ?_
  simp only [judge, Nat.sub_eq_zero_of_le fresh, List.take_zero, List.map_nil,
    Parameters.lower] at verdict
  split at verdict
  · exact Verdict.noConfusion verdict
  next unequal =>
    split at verdict
    next above => exact unequal (same_self_of_less above)
    · exact Verdict.noConfusion verdict

/-- The candidates of a queue that have not been compared with every selection. -/
def outdated (selections : Nat) (waiting : List Candidate) : Nat :=
  waiting.countP fun candidate => candidate.checked < selections

theorem outdated_enqueue (selections : Nat) (candidate : Candidate) (waiting : List Candidate)
    : outdated selections (candidate.enqueue waiting)
      = outdated selections (candidate :: waiting) :=
  (candidate.enqueue_perm waiting).countP_eq _

set_option linter.unusedVariables false in
/-- Selects from a queue, given the earlier selections, latest first; the result lists all
selections, latest first. A verdict shortens the queue, or makes a candidate wait that was then
compared with every selection.
-/
def selectFrom (parameters : Parameters) (waiting : List Candidate) (selected : List Candidate)
    : List Candidate :=
  match waiting with
  | [] => selected
  | next :: rest =>
      if parameters.maxPerClass ≤ selected.length then selected
      else
        match verdict : judge parameters selected next with
        | .drop => selectFrom parameters rest selected
        | .select score =>
            selectFrom parameters rest (next.rescored score selected.length :: selected)
        | .postpone score =>
            selectFrom parameters ((next.rescored score selected.length).enqueue rest) selected
termination_by (waiting.length, outdated selected.length waiting)
decreasing_by
  · exact .left _ _ (Nat.lt_succ_self _)
  · exact .left _ _ (Nat.lt_succ_self _)
  · have stale := checked_lt_of_postpone verdict
    rw [Candidate.length_enqueue, outdated_enqueue]
    apply Prod.Lex.right
    simp [outdated, Candidate.rescored, stale]

/-- The selections of one class of one batch, in the order in which they were made. -/
def selectClass (parameters : Parameters) (boxes : List Box) (scores : List Binary32)
    : List Candidate :=
  (selectFrom parameters (Candidate.queue parameters.scoreThreshold boxes scores) []).reverse

/-- The results of a number of steps from `place` on, one after the other. -/
def collect {α : Type} (step : Nat → Except Fault (List α))
    : (steps place : Nat) → Except Fault (List α)
  | 0, _ => .ok []
  | steps + 1, place => do
      let here ← step place
      let later ← collect step steps (place + 1)
      .ok (here ++ later)

/-- The selections of one class of one batch, whose scores are cut out of those of all classes. Each
score has a box, because the boxes were cut out for as many.
-/
def selectLabel (parameters : Parameters) (labels count : Nat) (decoded : List Box)
    (scores : List Binary32) (batch label : Nat)
    : Except Fault (List Selected) := do
  let offset := placeWithin scores.length ((batch * labels + label) * count)
  let own ← slice scores offset count
  .ok ((selectClass parameters decoded own).map fun candidate =>
    ⟨batch, label, candidate.index, candidate.score⟩)

/-- The selections of every class of one batch, whose boxes are cut out of those of all batches. -/
def selectBatch (parameters : Parameters) (labels count : Nat) (boxes scores : List Binary32)
    (batch : Nat)
    : Except Fault (List Selected) := do
  let offset := placeWithin boxes.length (batch * count * 4)
  let numbers ← slice boxes offset (placeWithin boxes.length (count * 4))
  let decoded := Box.decodeAll parameters.encoding numbers
  collect (selectLabel parameters labels count decoded scores batch) labels 0

/-- Descending by score in the total order of patterns, then ascending by batch, class and index.
-/
def Selected.compare (x y : Selected) : Ordering :=
  (y.score.totalCompare x.score).then
    ((Ord.compare x.batch y.batch).then
      ((Ord.compare x.label y.label).then (Ord.compare x.index y.index)))

/-- Whether `x` may stand before `y` in descending order. -/
def Selected.before (x y : Selected) : Bool :=
  (x.compare y).isLE

/-- The number of batches, classes and boxes that two shapes describe: boxes `[B, N, 4]` and
scores `[B, C, N]`.
-/
def extents (boxesDims scoresDims : List Nat) : Except TensorError (Nat × Nat × Nat) :=
  match boxesDims with
  | [batches, count, 4] =>
      match scoresDims with
      | [scoreBatches, labels, scoreCount] =>
          if scoreBatches = batches ∧ scoreCount = count then .ok (batches, labels, count)
          else .error (.shapeMismatch [batches, 0, count] scoresDims)
      | _ => .error (.shapeMismatch [batches, 0, count] scoresDims)
  | _ =>
      .error (.other
        ("boxes must have shape [batches, boxes, 4], got " ++ bracketed boxesDims))

/-- Selects boxes for each batch and class. The selections come in the order in which they were
made or, on request, with the best scores first. Lengths are compared as machine words.
-/
def select (boxes : List Binary32) (boxesDims : List Nat) (scores : List Binary32)
    (scoresDims : List Nat) (parameters : Parameters)
    : Except (Failure TensorError) (List Selected) := do
  let (batches, labels, count) ← orFailure (extents boxesDims scoresDims)
  let boxCount := word (batches * count * 4)
  let scoreCount := word (batches * labels * count)
  if word boxes.length ≠ boxCount then
    .error (.error (.lengthMismatch boxCount (word boxes.length)))
  else if word scores.length ≠ scoreCount then
    .error (.error (.lengthMismatch scoreCount (word scores.length)))
  else
    let selected ← orFault (collect (selectBatch parameters labels count boxes scores) batches 0)
    if parameters.sortDescending then .ok (selected.mergeSort Selected.before) else .ok selected

end TensorGraph.NonMaxSuppression
