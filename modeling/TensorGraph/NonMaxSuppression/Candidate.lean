import TensorGraph.NonMaxSuppression.Box

/-! Boxes waiting to be selected, in a queue with the best one in front. -/

namespace TensorGraph.NonMaxSuppression

/-- A box of one class of one batch that may still be selected. -/
structure Candidate where
  box : Box
  index : Nat
  score : Binary32
  /-- The number of selections that the score already takes into account. -/
  checked : Nat
  deriving DecidableEq, Repr

namespace Candidate

/-- The candidate under a score that takes the given number of selections into account. -/
def rescored (candidate : Candidate) (score : Binary32) (selections : Nat) : Candidate :=
  { candidate with score := score, checked := selections }

/-- Ascending by score in the total order of patterns; of equal scores the lower index is higher.
-/
def compare (x y : Candidate) : Ordering :=
  (x.score.totalCompare y.score).then (Ord.compare y.index x.index)

/-- Whether `x` leaves the queue before `y`. -/
def precedes (x y : Candidate) : Bool :=
  y.compare x = .lt

/-- Puts a candidate at its place in a queue. -/
def enqueue (candidate : Candidate) : List Candidate → List Candidate
  | [] => [candidate]
  | head :: rest =>
      if head.precedes candidate then head :: enqueue candidate rest
      else candidate :: head :: rest

/-- The queue of the boxes of one class whose score is above a threshold. -/
def queue (threshold : Binary32) (boxes : List Box) (scores : List Binary32)
    : List Candidate :=
  ((boxes.zip scores).zipIdx.filterMap fun ((box, score), index) =>
    if threshold.less score then some ⟨box, index, score, 0⟩ else none).foldr enqueue []

theorem enqueue_perm (candidate : Candidate) (waiting : List Candidate)
    : (enqueue candidate waiting).Perm (candidate :: waiting) := by
  induction waiting with
  | nil => exact .refl _
  | cons head rest ih =>
      simp only [enqueue]
      split
      · exact (ih.cons head).trans (.swap candidate head rest)
      · exact .refl _

theorem length_enqueue (candidate : Candidate) (waiting : List Candidate)
    : (enqueue candidate waiting).length = waiting.length + 1 :=
  (enqueue_perm candidate waiting).length_eq

end Candidate

end TensorGraph.NonMaxSuppression
