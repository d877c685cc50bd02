import Mathlib.Data.List.Nodup
import TensorGraph.NonMaxSuppression.Selection
import TensorGraph.Proofs.Floating.Format

/-! The queue of candidates: it holds the boxes above the threshold, and nobody in it waits behind
a candidate with a lower key.
-/

namespace TensorGraph.NonMaxSuppression.Candidate

variable {x y z candidate : Candidate} {waiting : List Candidate}

-----------------------------------------------------------------------------------------
-- The order of candidates
-----------------------------------------------------------------------------------------

/-- A candidate may leave the queue before another one: by a higher score in the total order of
patterns, or by an index that is not higher under the same score.
-/
def Ahead (x y : Candidate) : Prop :=
  y.score.rank < x.score.rank ∨ y.score.rank = x.score.rank ∧ x.index ≤ y.index

theorem precedes_iff
    : x.precedes y = true
      ↔ y.score.rank < x.score.rank ∨ y.score.rank = x.score.rank ∧ x.index < y.index := by
  simp [precedes, compare, Floating.totalCompare, Ordering.then_eq_lt, Int.compare_eq_lt,
    Nat.compare_eq_lt]

theorem Ahead.trans (first : Ahead x y) (second : Ahead y z) : Ahead x z := by
  unfold Ahead at *
  omega

theorem ahead_of_precedes (before : x.precedes y = true) : Ahead x y := by
  rw [precedes_iff] at before
  unfold Ahead
  omega

theorem ahead_of_not_precedes (before : ¬x.precedes y = true) : Ahead y x := by
  rw [precedes_iff] at before
  unfold Ahead
  omega

theorem Ahead.position_le (ahead : Ahead x y) : y.score.position ≤ x.score.position := by
  apply Floating.position_le_of_rank_le
  unfold Ahead at ahead
  omega

-----------------------------------------------------------------------------------------
-- Waiting
-----------------------------------------------------------------------------------------

theorem mem_enqueue : x ∈ candidate.enqueue waiting ↔ x = candidate ∨ x ∈ waiting := by
  rw [(enqueue_perm candidate waiting).mem_iff, List.mem_cons]

/-- A candidate is put behind all that are ahead of it, by induction on the queue. -/
theorem enqueue_ahead (sorted : waiting.Pairwise Ahead)
    : (candidate.enqueue waiting).Pairwise Ahead := by
  induction waiting with
  | nil => exact List.pairwise_singleton _ _
  | cons head rest ih =>
      obtain ⟨first, sortedRest⟩ := List.pairwise_cons.mp sorted
      rw [enqueue]
      split
      next before =>
        refine List.pairwise_cons.mpr ⟨?_, ih sortedRest⟩
        intro other member
        rcases mem_enqueue.mp member with rfl | waits
        · exact ahead_of_precedes before
        · exact first other waits
      next before =>
        refine List.pairwise_cons.mpr ⟨?_, sorted⟩
        intro other member
        have ahead := ahead_of_not_precedes before
        rcases List.mem_cons.mp member with rfl | waits
        · exact ahead
        · exact ahead.trans (first other waits)

-----------------------------------------------------------------------------------------
-- The queue at the start
-----------------------------------------------------------------------------------------

/-- The boxes of one class whose score is above a threshold, by index. -/
def eligible (threshold : Binary32) (boxes : List Box) (scores : List Binary32)
    : List Candidate :=
  (boxes.zip scores).zipIdx.filterMap fun ((box, score), index) =>
    if threshold.less score then some ⟨box, index, score, 0⟩ else none

variable {threshold : Binary32} {boxes : List Box} {scores : List Binary32}

theorem mem_eligible
    : x ∈ eligible threshold boxes scores
      ↔ boxes[x.index]? = some x.box
        ∧ scores[x.index]? = some x.score
        ∧ threshold.less x.score = true
        ∧ x.checked = 0 := by
  simp only [eligible, List.mem_filterMap, Prod.exists, List.mem_zipIdx_iff_getElem?,
    List.getElem?_zip_eq_some, Option.ite_none_right_eq_some, Option.some.injEq]
  constructor
  · rintro ⟨box, score, index, ⟨known, scored⟩, above, rfl⟩
    exact ⟨known, scored, above, rfl⟩
  · rintro ⟨known, scored, above, fresh⟩
    refine ⟨x.box, x.score, x.index, ⟨known, scored⟩, above, ?_⟩
    rw [← fresh]

theorem pairwise_index_eligible (threshold : Binary32) (boxes : List Box)
    (scores : List Binary32)
    : (eligible threshold boxes scores).Pairwise fun x y => x.index < y.index := by
  have places : ((boxes.zip scores).zipIdx.map Prod.snd).Pairwise (· < ·) := by
    rw [List.zipIdx_map_snd]
    exact List.pairwise_lt_range'
  rw [eligible, List.pairwise_filterMap]
  refine (List.pairwise_map.mp places).imp ?_
  rintro ⟨⟨box, score⟩, index⟩ ⟨⟨boxToo, scoreToo⟩, indexToo⟩ before x found y foundToo
  obtain ⟨-, made⟩ := Option.ite_none_right_eq_some.mp found
  obtain ⟨-, madeToo⟩ := Option.ite_none_right_eq_some.mp foundToo
  cases made
  cases madeToo
  exact before

theorem queue_perm : (queue threshold boxes scores).Perm (eligible threshold boxes scores) := by
  change ((eligible threshold boxes scores).foldr enqueue []).Perm _
  induction eligible threshold boxes scores with
  | nil => exact .refl _
  | cons head rest ih => exact (enqueue_perm head _).trans (ih.cons head)

theorem queue_ahead : (queue threshold boxes scores).Pairwise Ahead := by
  change ((eligible threshold boxes scores).foldr enqueue []).Pairwise Ahead
  induction eligible threshold boxes scores with
  | nil => exact .nil
  | cons head rest ih => exact enqueue_ahead ih

theorem mem_queue
    : x ∈ queue threshold boxes scores
      ↔ boxes[x.index]? = some x.box
        ∧ scores[x.index]? = some x.score
        ∧ threshold.less x.score = true
        ∧ x.checked = 0 :=
  queue_perm.mem_iff.trans mem_eligible

theorem nodup_index_queue (threshold : Binary32) (boxes : List Box) (scores : List Binary32)
    : ((queue threshold boxes scores).map Candidate.index).Nodup := by
  rw [(queue_perm.map _).nodup_iff, List.nodup_iff_pairwise_ne, List.pairwise_map]
  exact (pairwise_index_eligible threshold boxes scores).imp Nat.ne_of_lt

end TensorGraph.NonMaxSuppression.Candidate
