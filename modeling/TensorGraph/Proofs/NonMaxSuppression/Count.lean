import Mathlib.Data.List.Basic
import TensorGraph.Proofs.NonMaxSuppression.Pieces
import TensorGraph.Shape

/-! How many boxes a selection can have: in each class of each batch no more than the limit and no
more than there are boxes.
-/

namespace TensorGraph.NonMaxSuppression

/-- Each selection uses up a waiting box, by induction on the selection. -/
theorem length_selectFrom_le_waiting (parameters : Parameters) (waiting selected : List Candidate)
    : (selectFrom parameters waiting selected).length ≤ waiting.length + selected.length := by
  fun_induction selectFrom parameters waiting selected with
  | case1 selected => simp
  | case2 selected next rest full => simp
  | case3 selected next rest room verdict ih =>
      rw [List.length_cons]
      omega
  | case4 selected next rest room score verdict ih =>
      rw [List.length_cons] at ih ⊢
      omega
  | case5 selected next rest room score verdict ih =>
      rw [Candidate.length_enqueue] at ih
      exact ih

/-- The selections stop at the limit, by induction on the selection. -/
theorem length_selectFrom_le_limit (parameters : Parameters) (waiting : List Candidate)
    {selected : List Candidate} (within : selected.length ≤ parameters.maxPerClass)
    : (selectFrom parameters waiting selected).length ≤ parameters.maxPerClass := by
  fun_induction selectFrom parameters waiting selected with
  | case1 selected => exact within
  | case2 selected next rest full => exact within
  | case3 selected next rest room verdict ih => exact ih within
  | case4 selected next rest room score verdict ih =>
      apply ih
      rw [List.length_cons]
      omega
  | case5 selected next rest room score verdict ih => exact ih within

theorem length_queue_le (threshold : Binary32) (boxes : List Box) (scores : List Binary32)
    : (Candidate.queue threshold boxes scores).length ≤ scores.length := by
  have enqueued (candidates : List Candidate)
      : (candidates.foldr Candidate.enqueue []).length = candidates.length := by
    induction candidates with
    | nil => rfl
    | cons head rest ih => rw [List.foldr_cons, Candidate.length_enqueue, ih, List.length_cons]
  rw [Candidate.queue, enqueued]
  refine Nat.le_trans (List.length_filterMap_le _ _) ?_
  rw [List.length_zipIdx, List.length_zip]
  exact Nat.min_le_right _ _

theorem length_selectClass_le (parameters : Parameters) (boxes : List Box)
    (scores : List Binary32)
    : (selectClass parameters boxes scores).length
      ≤ min parameters.maxPerClass scores.length := by
  rw [selectClass, List.length_reverse]
  refine Nat.le_min.mpr ⟨length_selectFrom_le_limit parameters _ (Nat.zero_le _), ?_⟩
  have used := length_selectFrom_le_waiting parameters
    (Candidate.queue parameters.scoreThreshold boxes scores) []
  have queued := length_queue_le parameters.scoreThreshold boxes scores
  rw [List.length_nil] at used
  omega

/-- The selections of all classes are bounded by those that each class can have. -/
theorem length_collect_selectBatch_le {parameters : Parameters} {batches labels count : Nat}
    {boxes scores : List Binary32} {selected : List Selected}
    (done : collect (selectBatch parameters labels count boxes scores) batches 0 = .ok selected)
    : selected.length ≤ batches * labels * min parameters.maxPerClass count := by
  rw [Nat.mul_assoc]
  refine length_collect_le (fun batch ofBatch cut => ?_) done
  simp only [selectBatch, bind_eq_ok_iff] at cut
  obtain ⟨numbers, -, cut⟩ := cut
  refine length_collect_le (fun label ofLabel cut => ?_) cut
  obtain ⟨-, own, few, length⟩ := selectLabel_cut cut
  rw [length]
  have most := length_selectClass_le parameters (Box.decodeAll parameters.encoding numbers) own
  omega

/-- Where no score is above the threshold, nothing waits and nothing is selected. -/
theorem selectAll_eq_nil {parameters : Parameters} {scores : List Binary32}
    (low : ∀ score ∈ scores, parameters.scoreThreshold.less score = false)
    (batches labels count : Nat) (boxes : List Binary32)
    : selectAll parameters batches labels count boxes scores = [] := by
  have unqueued (decoded : List Box) (place : Nat)
      : Candidate.queue parameters.scoreThreshold decoded (piece count place scores) = [] := by
    refine (congrArg _ (List.filterMap_eq_nil_iff.mpr ?_)).trans List.foldr_nil
    rintro ⟨⟨box, score⟩, index⟩ member
    have zipped := List.mem_of_getElem? (List.mem_zipIdx_iff_getElem?.mp member)
    have listed : score ∈ scores :=
      List.mem_of_mem_drop (List.mem_of_mem_take (List.of_mem_zip zipped).2)
    simp [low score listed]
  simp [selectAll, selectClass, unqueued, selectFrom]

/-- Boxes and scores that are as many as their shapes ask for can be selected from. -/
theorem select_of_lengths {batches labels count : Nat} {boxes scores : List Binary32}
    (boxCount : boxes.length = batches * count * 4)
    (scoreCount : scores.length = batches * labels * count) (parameters : Parameters)
    : ∃ selected,
        select boxes [batches, count, 4] scores [batches, labels, count] parameters
        = .ok selected := by
  have extents : extents [batches, count, 4] [batches, labels, count]
      = .ok (batches, labels, count) := by
    simp [NonMaxSuppression.extents]
  simp only [select, extents, boxCount, scoreCount, collect_selectBatch boxCount scoreCount,
    orFailure, orFault, Except.mapError, bind, Except.bind, ne_eq, not_true_eq_false, if_false]
  split
  · exact ⟨_, rfl⟩
  · exact ⟨_, rfl⟩

/-- Shapes that fit together describe batches, classes and boxes. -/
theorem extents_eq_ok {boxesDims scoresDims : List Nat} {batches labels count : Nat}
    (described : extents boxesDims scoresDims = .ok (batches, labels, count))
    : boxesDims = [batches, count, 4] ∧ scoresDims = [batches, labels, count] := by
  unfold extents at described
  split at described
  · split at described
    · split at described
      next same =>
        obtain ⟨rfl, rfl⟩ := same
        cases described
        exact ⟨rfl, rfl⟩
      · cases described
    · cases described
  · cases described

/-- Boxes and scores that are as many as their shapes ask for are selected from without a fault. -/
theorem select_ne_fault {boxes scores : List Binary32} {boxesDims scoresDims : List Nat}
    (boxCount : boxes.length = Shape.numel ⟨boxesDims⟩)
    (scoreCount : scores.length = Shape.numel ⟨scoresDims⟩) (parameters : Parameters)
    (fault : Fault)
    : select boxes boxesDims scores scoresDims parameters ≠ .error (.fault fault) := by
  intro stopped
  cases described : extents boxesDims scoresDims with
  | error cause =>
      simp [select, described, orFailure, Except.mapError, bind, Except.bind] at stopped
  | ok sizes =>
      obtain ⟨batches, labels, count⟩ := sizes
      obtain ⟨rfl, rfl⟩ := extents_eq_ok described
      simp only [Shape.numel, Shape.product_cons, Shape.product_nil, Nat.mul_one,
        ← Nat.mul_assoc] at boxCount scoreCount
      obtain ⟨selected, done⟩ := select_of_lengths boxCount scoreCount parameters
      rw [done] at stopped
      cases stopped

/-- A selection has boxes and scores that fit together, and no more boxes than the limits allow. The
scores are as many as their extents ask for: were they fewer, a class would miss its scores.
-/
theorem select_eq_ok {boxes scores : List Binary32} {boxesDims scoresDims : List Nat}
    {parameters : Parameters} {selected : List Selected}
    (done : select boxes boxesDims scores scoresDims parameters = .ok selected)
    (short : scores.length < twoPow 64)
    : ∃ batches labels count,
        boxesDims = [batches, count, 4]
        ∧ scoresDims = [batches, labels, count]
        ∧ scores.length = batches * labels * count
        ∧ selected.length ≤ batches * labels * min parameters.maxPerClass count := by
  simp only [select, bind_eq_ok_iff, orFailure_eq_ok_iff] at done
  obtain ⟨⟨batches, labels, count⟩, described, done⟩ := done
  have dims := extents_eq_ok described
  split at done
  · cases done
  · split at done
    · cases done
    next scoreCount =>
      simp only [bind_eq_ok_iff, orFault_eq_ok_iff] at done
      obtain ⟨all, collected, done⟩ := done
      have enough := scoreCount_le_of_collect collected
      have bound := length_collect_selectBatch_le collected
      have exact : scores.length = batches * labels * count := by
        have words := not_not.mp scoreCount
        rwa [word_of_lt short, word_of_lt (Nat.lt_of_le_of_lt enough short)] at words
      refine ⟨batches, labels, count, dims.1, dims.2, exact, ?_⟩
      split at done
      · cases done
        rw [List.length_mergeSort]
        exact bound
      · cases done
        exact bound

/-- There are no more selections than scores. -/
theorem length_select_le {boxes scores : List Binary32} {boxesDims scoresDims : List Nat}
    {parameters : Parameters} {selected : List Selected}
    (done : select boxes boxesDims scores scoresDims parameters = .ok selected)
    (short : scores.length < twoPow 64)
    : selected.length ≤ scores.length := by
  obtain ⟨batches, labels, count, -, -, scoreCount, most⟩ := select_eq_ok done short
  rw [scoreCount]
  exact Nat.le_trans most (Nat.mul_le_mul_left _ (Nat.min_le_right _ _))

end TensorGraph.NonMaxSuppression
