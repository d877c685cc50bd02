import TensorGraph.Proofs.Floating.Exponential
import TensorGraph.Proofs.NonMaxSuppression.Safety

/-! Soft suppression only lowers scores, and the selections of a class come out best first.

The score of a waiting candidate may be out of date, but it is never too low. So a candidate in
front whose score is up to date is at least as good as all others.
-/

namespace TensorGraph.NonMaxSuppression

variable {parameters : Parameters} {overlap score : Binary32}

-----------------------------------------------------------------------------------------
-- The decay of a score
-----------------------------------------------------------------------------------------

namespace Parameters

/-- The scale of the decay has a negative sign or is the positive zero, by the cases of a quotient.
-/
theorem decayScale_sign (parameters : Parameters)
    : parameters.decayScale.negative = true ∨ parameters.decayScale.isZero = true := by
  unfold decayScale
  split
  next positive =>
    obtain ⟨-, number, above⟩ := Floating.less_iff.mp positive
    rw [Floating.position_zero] at above
    have some : parameters.sigma.isZero = false := by
      rw [Floating.isZero, decide_eq_false_iff_not, ← Floating.natAbs_position]
      omega
    rw [Floating.negative_div (by decide +kernel) number some,
      Floating.negative_of_position_pos above]
    exact .inl (by decide +kernel)
  · exact .inr (Floating.isZero_zero false)

/-- The exponent of the decay is not a number or not positive. -/
theorem exponent_nonpositive (parameters : Parameters) (overlap : Binary32)
    : ((parameters.decayScale.mul overlap).mul overlap).isNaN = true
      ∨ ((parameters.decayScale.mul overlap).mul overlap).position ≤ 0 := by
  rcases parameters.decayScale_sign with signed | none
  · rcases Floating.negative_mul parameters.decayScale overlap with nan | first
    · exact .inl (Floating.isNaN_mul_left nan overlap)
    · rcases Floating.negative_mul (parameters.decayScale.mul overlap) overlap with nan | second
      · exact .inl nan
      · refine .inr (Floating.position_nonpositive ?_)
        rw [second, first, signed]
        cases overlap.negative <;> rfl
  · by_cases finite : overlap.isFinite = true
    · rw [Floating.mul_of_isZero none finite,
        Floating.mul_of_isZero (Floating.isZero_zero _) finite, Floating.position_zero]
      exact .inr le_rfl
    · exact .inl (Floating.isNaN_mul_left (Floating.isNaN_mul_of_isZero none finite) overlap)

/-- A factor of the decay is not a number or lies between 0 and 1. -/
theorem decay_between (parameters : Parameters) (overlap : Binary32)
    : (parameters.decay overlap).isNaN = true
      ∨ 0 ≤ (parameters.decay overlap).position
        ∧ (parameters.decay overlap).position ≤ (Floating.one : Binary32).position := by
  unfold decay
  split
  · cases number : ((parameters.decayScale.mul overlap).mul overlap).isNaN with
    | true => exact .inl (Floating.isNaN_exp number)
    | false =>
        have nonpositive :=
          (parameters.exponent_nonpositive overlap).resolve_left (by simp [number])
        exact .inr (Floating.exp_between number nonpositive).2
  · exact .inr (by decide +kernel)

/-- An overlap turns a positive score into one that is not a number or not higher. -/
theorem mul_decay_position_le (parameters : Parameters) (number : score.isNaN = false)
    (positive : 0 < score.position) (overlap : Binary32)
    : (score.mul (parameters.decay overlap)).isNaN = true
      ∨ (score.mul (parameters.decay overlap)).position ≤ score.position := by
  rcases parameters.decay_between overlap with nan | ⟨nonneg, small⟩
  · exact .inl (Floating.isNaN_mul_right score nan)
  · exact Floating.position_mul_le number positive nonneg small

theorem isNaN_lower (nan : score.isNaN = true) (box : Box) (kept : List Box)
    : (parameters.lower box kept score).1.isNaN = true := by
  induction kept generalizing score with
  | nil => exact nan
  | cons first rest ih =>
      have lowered := Floating.isNaN_mul_left nan (parameters.decay (box.overlap first))
      rw [lower]
      split
      · exact lowered
      · split
        · exact lowered
        · exact ih lowered

/-- The same holds for all overlaps together, by induction on the boxes: the score stays positive
as long as it is above the threshold.
-/
theorem lower_position_le
    (nonneg : (Floating.zero false).lessOrSame parameters.scoreThreshold = true)
    (number : score.isNaN = false) (positive : 0 < score.position) (box : Box) (kept : List Box)
    : (parameters.lower box kept score).1.isNaN = true
      ∨ (parameters.lower box kept score).1.position ≤ score.position := by
  induction kept generalizing score with
  | nil => exact .inr le_rfl
  | cons first rest ih =>
      rw [lower]
      cases lowered : (score.mul (parameters.decay (box.overlap first))).isNaN with
      | true =>
          split
          · exact .inl lowered
          · split
            · exact .inl lowered
            · exact .inl (isNaN_lower lowered box rest)
      | false =>
          have step :=
            (parameters.mul_decay_position_le number positive (box.overlap first)).resolve_left
              (by simp [lowered])
          split
          · exact .inr step
          · split
            · exact .inr step
            next high =>
              obtain ⟨-, threshold, start⟩ := Floating.lessOrSame_iff.mp nonneg
              rw [Floating.position_zero] at start
              have above := (Floating.lessOrSame_eq_false_iff lowered threshold).mp
                (Bool.eq_false_iff.mpr high)
              have positiveStill := lt_of_le_of_lt start (Floating.less_iff.mp above).2.2
              exact (ih lowered positiveStill).imp_right fun bound => bound.trans step

end Parameters

-----------------------------------------------------------------------------------------
-- What each turn keeps
-----------------------------------------------------------------------------------------

variable {boxes : List Box} {scores : List Binary32}
variable {next candidate : Candidate} {waiting selected rest : List Candidate}

/-- What the turns of a selection keep with a threshold that is not negative: no waiting candidate
is better than one in front of it or than a selection.
-/
structure Descending (scores : List Binary32) (waiting selected : List Candidate) : Prop where
  ahead : waiting.Pairwise Candidate.Ahead
  lowered
    : ∀ candidate ∈ waiting ++ selected,
        ∃ score,
          scores[candidate.index]? = some score ∧ candidate.score.lessOrSame score = true
  behind
    : ∀ candidate ∈ waiting, ∀ kept ∈ selected, candidate.score.lessOrSame kept.score = true
  descending
    : selected.Pairwise fun later earlier => later.score.lessOrSame earlier.score = true

/-- A candidate that is kept has a score that is not higher than before. -/
theorem lessOrSame_of_keeps
    (nonneg : (Floating.zero false).lessOrSame parameters.scoreThreshold = true)
    (standing : parameters.scoreThreshold.less next.score = true)
    (verdict : (judge parameters selected next).Keeps score)
    : score.lessOrSame next.score = true := by
  obtain ⟨done, above⟩ := lower_of_keeps standing verdict
  obtain ⟨-, -, start⟩ := Floating.lessOrSame_iff.mp nonneg
  obtain ⟨-, number, high⟩ := Floating.less_iff.mp standing
  obtain ⟨-, numberToo, -⟩ := Floating.less_iff.mp above
  rw [Floating.position_zero] at start
  have bound := Parameters.lower_position_le nonneg number (lt_of_le_of_lt start high) next.box
    ((next.unchecked selected).map Candidate.box)
  rw [done] at bound
  exact Floating.lessOrSame_iff.mpr
    ⟨numberToo, number, bound.resolve_left (by simp [numberToo])⟩

/-- Each turn keeps the order, by cases on the turn. -/
theorem Descending.turn
    (nonneg : (Floating.zero false).lessOrSame parameters.scoreThreshold = true)
    {waitingNext selectedNext : List Candidate}
    (turn : Turn parameters waiting selected waitingNext selectedNext)
    (sound : Sound parameters boxes scores waiting selected)
    (descending : Descending scores waiting selected)
    : Descending scores waitingNext selectedNext := by
  have standing (candidate : Candidate) (member : candidate ∈ waiting)
      : parameters.scoreThreshold.less candidate.score = true :=
    (sound.stands candidate (List.mem_append_left _ member)).above
  have number (candidate : Candidate) (member : candidate ∈ waiting)
      : candidate.score.isNaN = false :=
    (Floating.less_iff.mp (standing candidate member)).2.1
  have lowered := turn.all descending.lowered fun next member score verdict =>
    have ⟨start, scored, bound⟩ := descending.lowered next (List.mem_append_left _ member)
    have notHigher := lessOrSame_of_keeps nonneg (standing next member) verdict
    ⟨start, scored, Floating.lessOrSame_trans notHigher bound⟩
  cases turn with
  | drop room verdict =>
      exact ⟨(List.pairwise_cons.mp descending.ahead).2, lowered,
        fun candidate member => descending.behind candidate (List.mem_cons_of_mem _ member),
        descending.descending⟩
  | @select next _ _ score room verdict =>
      obtain ⟨first, ahead⟩ := List.pairwise_cons.mp descending.ahead
      have same := same_of_select verdict
      refine ⟨ahead, lowered, ?_, List.pairwise_cons.mpr ⟨?_, descending.descending⟩⟩
      · intro candidate member kept selection
        rcases List.mem_cons.mp selection with rfl | earlier
        · have inOrder : candidate.score.lessOrSame next.score = true :=
            Floating.lessOrSame_iff.mpr
              ⟨number candidate (List.mem_cons_of_mem _ member), number next List.mem_cons_self,
                (first candidate member).position_le⟩
          exact Floating.lessOrSame_trans inOrder
            (Floating.lessOrSame_of_same (Floating.same_symm same))
        · exact descending.behind candidate (List.mem_cons_of_mem _ member) kept earlier
      · intro kept earlier
        exact Floating.lessOrSame_trans (Floating.lessOrSame_of_same same)
          (descending.behind next List.mem_cons_self kept earlier)
  | @postpone next _ _ score room verdict =>
      have notHigher := lessOrSame_of_keeps nonneg (standing next List.mem_cons_self) (.inr verdict)
      refine ⟨Candidate.enqueue_ahead (List.pairwise_cons.mp descending.ahead).2, lowered, ?_,
        descending.descending⟩
      intro candidate member kept earlier
      rcases Candidate.mem_enqueue.mp member with rfl | other
      · exact Floating.lessOrSame_trans notHigher
          (descending.behind next List.mem_cons_self kept earlier)
      · exact descending.behind candidate (List.mem_cons_of_mem _ other) kept earlier

theorem descending_queue (parameters : Parameters) (boxes : List Box) (scores : List Binary32)
    : Descending scores (Candidate.queue parameters.scoreThreshold boxes scores) [] := by
  refine ⟨Candidate.queue_ahead, ?_, fun _ _ kept earlier => absurd earlier List.not_mem_nil, .nil⟩
  intro candidate member
  rw [List.append_nil, Candidate.mem_queue] at member
  obtain ⟨-, scored, above, -⟩ := member
  exact ⟨_, scored, Floating.lessOrSame_iff.mpr
    ⟨(Floating.less_iff.mp above).2.1, (Floating.less_iff.mp above).2.1, le_rfl⟩⟩

theorem descending_selectClass
    (nonneg : (Floating.zero false).lessOrSame parameters.scoreThreshold = true)
    (boxes : List Box) (scores : List Binary32)
    : (selectClass parameters boxes scores).Pairwise (fun earlier later =>
        later.score.lessOrSame earlier.score = true)
      ∧ ∀ candidate ∈ selectClass parameters boxes scores,
          ∃ score,
            scores[candidate.index]? = some score ∧ candidate.score.lessOrSame score = true := by
  obtain ⟨left, -, descending⟩ :=
    selectFrom_keeps
      (fun waiting selected =>
        Sound parameters boxes scores waiting selected ∧ Descending scores waiting selected)
      (fun turn kept => ⟨kept.1.turn turn, kept.2.turn nonneg turn kept.1⟩)
      ⟨sound_queue parameters boxes scores, descending_queue parameters boxes scores⟩
  constructor
  · rw [selectClass, List.pairwise_reverse]
    exact descending.descending
  · intro candidate member
    exact descending.lowered candidate
      (List.mem_append_right _ (List.mem_reverse.mp member))

-----------------------------------------------------------------------------------------
-- Every selection
-----------------------------------------------------------------------------------------

/-- The selections of each class come out best first, under scores that are not higher than those
that the boxes had.
-/
theorem select_descending {boxes scores : List Binary32} {boxesDims scoresDims : List Nat}
    {batches labels count : Nat}
    (fits : Fits boxes boxesDims scores scoresDims batches labels count) (parameters : Parameters)
    (nonneg : (Floating.zero false).lessOrSame parameters.scoreThreshold = true)
    : ∃ selected,
        select boxes boxesDims scores scoresDims { parameters with sortDescending := false }
          = .ok selected
        ∧ (∀ batch < batches,
            ∀ label < labels,
              (ofClass batch label selected).Pairwise fun earlier later =>
                later.score.lessOrSame earlier.score = true)
        ∧ ∀ entry ∈ selected,
            ∃ score,
              scoreAt? labels count scores entry.batch entry.label entry.index = some score
              ∧ entry.score.lessOrSame score = true := by
  refine ⟨_, fits.select_unsorted parameters, ?_, ?_⟩
  · intro batch inside label insideToo
    rw [ofClass_selectAll inside insideToo, List.pairwise_map]
    exact (descending_selectClass nonneg _ _).1
  · intro entry member
    obtain ⟨batch, inside, label, -, candidate, selected, rfl⟩ := mem_selectAll.mp member
    obtain ⟨score, scored, bound⟩ := (descending_selectClass nonneg _ _).2 candidate selected
    rw [getElem?_classScores (fits.stands inside selected).1] at scored
    exact ⟨score, scored, bound⟩

/-- Overlaps are below the threshold here, but lower the scores. -/
def softTwinParameters : Parameters :=
  { maxPerClass := 3, overlapThreshold := .ofNat 2, sigma := .one }

/-- The other twin waits again under a lower score, and is selected then. -/
theorem select_softTwins
    : select twinBoxes [1, 3, 4] twinScores [1, 1, 3]
        { softTwinParameters with sortDescending := false }
      = .ok [⟨0, 0, 1, .ofNat 5⟩, ⟨0, 0, 0, .ofBits 0x3fe8e864⟩] := by
  have first
      : Turn softTwinParameters [⟨twin, 1, .ofNat 5, 0⟩, ⟨twin, 0, .ofNat 3, 0⟩] []
          [⟨twin, 0, .ofNat 3, 0⟩] [⟨twin, 1, .ofNat 5, 0⟩] :=
    .select (by decide) (by decide +kernel)
  have second
      : Turn softTwinParameters [⟨twin, 0, .ofNat 3, 0⟩] [⟨twin, 1, .ofNat 5, 0⟩]
          [⟨twin, 0, .ofBits 0x3fe8e864, 1⟩] [⟨twin, 1, .ofNat 5, 0⟩] :=
    .postpone (by decide) (by decide +kernel)
  have third
      : Turn softTwinParameters [⟨twin, 0, .ofBits 0x3fe8e864, 1⟩] [⟨twin, 1, .ofNat 5, 0⟩] []
          [⟨twin, 0, .ofBits 0x3fe8e864, 1⟩, ⟨twin, 1, .ofNat 5, 0⟩] :=
    .select (by decide) (by decide +kernel)
  rw [select_twins_eq rfl rfl, first.selectFrom_eq, second.selectFrom_eq, third.selectFrom_eq,
    selectFrom]
  rfl

theorem select_softTwins_descending
    : (Floating.zero false).lessOrSame softTwinParameters.scoreThreshold = true
      ∧ ([⟨0, 0, 1, .ofNat 5⟩, ⟨0, 0, 0, .ofBits 0x3fe8e864⟩] : List Selected).Pairwise
          (fun earlier later => later.score.lessOrSame earlier.score = true)
      ∧ ∃ score,
          scoreAt? 1 3 twinScores 0 0 0 = some score
          ∧ (Floating.ofBits 0x3fe8e864 : Binary32).lessOrSame score = true := by
  have nonneg : (Floating.zero false).lessOrSame softTwinParameters.scoreThreshold = true := by
    decide
  obtain ⟨selected, done, descending, lowered⟩ :=
    select_descending fits_twins softTwinParameters nonneg
  cases done.symm.trans select_softTwins
  exact ⟨nonneg, descending 0 (by decide) 0 (by decide),
    lowered ⟨0, 0, 0, .ofBits 0x3fe8e864⟩ (by simp)⟩

end TensorGraph.NonMaxSuppression
