import TensorGraph.Proofs.NonMaxSuppression.Safety

/-! Batches and classes are selected from independently of each other.

A selection lists, batch by batch and class by class, what each class is selected to on its own. So
the boxes of other batches and the scores of other classes do not matter to a class.
-/

namespace TensorGraph.NonMaxSuppression

variable {boxes scores otherBoxes otherScores ownBoxes ownScores : List Binary32}
variable {batches labels count batch label : Nat} {boxesDims scoresDims : List Nat}

-----------------------------------------------------------------------------------------
-- One class on its own
-----------------------------------------------------------------------------------------

/-- The boxes `[1, N, 4]` of one batch and the scores `[1, 1, N]` of one of its classes, taken from
the boxes `[B, N, 4]` and scores `[B, C, N]` of all.
-/
structure PartOf (labels count : Nat) (boxes scores : List Binary32) (batch label : Nat)
    (ownBoxes ownScores : List Binary32)
    : Prop where
  boxCount : ownBoxes.length = count * 4
  scoreCount : ownScores.length = count
  boxes
    : ∀ index < count,
        ∀ number < 4,
          ownBoxes[index * 4 + number]? = boxes[(batch * count + index) * 4 + number]?
  scores : ∀ index < count, ownScores[index]? = scores[(batch * labels + label) * count + index]?

/-- A list that has the entries of a piece is the piece. -/
theorem eq_piece {α : Type} {size place : Nat} {own values : List α} (length : own.length = size)
    (entries : ∀ index < size, own[index]? = values[place * size + index]?)
    : own = piece size place values := by
  apply List.ext_getElem?
  intro index
  rcases Nat.lt_or_ge index size with inside | beyond
  · rw [entries index inside, getElem?_piece inside]
  · have short : (piece size place values).length ≤ size := List.length_take_le _ _
    rw [List.getElem?_eq_none (by omega), List.getElem?_eq_none (by omega)]

theorem PartOf.boxes_eq (part : PartOf labels count boxes scores batch label ownBoxes ownScores)
    : ownBoxes = piece (count * 4) batch boxes := by
  apply eq_piece part.boxCount
  intro place inside
  have entry := part.boxes (place / 4) (by omega) (place % 4) (Nat.mod_lt _ (by decide))
  have whole : (batch * count + place / 4) * 4 + place % 4 = batch * (count * 4) + place := by
    rw [Nat.add_mul, Nat.mul_assoc, Nat.add_assoc, Nat.div_add_mod']
  rwa [Nat.div_add_mod', whole] at entry

theorem PartOf.scores_eq (part : PartOf labels count boxes scores batch label ownBoxes ownScores)
    : ownScores = piece count (batch * labels + label) scores :=
  eq_piece part.scoreCount part.scores

/-- A list of one piece is that piece. -/
theorem piece_self {α : Type} {size : Nat} {values : List α} (length : values.length = size)
    : piece size 0 values = values := by
  rw [piece, Nat.zero_mul, List.drop_zero, ← length, List.take_length]

/-- The pieces of boxes and scores that fit together are the parts of the classes. -/
theorem Fits.part (fits : Fits boxes boxesDims scores scoresDims batches labels count)
    (inside : batch < batches) (insideToo : label < labels)
    : PartOf labels count boxes scores batch label (piece (count * 4) batch boxes)
        (piece count (batch * labels + label) scores) where
  boxCount := length_piece (fits.boxCount.trans (Nat.mul_assoc ..)) inside
  scoreCount := fits.length_classScores inside insideToo
  boxes index below number few := by
    rw [getElem?_piece (by omega), Nat.add_mul, Nat.mul_assoc, Nat.add_assoc]
  scores index below := getElem?_piece below

theorem PartOf.fits (part : PartOf labels count boxes scores batch label ownBoxes ownScores)
    : Fits ownBoxes [1, count, 4] ownScores [1, 1, count] 1 1 count where
  described := by simp [extents]
  boxCount := by rw [part.boxCount, Nat.one_mul]
  scoreCount := by rw [part.scoreCount, Nat.mul_one, Nat.one_mul]

/-- A class is selected to the same on its own. -/
theorem PartOf.classSelections
    (part : PartOf labels count boxes scores batch label ownBoxes ownScores)
    (parameters : Parameters)
    : classSelections parameters 1 count ownBoxes ownScores 0 0
      = classSelections parameters labels count boxes scores batch label := by
  rw [NonMaxSuppression.classSelections, NonMaxSuppression.classSelections, Nat.zero_mul,
    Nat.add_zero, piece_self part.boxCount, piece_self part.scoreCount, ← part.boxes_eq,
    ← part.scores_eq]

-----------------------------------------------------------------------------------------
-- The classes together
-----------------------------------------------------------------------------------------

/-- The entry under another batch and class. -/
def Selected.relabelled (batch label : Nat) (entry : Selected) : Selected :=
  { entry with batch := batch, label := label }

/-- What a class is selected to on its own. -/
def ownSelections (parameters : Parameters) (labels count : Nat) (boxes scores : List Binary32)
    (batch label : Nat)
    : List Selected :=
  (classSelections parameters labels count boxes scores batch label).map (Candidate.entry 0 0)

theorem PartOf.select (part : PartOf labels count boxes scores batch label ownBoxes ownScores)
    (parameters : Parameters)
    : select ownBoxes [1, count, 4] ownScores [1, 1, count]
        { parameters with sortDescending := false }
      = .ok (ownSelections parameters labels count boxes scores batch label) := by
  rw [part.fits.select_unsorted, selectAll_eq, List.range_one, List.flatMap_singleton,
    List.flatMap_singleton, part.classSelections]
  rfl

/-- All selections are those of the classes on their own, relabelled. -/
theorem selectAll_eq_relabelled (parameters : Parameters) (batches labels count : Nat)
    (boxes scores : List Binary32)
    : selectAll parameters batches labels count boxes scores
      = (List.range batches).flatMap fun batch =>
          (List.range labels).flatMap fun label =>
            (ownSelections parameters labels count boxes scores batch label).map
              (Selected.relabelled batch label) := by
  simp only [selectAll_eq, ownSelections, List.map_map]
  rfl

-----------------------------------------------------------------------------------------
-- What other classes do not change
-----------------------------------------------------------------------------------------

/-- Two lists of boxes and scores agree in a batch and in one of its classes. -/
structure AgreeAt (labels count : Nat) (boxes scores otherBoxes otherScores : List Binary32)
    (batch label : Nat)
    : Prop where
  boxes
    : ∀ index < count,
        ∀ number < 4,
          otherBoxes[(batch * count + index) * 4 + number]?
          = boxes[(batch * count + index) * 4 + number]?
  scores
    : ∀ index < count,
        scoreAt? labels count otherScores batch label index
        = scoreAt? labels count scores batch label index

/-- Lists that agree at a class have the same part for it. -/
theorem AgreeAt.part (agree : AgreeAt labels count boxes scores otherBoxes otherScores batch label)
    (part : PartOf labels count otherBoxes otherScores batch label ownBoxes ownScores)
    : PartOf labels count boxes scores batch label ownBoxes ownScores where
  boxCount := part.boxCount
  scoreCount := part.scoreCount
  boxes index below number few := (part.boxes index below number few).trans
    (agree.boxes index below number few)
  scores index below := (part.scores index below).trans (agree.scores index below)

/-- Lists of the same entries in which each entry outranks the later ones are the same. -/
theorem eq_of_outranks {xs ys : List Selected} (same : xs.Perm ys)
    (first : xs.Pairwise Selected.Outranks) (second : ys.Pairwise Selected.Outranks)
    : xs = ys := by
  refine same.eq_of_pairwise ?_ first second
  intro x y _ _ before after
  unfold Selected.Outranks at before after
  omega

/-- Sorting the selections sorts those of each class. -/
theorem ofClass_mergeSort {selected : List Selected}
    (distinct : (selected.map Selected.place).Nodup) (batch label : Nat)
    : ofClass batch label (selected.mergeSort Selected.before)
      = (ofClass batch label selected).mergeSort Selected.before := by
  have sublist : (ofClass batch label selected).Sublist selected := List.filter_sublist
  refine eq_of_outranks ?_ ((pairwise_mergeSort distinct).filter _)
    (pairwise_mergeSort (distinct.sublist (sublist.map Selected.place)))
  exact ((List.mergeSort_perm selected _).filter _).trans (List.mergeSort_perm _ _).symm

/-- Classes in which boxes and scores agree are selected to the same. -/
theorem AgreeAt.ofClass_selectAll
    (agree : AgreeAt labels count boxes scores otherBoxes otherScores batch label)
    (otherFits : Fits otherBoxes boxesDims otherScores scoresDims batches labels count)
    (inside : batch < batches) (insideToo : label < labels) (parameters : Parameters)
    : ofClass batch label (selectAll parameters batches labels count otherBoxes otherScores)
      = ofClass batch label (selectAll parameters batches labels count boxes scores) := by
  have part := otherFits.part inside insideToo
  rw [NonMaxSuppression.ofClass_selectAll inside insideToo,
    NonMaxSuppression.ofClass_selectAll inside insideToo, ← part.classSelections,
    ← (agree.part part).classSelections]

-----------------------------------------------------------------------------------------
-- Every selection
-----------------------------------------------------------------------------------------

/-- A selection is the concatenation, by batch and class, of the selections of the classes on their
own. So a class is selected to the same whatever the other batches and classes hold.
-/
theorem select_independent
    (fits : Fits boxes boxesDims scores scoresDims batches labels count) (parameters : Parameters)
    : (∃ own : Nat → Nat → List Selected,
        select boxes boxesDims scores scoresDims { parameters with sortDescending := false }
          = .ok
              ((List.range batches).flatMap fun batch =>
                (List.range labels).flatMap fun label =>
                  (own batch label).map (Selected.relabelled batch label))
        ∧ ∀ batch < batches,
            ∀ label < labels,
              (∃ ownBoxes ownScores,
                PartOf labels count boxes scores batch label ownBoxes ownScores)
              ∧ ∀ ownBoxes ownScores,
                  PartOf labels count boxes scores batch label ownBoxes ownScores
                  → select ownBoxes [1, count, 4] ownScores [1, 1, count]
                      { parameters with sortDescending := false }
                    = .ok (own batch label))
      ∧ ∀ otherBoxes otherScores,
          Fits otherBoxes boxesDims otherScores scoresDims batches labels count
          → ∃ selected otherSelected,
              select boxes boxesDims scores scoresDims parameters = .ok selected
              ∧ select otherBoxes boxesDims otherScores scoresDims parameters
                = .ok otherSelected
              ∧ ∀ batch < batches,
                  ∀ label < labels,
                    AgreeAt labels count boxes scores otherBoxes otherScores batch label
                    → ofClass batch label otherSelected = ofClass batch label selected := by
  refine ⟨⟨ownSelections parameters labels count boxes scores, ?_, ?_⟩, ?_⟩
  · rw [fits.select_unsorted, selectAll_eq_relabelled]
  · intro batch inside label insideToo
    exact ⟨⟨_, _, fits.part inside insideToo⟩, fun _ _ part => part.select parameters⟩
  · intro otherBoxes otherScores otherFits
    refine ⟨_, _, fits.select_eq parameters, otherFits.select_eq parameters, ?_⟩
    intro batch inside label insideToo agree
    have unsorted := agree.ofClass_selectAll otherFits inside insideToo parameters
    split
    · rw [ofClass_mergeSort (nodup_place_selectAll ..), unsorted,
        ofClass_mergeSort (nodup_place_selectAll ..)]
    · exact unsorted

/-- Three scores that are not above the usual threshold. -/
def lowScores : List Binary32 :=
  List.replicate 3 (.zero false)

theorem select_lowScores
    : select twinBoxes [1, 3, 4] lowScores [1, 1, 3] { twinParameters with sortDescending := false }
      = .ok [] := by
  have fits : Fits twinBoxes [1, 3, 4] lowScores [1, 1, 3] 1 1 3 := ⟨rfl, rfl, rfl⟩
  have low : ∀ score ∈ lowScores, twinParameters.scoreThreshold.less score = false := by
    decide +kernel
  rw [fits.select_unsorted, selectAll_eq_nil low]

/-- In each of two batches the twins are selected from in the second class only. -/
theorem select_twins_independent
    : Fits (twinBoxes ++ twinBoxes) [2, 3, 4] (lowScores ++ twinScores ++ lowScores ++ twinScores)
        [2, 2, 3] 2 2 3
      ∧ select (twinBoxes ++ twinBoxes) [2, 3, 4]
          (lowScores ++ twinScores ++ lowScores ++ twinScores) [2, 2, 3]
          { twinParameters with sortDescending := false }
        = .ok [⟨0, 1, 1, .ofNat 5⟩, ⟨1, 1, 1, .ofNat 5⟩] := by
  have fits
      : Fits (twinBoxes ++ twinBoxes) [2, 3, 4]
          (lowScores ++ twinScores ++ lowScores ++ twinScores) [2, 2, 3] 2 2 3 :=
    ⟨rfl, rfl, rfl⟩
  obtain ⟨⟨own, done, parts⟩, -⟩ := select_independent fits twinParameters
  have part {batch label : Nat} (inside : batch < 2) {ownScores : List Binary32}
      (placed : label = 0 ∧ ownScores = lowScores ∨ label = 1 ∧ ownScores = twinScores)
      : PartOf 2 3 (twinBoxes ++ twinBoxes) (lowScores ++ twinScores ++ lowScores ++ twinScores)
          batch label twinBoxes ownScores := by
    obtain rfl | rfl : batch = 0 ∨ batch = 1 := by omega
    all_goals
      rcases placed with ⟨rfl, rfl⟩ | ⟨rfl, rfl⟩
      all_goals exact ⟨rfl, rfl, by decide +kernel, by decide +kernel⟩
  have low (batch : Nat) (inside : batch < 2) : own batch 0 = [] := by
    have alone := (parts batch inside 0 (by decide)).2 _ _ (part inside (.inl ⟨rfl, rfl⟩))
    exact (Except.ok.inj (select_lowScores.symm.trans alone)).symm
  have high (batch : Nat) (inside : batch < 2) : own batch 1 = [⟨0, 0, 1, .ofNat 5⟩] := by
    have alone := (parts batch inside 1 (by decide)).2 _ _ (part inside (.inr ⟨rfl, rfl⟩))
    exact (Except.ok.inj (select_twins.symm.trans alone)).symm
  refine ⟨fits, done.trans ?_⟩
  simp [List.range_succ, low, high, Selected.relabelled]

end TensorGraph.NonMaxSuppression
