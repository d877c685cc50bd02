import TensorGraph.NonMaxSuppression.Selection
import TensorGraph.Proofs.Traversal

/-! The pieces into which boxes and scores are cut.

If boxes and scores are as many as their extents ask for, each piece is there, and the selection is
that of every class of every batch. The other way round the scores are no fewer than their extents
ask for if each piece of them is there, because a place that lies within a list is not changed by
machine words.
-/

namespace TensorGraph.NonMaxSuppression

/-- Piece number `index` of a list cut into pieces of `size` elements. -/
def piece {α : Type} (size index : Nat) (values : List α) : List α :=
  (values.drop (index * size)).take size

/-- The selections of every class of every batch, by batch, class and order of selection. -/
def selectAll (parameters : Parameters) (batches labels count : Nat)
    (boxes scores : List Binary32)
    : List Selected :=
  (List.range batches).flatMap fun batch =>
    let decoded := Box.decodeAll parameters.encoding (piece (count * 4) batch boxes)
    (List.range labels).flatMap fun label =>
      (selectClass parameters decoded (piece count (batch * labels + label) scores)).map
        fun candidate => ⟨batch, label, candidate.index, candidate.score⟩

-----------------------------------------------------------------------------------------
-- Steps one after the other
-----------------------------------------------------------------------------------------

section Collect

variable {α : Type} {step : Nat → Except Fault (List α)} {steps place : Nat}

/-- Steps that all succeed give their results one after the other, by induction on the steps. -/
theorem collect_eq_ok {result : Nat → List α}
    (each : ∀ here, place ≤ here → here < place + steps → step here = .ok (result here))
    : collect step steps place = .ok ((List.range' place steps).flatMap result) := by
  induction steps generalizing place with
  | zero => rfl
  | succ steps ih =>
      have first := each place (Nat.le_refl _) (by omega)
      have later (here : Nat) (after : place + 1 ≤ here) (before : here < place + 1 + steps)
          : step here = .ok (result here) :=
        each here (by omega) (by omega)
      rw [collect, first, List.range'_succ, List.flatMap_cons]
      simp only [bind, Except.bind, ih later]

/-- Where all steps give a result, each of them does, by induction on the steps. -/
theorem step_of_collect {all : List α} (done : collect step steps place = .ok all) {here : Nat}
    (after : place ≤ here) (before : here < place + steps)
    : ∃ result, step here = .ok result := by
  induction steps generalizing place all with
  | zero => omega
  | succ steps ih =>
      simp only [collect, bind_eq_ok_iff] at done
      obtain ⟨first, here, later, rest, -⟩ := done
      rcases Nat.lt_or_eq_of_le after with further | rfl
      · exact ih rest further (by omega)
      · exact ⟨first, here⟩

theorem length_collect_le {most : Nat}
    (bounded : ∀ here result, step here = .ok result → result.length ≤ most) {all : List α}
    (done : collect step steps place = .ok all)
    : all.length ≤ steps * most := by
  induction steps generalizing place all with
  | zero =>
      cases done
      exact Nat.zero_le _
  | succ steps ih =>
      simp only [collect, bind_eq_ok_iff] at done
      obtain ⟨first, here, later, rest, same⟩ := done
      cases same
      have head := bounded place first here
      have tail := ih rest
      rw [List.length_append, Nat.succ_mul]
      omega

end Collect

-----------------------------------------------------------------------------------------
-- Pieces of the right size
-----------------------------------------------------------------------------------------

theorem slice_piece {α : Type} {size place : Nat} {values : List α}
    (inside : (place + 1) * size ≤ values.length)
    : slice values (placeWithin values.length (place * size)) size
      = .ok (piece size place values) := by
  rw [Nat.succ_mul] at inside
  rw [placeWithin_of_le (by omega), slice, if_pos inside, piece]

variable {parameters : Parameters} {batches labels count : Nat} {boxes scores : List Binary32}

theorem selectLabel_eq_ok (scoreCount : scores.length = batches * labels * count)
    (decoded : List Box) {batch label : Nat} (inside : batch < batches) (insideToo : label < labels)
    : selectLabel parameters labels count decoded scores batch label
      = .ok ((selectClass parameters decoded (piece count (batch * labels + label) scores)).map
          fun candidate => ⟨batch, label, candidate.index, candidate.score⟩) := by
  have room : (batch * labels + label + 1) * count ≤ scores.length := by
    rw [scoreCount]
    refine Nat.mul_le_mul_right count ?_
    calc batch * labels + label + 1
      _ ≤ (batch + 1) * labels := by rw [Nat.succ_mul]; omega
      _ ≤ batches * labels := Nat.mul_le_mul_right labels inside
  rw [selectLabel, slice_piece room]
  rfl

/-- Boxes and scores that are as many as their extents ask for are selected from class by class. -/
theorem collect_selectBatch (boxCount : boxes.length = batches * count * 4)
    (scoreCount : scores.length = batches * labels * count)
    : collect (selectBatch parameters labels count boxes scores) batches 0
      = .ok (selectAll parameters batches labels count boxes scores) := by
  simp only [selectAll, List.range_eq_range']
  refine collect_eq_ok fun batch _ inside => ?_
  rw [Nat.zero_add] at inside
  have room : (batch + 1) * (count * 4) ≤ boxes.length := by
    rw [boxCount, Nat.mul_assoc]
    exact Nat.mul_le_mul_right (count * 4) inside
  have one : count * 4 ≤ boxes.length :=
    Nat.le_trans (Nat.le_mul_of_pos_left _ (Nat.succ_pos batch)) room
  rw [selectBatch, placeWithin_of_le one, Nat.mul_assoc, slice_piece room]
  exact collect_eq_ok fun label _ insideToo =>
    selectLabel_eq_ok scoreCount _ inside (by omega)

-----------------------------------------------------------------------------------------
-- Pieces that are there
-----------------------------------------------------------------------------------------

/-- If every piece is there, the list is no shorter than all of them, by induction on the pieces. -/
theorem mul_le_of_pieces {length size pieces : Nat}
    (each : ∀ place < pieces, placeWithin length (place * size) + size ≤ length)
    : pieces * size ≤ length := by
  induction pieces with
  | zero => simp
  | succ pieces ih =>
      have before := ih fun place inside => each place (Nat.lt_succ_of_lt inside)
      have last := each pieces (Nat.lt_succ_self pieces)
      rwa [placeWithin_of_le before, ← Nat.succ_mul] at last

theorem selectLabel_cut {decoded : List Box} {batch label : Nat} {selected : List Selected}
    (done : selectLabel parameters labels count decoded scores batch label = .ok selected)
    : placeWithin scores.length ((batch * labels + label) * count) + count ≤ scores.length
      ∧ ∃ own : List Binary32,
          own.length ≤ count
          ∧ selected.length = (selectClass parameters decoded own).length := by
  simp only [selectLabel, slice, bind_eq_ok_iff] at done
  obtain ⟨own, cut, same⟩ := done
  split at cut
  next room =>
    cases cut
    cases same
    exact ⟨room, _, List.length_take_le _ _, List.length_map _⟩
  · cases cut

/-- The scores that are selected from are no fewer than their extents ask for. -/
theorem scoreCount_le_of_collect {selected : List Selected}
    (done : collect (selectBatch parameters labels count boxes scores) batches 0 = .ok selected)
    : batches * labels * count ≤ scores.length := by
  refine mul_le_of_pieces fun place inside => ?_
  have positive : 0 < labels := by
    refine Nat.pos_of_ne_zero fun none => ?_
    rw [none, Nat.mul_zero] at inside
    exact Nat.not_lt_zero place inside
  have batchInside : place / labels < 0 + batches := by
    rw [Nat.zero_add]
    exact Nat.div_lt_of_lt_mul (by rwa [Nat.mul_comm])
  have labelInside : place % labels < 0 + labels := by
    rw [Nat.zero_add]
    exact Nat.mod_lt place positive
  obtain ⟨_, ofBatch⟩ := step_of_collect done (Nat.zero_le _) batchInside
  simp only [selectBatch, bind_eq_ok_iff] at ofBatch
  obtain ⟨numbers, -, ofLabels⟩ := ofBatch
  obtain ⟨_, ofLabel⟩ := step_of_collect ofLabels (Nat.zero_le _) labelInside
  have cut := (selectLabel_cut ofLabel).1
  rwa [Nat.mul_comm, Nat.mul_comm (place / labels), Nat.div_add_mod, Nat.mul_comm] at cut

end TensorGraph.NonMaxSuppression
