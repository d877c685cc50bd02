import TensorGraph.Proofs.NonMaxSuppression.Classes
import TensorGraph.Proofs.NonMaxSuppression.Turns

/-! Every selection is safe, also with values that are no numbers: it names boxes that exist, none
of them twice, with scores above the threshold, and no box of a class overlaps an earlier selection
of the class too much.
-/

namespace TensorGraph.NonMaxSuppression

variable {parameters : Parameters} {boxes : List Box} {scores : List Binary32}
variable {next candidate : Candidate} {waiting selected rest : List Candidate} {score : Binary32}

-----------------------------------------------------------------------------------------
-- What each turn keeps
-----------------------------------------------------------------------------------------

/-- A candidate stands for a box of its class that had, and has, a score above the threshold. -/
structure Candidate.Stands (threshold : Binary32) (boxes : List Box) (scores : List Binary32)
    (candidate : Candidate)
    : Prop where
  known : boxes[candidate.index]? = some candidate.box
  eligible : ∃ score, scores[candidate.index]? = some score ∧ threshold.less score = true
  above : threshold.less candidate.score = true

/-- The later one of two selections does not overlap the earlier one too much. -/
def Apart (parameters : Parameters) (later earlier : Candidate) : Prop :=
  parameters.overlapThreshold.lessOrSame (later.box.overlap earlier.box) = false

/-- What the turns of a selection keep: all selections are apart, and so is each waiting candidate
from the selections that it was compared with.
-/
structure Sound (parameters : Parameters) (boxes : List Box) (scores : List Binary32)
    (waiting selected : List Candidate)
    : Prop where
  stands
    : ∀ candidate ∈ waiting ++ selected, candidate.Stands parameters.scoreThreshold boxes scores
  distinct : ((waiting ++ selected).map Candidate.index).Nodup
  counted : ∀ candidate ∈ waiting, candidate.checked ≤ selected.length
  compared : ∀ candidate ∈ waiting, ∀ kept ∈ candidate.compared selected,
    Apart parameters candidate kept
  apart : selected.Pairwise (Apart parameters)

theorem Candidate.Stands.rescored {threshold : Binary32}
    (stands : candidate.Stands threshold boxes scores) (above : threshold.less score = true)
    (selections : Nat)
    : (candidate.rescored score selections).Stands threshold boxes scores :=
  ⟨stands.known, stands.eligible, above⟩

theorem Sound.related (sound : Sound parameters boxes scores waiting selected)
    : Related (fun later earlier =>
        parameters.overlapThreshold.lessOrSame (later.overlap earlier) = false) waiting selected :=
  ⟨sound.counted, sound.compared, sound.apart⟩

/-- Each turn keeps the selection sound. A candidate that is kept is apart from the selections that
it is compared with.
-/
theorem Sound.turn {waitingNext selectedNext : List Candidate}
    (turn : Turn parameters waiting selected waitingNext selectedNext)
    (sound : Sound parameters boxes scores waiting selected)
    : Sound parameters boxes scores waitingNext selectedNext := by
  have above (next : Candidate) (member : next ∈ waiting)
      : parameters.scoreThreshold.less next.score = true :=
    (sound.stands next (List.mem_append_left _ member)).above
  have stands := turn.all sound.stands fun next member score verdict =>
    (sound.stands next (List.mem_append_left _ member)).rescored
      (lower_of_keeps (above next member) verdict).2 selected.length
  have related := sound.related.turn turn fun next member score verdict kept unchecked =>
    have ⟨done, high⟩ := lower_of_keeps (above next member) verdict
    lower_apart done high kept.box (List.mem_map_of_mem unchecked)
  exact ⟨stands, turn.nodup_index sound.distinct, related.counted, related.compared,
    related.selections⟩

/-- Before the first turn nothing is selected, and nothing was compared. -/
theorem sound_queue (parameters : Parameters) (boxes : List Box) (scores : List Binary32)
    : Sound parameters boxes scores
        (Candidate.queue parameters.scoreThreshold boxes scores) [] := by
  have related
      : Related (fun later earlier =>
            parameters.overlapThreshold.lessOrSame (later.overlap earlier) = false)
          (Candidate.queue parameters.scoreThreshold boxes scores) [] :=
    related_start fun candidate member => (Candidate.mem_queue.mp member).2.2.2
  refine ⟨?_, ?_, related.counted, related.compared, related.selections⟩
  · intro candidate member
    rw [List.append_nil, Candidate.mem_queue] at member
    obtain ⟨known, scored, above, -⟩ := member
    exact ⟨known, ⟨_, scored, above⟩, above⟩
  · rw [List.append_nil]
    exact Candidate.nodup_index_queue _ _ _

theorem sound_selectFrom (parameters : Parameters) (boxes : List Box) (scores : List Binary32)
    : ∃ left,
        Sound parameters boxes scores left
          (selectFrom parameters (Candidate.queue parameters.scoreThreshold boxes scores) []) :=
  selectFrom_keeps _ Sound.turn (sound_queue parameters boxes scores)

theorem stands_of_selected (member : candidate ∈ selectClass parameters boxes scores)
    : candidate.Stands parameters.scoreThreshold boxes scores := by
  obtain ⟨left, sound⟩ := sound_selectFrom parameters boxes scores
  exact sound.stands candidate (List.mem_append_right _ (List.mem_reverse.mp member))

theorem nodup_index_selectClass (parameters : Parameters) (boxes : List Box)
    (scores : List Binary32)
    : ((selectClass parameters boxes scores).map Candidate.index).Nodup := by
  obtain ⟨left, sound⟩ := sound_selectFrom parameters boxes scores
  have distinct := sound.distinct
  rw [List.map_append] at distinct
  rw [selectClass, List.map_reverse, List.nodup_reverse]
  exact distinct.of_append_right

theorem apart_selectClass (parameters : Parameters) (boxes : List Box) (scores : List Binary32)
    : (selectClass parameters boxes scores).Pairwise fun earlier later =>
        Apart parameters later earlier := by
  obtain ⟨left, sound⟩ := sound_selectFrom parameters boxes scores
  rw [selectClass, List.pairwise_reverse]
  exact sound.apart

-----------------------------------------------------------------------------------------
-- The result in descending order
-----------------------------------------------------------------------------------------

/-- Descending by score in the total order of patterns, then ascending by batch, class and index. -/
def Selected.Outranks (x y : Selected) : Prop :=
  y.score.rank < x.score.rank
  ∨ y.score.rank = x.score.rank
    ∧ (x.batch < y.batch
      ∨ x.batch = y.batch
        ∧ (x.label < y.label ∨ x.label = y.label ∧ x.index < y.index))

/-- Where an entry belongs: its batch, its class and its box. -/
def Selected.place (entry : Selected) : Nat × Nat × Nat :=
  (entry.batch, entry.label, entry.index)

theorem Selected.before_iff {x y : Selected}
    : x.before y = true
      ↔ x.Outranks y ∨ x.score.rank = y.score.rank ∧ x.place = y.place := by
  simp only [before, compare, Floating.totalCompare, Ordering.isLE_then_iff_or,
    Int.compare_eq_lt, Int.compare_eq_eq, Nat.compare_eq_lt, Nat.compare_eq_eq,
    Nat.isLE_compare, Outranks, place, Prod.mk.injEq]
  omega

/-- Sorting entries for distinct places leaves each one outranking the later ones. -/
theorem pairwise_mergeSort {selected : List Selected}
    (distinct : (selected.map Selected.place).Nodup)
    : (selected.mergeSort Selected.before).Pairwise Selected.Outranks := by
  have trans (x y z : Selected) (first : x.before y = true) (second : y.before z = true)
      : x.before z = true := by
    simp only [Selected.before_iff, Selected.Outranks, Selected.place, Prod.mk.injEq] at *
    omega
  have total (x y : Selected) : (x.before y || y.before x) = true := by
    simp only [Bool.or_eq_true, Selected.before_iff, Selected.Outranks, Selected.place,
      Prod.mk.injEq]
    omega
  have places : ((selected.mergeSort Selected.before).map Selected.place).Nodup :=
    ((List.mergeSort_perm selected _).map _).nodup_iff.mpr distinct
  rw [List.nodup_iff_pairwise_ne, List.pairwise_map] at places
  refine ((List.pairwise_mergeSort trans total selected).and places).imp ?_
  rintro x y ⟨before, different⟩
  exact (Selected.before_iff.mp before).resolve_right fun same => different same.2

-----------------------------------------------------------------------------------------
-- Every selection
-----------------------------------------------------------------------------------------

/-- A safe selection of boxes with flat lists of boxes and scores. -/
structure Safe (parameters : Parameters) (batches labels count : Nat) (boxes scores : List Binary32)
    (selected : List Selected)
    : Prop where
  inRange
    : ∀ entry ∈ selected, entry.batch < batches ∧ entry.label < labels ∧ entry.index < count
  distinct : (selected.map Selected.place).Nodup
  few
    : ∀ batch < batches,
        ∀ label < labels,
          (ofClass batch label selected).length ≤ min count parameters.maxPerClass
  above
    : ∀ entry ∈ selected,
        parameters.scoreThreshold.less entry.score = true
        ∧ ∃ score,
            scoreAt? labels count scores entry.batch entry.label entry.index = some score
            ∧ parameters.scoreThreshold.less score = true
  apart
    : ∀ batch < batches,
        ∀ label < labels,
          (ofClass batch label selected).Pairwise fun earlier later =>
            ∃ earlierBox laterBox,
              boxAt? parameters.encoding count boxes batch earlier.index = some earlierBox
              ∧ boxAt? parameters.encoding count boxes batch later.index = some laterBox
              ∧ parameters.overlapThreshold.lessOrSame (laterBox.overlap earlierBox) = false

section

variable {batches labels count batch label : Nat} {boxes scores : List Binary32}
variable {boxesDims scoresDims : List Nat}

theorem Fits.stands (fits : Fits boxes boxesDims scores scoresDims batches labels count)
    (inside : batch < batches)
    (member : candidate ∈ classSelections parameters labels count boxes scores batch label)
    : candidate.index < count
      ∧ boxAt? parameters.encoding count boxes batch candidate.index = some candidate.box
      ∧ parameters.scoreThreshold.less candidate.score = true
      ∧ ∃ score,
          scoreAt? labels count scores batch label candidate.index = some score
          ∧ parameters.scoreThreshold.less score = true := by
  have stands := stands_of_selected member
  obtain ⟨bounded, known⟩ := fits.located inside stands.known
  obtain ⟨score, scored, above⟩ := stands.eligible
  rw [getElem?_classScores bounded] at scored
  exact ⟨bounded, known, stands.above, score, scored, above⟩

/-- Entries differ by their batch, their class or, within one class, their box. -/
theorem nodup_place_selectAll (parameters : Parameters) (batches labels count : Nat)
    (boxes scores : List Binary32)
    : ((selectAll parameters batches labels count boxes scores).map Selected.place).Nodup := by
  rw [selectAll_eq, List.nodup_iff_pairwise_ne, List.pairwise_map, List.pairwise_flatMap]
  constructor
  · intro batch inside
    rw [List.pairwise_flatMap]
    constructor
    · intro label insideToo
      have distinct := nodup_index_selectClass parameters
        (Box.decodeAll parameters.encoding (piece (count * 4) batch boxes))
        (piece count (batch * labels + label) scores)
      rw [List.nodup_iff_pairwise_ne, List.pairwise_map] at distinct
      rw [List.pairwise_map]
      refine distinct.imp ?_
      intro x y different same
      simp only [Candidate.entry, Selected.place, Prod.mk.injEq] at same
      exact different same.2.2
    · refine List.pairwise_lt_range.imp ?_
      intro label labelToo before x member y memberToo same
      obtain ⟨candidate, -, rfl⟩ := List.mem_map.mp member
      obtain ⟨candidateToo, -, rfl⟩ := List.mem_map.mp memberToo
      simp only [Candidate.entry, Selected.place, Prod.mk.injEq] at same
      omega
  · refine List.pairwise_lt_range.imp ?_
    intro batch batchToo before x member y memberToo same
    obtain ⟨label, -, member⟩ := List.mem_flatMap.mp member
    obtain ⟨candidate, -, rfl⟩ := List.mem_map.mp member
    obtain ⟨labelToo, -, memberToo⟩ := List.mem_flatMap.mp memberToo
    obtain ⟨candidateToo, -, rfl⟩ := List.mem_map.mp memberToo
    simp only [Candidate.entry, Selected.place, Prod.mk.injEq] at same
    omega

theorem safe_selectAll (fits : Fits boxes boxesDims scores scoresDims batches labels count)
    (parameters : Parameters)
    : Safe parameters batches labels count boxes scores
        (selectAll parameters batches labels count boxes scores) where
  inRange := by
    intro entry member
    obtain ⟨batch, inside, label, insideToo, candidate, selected, rfl⟩ := mem_selectAll.mp member
    exact ⟨inside, insideToo, (fits.stands inside selected).1⟩
  distinct := nodup_place_selectAll parameters batches labels count boxes scores
  few := by
    intro batch inside label insideToo
    have most := length_selectClass_le parameters
      (Box.decodeAll parameters.encoding (piece (count * 4) batch boxes))
      (piece count (batch * labels + label) scores)
    rw [fits.length_classScores inside insideToo, Nat.min_comm] at most
    rw [ofClass_selectAll inside insideToo, List.length_map]
    exact most
  above := by
    intro entry member
    obtain ⟨batch, inside, label, -, candidate, selected, rfl⟩ := mem_selectAll.mp member
    exact (fits.stands inside selected).2.2
  apart := by
    intro batch inside label insideToo
    rw [ofClass_selectAll inside insideToo, List.pairwise_map]
    refine (apart_selectClass parameters _ _).imp_of_mem ?_
    intro earlier later member memberToo apart
    exact ⟨earlier.box, later.box, (fits.stands inside member).2.1,
      (fits.stands inside memberToo).2.1, apart⟩

/-- Whatever the values are, a selection that passes the checks ends and is safe, and in descending
order it is the same selection with each entry outranking the later ones, unless the shapes ask for
more numbers than a machine word counts.
-/
theorem select_safe
    (accepted : Accepted boxes boxesDims scores scoresDims batches labels count)
    (shortBoxes : boxes.length < twoPow 64) (shortScores : scores.length < twoPow 64)
    (boxesFit : batches * count * 4 < twoPow 64)
    (scoresFit : batches * labels * count < twoPow 64) (parameters : Parameters)
    : ∃ selected,
        select boxes boxesDims scores scoresDims { parameters with sortDescending := false }
          = .ok selected
        ∧ Safe parameters batches labels count boxes scores selected
        ∧ ∃ sorted,
            select boxes boxesDims scores scoresDims { parameters with sortDescending := true }
              = .ok sorted
            ∧ sorted.Perm selected
            ∧ sorted.Pairwise Selected.Outranks := by
  have fits := accepted.fits shortBoxes shortScores boxesFit scoresFit
  refine ⟨_, fits.select_unsorted parameters, safe_selectAll fits parameters, _,
    fits.select_sorted parameters, List.mergeSort_perm _ _, ?_⟩
  exact pairwise_mergeSort (nodup_place_selectAll _ _ _ _ _ _)

/-- The box of both twins. -/
def twin : Box :=
  ⟨.zero false, .zero false, .ofNat 2, .ofNat 2⟩

/-- Two boxes alike, and a third one apart from them. -/
def twinBoxes : List Binary32 :=
  [0, 0, 2, 2, 0, 0, 2, 2, 4, 4, 6, 6].map fun number => .ofNat number

/-- The score of the third box is no number. -/
def twinScores : List Binary32 :=
  [.ofNat 3, .ofNat 5, .invalid]

def twinParameters : Parameters :=
  { maxPerClass := 3, overlapThreshold := .one }

theorem fits_twins : Fits twinBoxes [1, 3, 4] twinScores [1, 1, 3] 1 1 3 :=
  ⟨rfl, rfl, rfl⟩

/-- With the usual threshold for scores the twins are selected from, the better one first. -/
theorem select_twins_eq {parameters : Parameters} (corners : parameters.encoding = .corner)
    (threshold : parameters.scoreThreshold = .zero false)
    : select twinBoxes [1, 3, 4] twinScores [1, 1, 3] { parameters with sortDescending := false }
      = .ok ((selectFrom parameters [⟨twin, 1, .ofNat 5, 0⟩, ⟨twin, 0, .ofNat 3, 0⟩] []).reverse.map
          (Candidate.entry 0 0)) := by
  have queue
      : Candidate.queue (.zero false) (Box.decodeAll .corner (piece (3 * 4) 0 twinBoxes))
          (piece 3 0 twinScores)
        = [⟨twin, 1, .ofNat 5, 0⟩, ⟨twin, 0, .ofNat 3, 0⟩] := by
    decide +kernel
  rw [fits_twins.select_unsorted parameters, selectAll_eq]
  simp [classSelections, selectClass, corners, threshold, queue]

/-- The better twin is selected, and the other one overlaps it. -/
theorem select_twins
    : select twinBoxes [1, 3, 4] twinScores [1, 1, 3]
        { twinParameters with sortDescending := false }
      = .ok [⟨0, 0, 1, .ofNat 5⟩] := by
  have first
      : Turn twinParameters [⟨twin, 1, .ofNat 5, 0⟩, ⟨twin, 0, .ofNat 3, 0⟩] []
          [⟨twin, 0, .ofNat 3, 0⟩] [⟨twin, 1, .ofNat 5, 0⟩] :=
    .select (by decide) (by decide +kernel)
  have second
      : Turn twinParameters [⟨twin, 0, .ofNat 3, 0⟩] [⟨twin, 1, .ofNat 5, 0⟩] []
          [⟨twin, 1, .ofNat 5, 0⟩] :=
    .drop (by decide) (by decide +kernel)
  rw [select_twins_eq rfl rfl, first.selectFrom_eq, second.selectFrom_eq, selectFrom]
  rfl

theorem select_twins_safe
    : Accepted twinBoxes [1, 3, 4] twinScores [1, 1, 3] 1 1 3
      ∧ Safe twinParameters 1 1 3 twinBoxes twinScores [⟨0, 0, 1, .ofNat 5⟩] := by
  have accepted : Accepted twinBoxes [1, 3, 4] twinScores [1, 1, 3] 1 1 3 := ⟨rfl, rfl, rfl⟩
  obtain ⟨selected, done, safe, -⟩ := select_safe accepted (by decide) (by decide) (by decide)
    (by decide) twinParameters
  cases done.symm.trans select_twins
  exact ⟨accepted, safe⟩

/-- No numbers pass for those of 2 ^ 62 batches, because the products of the extents lose all their
bits. The first batch then misses its box.
-/
theorem exists_accepted_fault
    : Accepted [] [twoPow 62, 1, 4] [] [twoPow 62, 4, 1] (twoPow 62) 4 1
      ∧ ∀ parameters,
          select [] [twoPow 62, 1, 4] [] [twoPow 62, 4, 1] parameters
          = .error (.fault .indexOutOfRange) := by
  have accepted : Accepted [] [twoPow 62, 1, 4] [] [twoPow 62, 4, 1] (twoPow 62) 4 1 :=
    ⟨rfl, by decide, by decide⟩
  refine ⟨accepted, fun parameters => ?_⟩
  have batches : twoPow 62 = 4611686018427387903 + 1 := rfl
  have stopped
      : collect (selectBatch parameters 4 1 [] []) (twoPow 62) 0
        = .error .indexOutOfRange := by
    rw [batches, collect]
    rfl
  rw [accepted.select_eq, stopped]
  rfl

end

end TensorGraph.NonMaxSuppression
