import Mathlib.Data.List.Flatten
import TensorGraph.Proofs.NonMaxSuppression.Count
import TensorGraph.Proofs.NonMaxSuppression.Turns

/-! The selections of one class of one batch, and where its boxes and scores stand in the flat
lists.
-/

namespace TensorGraph.NonMaxSuppression

-----------------------------------------------------------------------------------------
-- Boxes and scores by their coordinates
-----------------------------------------------------------------------------------------

/-- The box that the four numbers from a place on describe. -/
def boxFrom? (encoding : BoxEncoding) (numbers : List Binary32) (place : Nat) : Option Box := do
  let a ← numbers[place]?
  let b ← numbers[place + 1]?
  let c ← numbers[place + 2]?
  let d ← numbers[place + 3]?
  return .decode encoding a b c d

/-- The box with the given index in a batch. -/
def boxAt? (encoding : BoxEncoding) (count : Nat) (boxes : List Binary32) (batch index : Nat)
    : Option Box :=
  boxFrom? encoding boxes ((batch * count + index) * 4)

/-- The score of a box for a class. -/
def scoreAt? (labels count : Nat) (scores : List Binary32) (batch label index : Nat)
    : Option Binary32 :=
  scores[(batch * labels + label) * count + index]?

theorem length_lt_four {numbers : List Binary32}
    (short : ∀ a b c d rest, numbers = a :: b :: c :: d :: rest → False)
    : numbers.length < 4 := by
  match numbers with
  | [] | [_] | [_, _] | [_, _, _] => simp
  | a :: b :: c :: d :: rest => exact (short a b c d rest rfl).elim

/-- Decoding a list of numbers gives the box at each index, by the recursion of decoding. -/
theorem getElem?_decodeAll (encoding : BoxEncoding) (numbers : List Binary32) (index : Nat)
    : (Box.decodeAll encoding numbers)[index]? = boxFrom? encoding numbers (index * 4) := by
  fun_induction Box.decodeAll encoding numbers generalizing index with
  | case1 a b c d rest ih =>
      cases index with
      | zero => rfl
      | succ index =>
          rw [List.getElem?_cons_succ, ih index, Nat.succ_mul]
          rfl
  | case2 numbers short =>
      have few := length_lt_four short
      have missing : numbers[index * 4 + 3]? = none := List.getElem?_eq_none (by omega)
      simp [boxFrom?, missing]

theorem getElem?_piece {α : Type} {size place index : Nat} {values : List α} (inside : index < size)
    : (piece size place values)[index]? = values[place * size + index]? := by
  rw [piece, List.getElem?_take_of_lt inside, List.getElem?_drop]

theorem length_piece {α : Type} {size place pieces : Nat} {values : List α}
    (total : values.length = pieces * size) (inside : place < pieces)
    : (piece size place values).length = size := by
  have room : (place + 1) * size ≤ pieces * size := Nat.mul_le_mul_right size inside
  rw [Nat.succ_mul] at room
  rw [piece, List.length_take, List.length_drop]
  omega

variable {encoding : BoxEncoding} {batches labels count batch label index : Nat}
variable {boxes scores : List Binary32}

theorem getElem?_decoded (inside : index < count)
    : (Box.decodeAll encoding (piece (count * 4) batch boxes))[index]?
      = boxAt? encoding count boxes batch index := by
  have place : (batch * count + index) * 4 = batch * (count * 4) + index * 4 := by
    rw [Nat.add_mul, Nat.mul_assoc]
  rw [getElem?_decodeAll, boxAt?, place, boxFrom?, boxFrom?, getElem?_piece (by omega),
    getElem?_piece (by omega), getElem?_piece (by omega), getElem?_piece (by omega)]
  rfl

theorem getElem?_classScores (inside : index < count)
    : (piece count (batch * labels + label) scores)[index]?
      = scoreAt? labels count scores batch label index :=
  getElem?_piece inside

theorem length_decodeAll (encoding : BoxEncoding) (numbers : List Binary32)
    : (Box.decodeAll encoding numbers).length = numbers.length / 4 := by
  fun_induction Box.decodeAll encoding numbers with
  | case1 a b c d rest ih =>
      simp only [List.length_cons, ih]
      omega
  | case2 numbers short =>
      rw [Nat.div_eq_of_lt (length_lt_four short), List.length_nil]

-----------------------------------------------------------------------------------------
-- The checks of a selection
-----------------------------------------------------------------------------------------

/-- Boxes and scores that pass the checks of a selection, with the extents that their shapes
describe. The checks compare machine words.
-/
structure Accepted (boxes : List Binary32) (boxesDims : List Nat) (scores : List Binary32)
    (scoresDims : List Nat) (batches labels count : Nat)
    : Prop where
  described : extents boxesDims scoresDims = .ok (batches, labels, count)
  boxCount : word boxes.length = word (batches * count * 4)
  scoreCount : word scores.length = word (batches * labels * count)

/-- Boxes and scores that are as many as their shapes ask for, with the extents that these describe.
-/
structure Fits (boxes : List Binary32) (boxesDims : List Nat) (scores : List Binary32)
    (scoresDims : List Nat) (batches labels count : Nat)
    : Prop where
  described : extents boxesDims scoresDims = .ok (batches, labels, count)
  boxCount : boxes.length = batches * count * 4
  scoreCount : scores.length = batches * labels * count

variable {boxesDims scoresDims : List Nat}

/-- What passes the checks is selected from batch by batch, and the flag for descending order sorts
the selections.
-/
theorem Accepted.select_eq
    (accepted : Accepted boxes boxesDims scores scoresDims batches labels count)
    (parameters : Parameters)
    : select boxes boxesDims scores scoresDims parameters
      = (orFault (collect (selectBatch parameters labels count boxes scores) batches 0)).map
          fun selected =>
            if parameters.sortDescending then selected.mergeSort Selected.before else selected := by
  rw [select, accepted.described]
  change (if word boxes.length ≠ word (batches * count * 4) then _ else _) = _
  rw [if_neg (not_not.mpr accepted.boxCount), if_neg (not_not.mpr accepted.scoreCount)]
  cases collect (selectBatch parameters labels count boxes scores) batches 0 with
  | error fault => rfl
  | ok selected =>
      change (if parameters.sortDescending then _ else _) = Except.ok _
      split <;> rfl

/-- A selection is refused exactly if the checks do not pass; what passes them can only fault. -/
theorem exists_accepted_iff {parameters : Parameters}
    : (∃ batches labels count,
        Accepted boxes boxesDims scores scoresDims batches labels count)
      ↔ ∀ cause, select boxes boxesDims scores scoresDims parameters ≠ .error (.error cause) := by
  constructor
  · rintro ⟨batches, labels, count, accepted⟩ cause refused
    rw [accepted.select_eq] at refused
    cases collected : collect (selectBatch parameters labels count boxes scores) batches 0 with
    | error fault => simp [collected, orFault, Except.mapError, Except.map] at refused
    | ok selected => simp [collected, orFault, Except.mapError, Except.map] at refused
  · intro never
    cases described : extents boxesDims scoresDims with
    | error cause =>
        refine absurd ?_ (never cause)
        simp [select, described, orFailure, Except.mapError, bind, Except.bind]
    | ok sizes =>
        obtain ⟨batches, labels, count⟩ := sizes
        by_cases boxCount : word boxes.length = word (batches * count * 4)
        · by_cases scoreCount : word scores.length = word (batches * labels * count)
          · exact ⟨batches, labels, count, described, boxCount, scoreCount⟩
          · refine absurd ?_
              (never (.lengthMismatch (word (batches * labels * count)) (word scores.length)))
            simp [select, described, boxCount, scoreCount, orFailure, Except.mapError, bind,
              Except.bind]
        · refine absurd ?_
            (never (.lengthMismatch (word (batches * count * 4)) (word boxes.length)))
          simp [select, described, boxCount, orFailure, Except.mapError, bind, Except.bind]

/-- What passes the checks fits, because neither the numbers nor the products lose bits. -/
theorem Accepted.fits (accepted : Accepted boxes boxesDims scores scoresDims batches labels count)
    (shortBoxes : boxes.length < twoPow 64) (shortScores : scores.length < twoPow 64)
    (boxesFit : batches * count * 4 < twoPow 64)
    (scoresFit : batches * labels * count < twoPow 64)
    : Fits boxes boxesDims scores scoresDims batches labels count where
  described := accepted.described
  boxCount := by
    have words := accepted.boxCount
    rwa [word_of_lt shortBoxes, word_of_lt boxesFit] at words
  scoreCount := by
    have words := accepted.scoreCount
    rwa [word_of_lt shortScores, word_of_lt scoresFit] at words

theorem Fits.accepted (fits : Fits boxes boxesDims scores scoresDims batches labels count)
    : Accepted boxes boxesDims scores scoresDims batches labels count :=
  ⟨fits.described, congrArg word fits.boxCount, congrArg word fits.scoreCount⟩

theorem selectAll_sortDescending (parameters : Parameters) (flag : Bool)
    (batches labels count : Nat) (boxes scores : List Binary32)
    : selectAll { parameters with sortDescending := flag } batches labels count boxes scores
      = selectAll parameters batches labels count boxes scores := by
  simp only [selectAll, selectClass, selectFrom_sortDescending]

/-- What passes the checks is selected from, and the flag for descending order sorts the selections.
-/
theorem Fits.select_eq (fits : Fits boxes boxesDims scores scoresDims batches labels count)
    (parameters : Parameters)
    : select boxes boxesDims scores scoresDims parameters
      = .ok
          (if parameters.sortDescending then
            (selectAll parameters batches labels count boxes scores).mergeSort Selected.before
          else selectAll parameters batches labels count boxes scores) := by
  rw [fits.accepted.select_eq, collect_selectBatch fits.boxCount fits.scoreCount]
  rfl

theorem Fits.select_unsorted (fits : Fits boxes boxesDims scores scoresDims batches labels count)
    (parameters : Parameters)
    : select boxes boxesDims scores scoresDims { parameters with sortDescending := false }
      = .ok (selectAll parameters batches labels count boxes scores) := by
  simp [fits.select_eq, selectAll_sortDescending]

theorem Fits.select_sorted (fits : Fits boxes boxesDims scores scoresDims batches labels count)
    (parameters : Parameters)
    : select boxes boxesDims scores scoresDims { parameters with sortDescending := true }
      = .ok ((selectAll parameters batches labels count boxes scores).mergeSort
          Selected.before) := by
  simp [fits.select_eq, selectAll_sortDescending]

/-- The result of a selection is what is selected in the order of the batches and classes, up to its
order.
-/
theorem Fits.select_perm (fits : Fits boxes boxesDims scores scoresDims batches labels count)
    (parameters : Parameters)
    : ∃ selected,
        select boxes boxesDims scores scoresDims parameters = .ok selected
        ∧ selected.Perm (selectAll parameters batches labels count boxes scores) := by
  refine ⟨_, fits.select_eq parameters, ?_⟩
  split
  · exact List.mergeSort_perm _ _
  · exact .refl _

theorem Fits.length_decoded (fits : Fits boxes boxesDims scores scoresDims batches labels count)
    (inside : batch < batches)
    : (Box.decodeAll encoding (piece (count * 4) batch boxes)).length = count := by
  have total : boxes.length = batches * (count * 4) := by
    rw [fits.boxCount, Nat.mul_assoc]
  rw [length_decodeAll, length_piece total inside, Nat.mul_div_cancel _ (by decide)]

/-- The boxes that are decoded for a batch stand at its coordinates. -/
theorem Fits.located (fits : Fits boxes boxesDims scores scoresDims batches labels count)
    (inside : batch < batches) {box : Box}
    (known
      : (Box.decodeAll encoding (piece (count * 4) batch boxes))[index]? = some box)
    : index < count ∧ boxAt? encoding count boxes batch index = some box := by
  obtain ⟨bound, -⟩ := List.getElem?_eq_some_iff.mp known
  rw [fits.length_decoded inside] at bound
  exact ⟨bound, by rw [← getElem?_decoded bound, known]⟩

theorem Fits.length_classScores
    (fits : Fits boxes boxesDims scores scoresDims batches labels count) (inside : batch < batches)
    (insideToo : label < labels)
    : (piece count (batch * labels + label) scores).length = count := by
  apply length_piece fits.scoreCount
  calc batch * labels + label
    _ < (batch + 1) * labels := by rw [Nat.succ_mul]; omega
    _ ≤ batches * labels := Nat.mul_le_mul_right labels inside

-----------------------------------------------------------------------------------------
-- The selections of one class
-----------------------------------------------------------------------------------------

/-- The selections of one class of one batch, in their order. -/
def ofClass (batch label : Nat) (selected : List Selected) : List Selected :=
  selected.filter fun entry => entry.batch = batch ∧ entry.label = label

/-- The selections of one class of one batch as they are made. -/
def classSelections (parameters : Parameters) (labels count : Nat) (boxes scores : List Binary32)
    (batch label : Nat)
    : List Candidate :=
  selectClass parameters (Box.decodeAll parameters.encoding (piece (count * 4) batch boxes))
    (piece count (batch * labels + label) scores)

/-- A selected candidate as an entry of the result. -/
def Candidate.entry (batch label : Nat) (candidate : Candidate) : Selected :=
  ⟨batch, label, candidate.index, candidate.score⟩

theorem selectAll_eq (parameters : Parameters) (batches labels count : Nat)
    (boxes scores : List Binary32)
    : selectAll parameters batches labels count boxes scores
      = (List.range batches).flatMap fun batch =>
          (List.range labels).flatMap fun label =>
            (classSelections parameters labels count boxes scores batch label).map
              (Candidate.entry batch label) :=
  rfl

variable {parameters : Parameters}

theorem mem_selectAll {entry : Selected}
    : entry ∈ selectAll parameters batches labels count boxes scores
      ↔ ∃ batch < batches,
          ∃ label < labels,
            ∃ candidate ∈ classSelections parameters labels count boxes scores batch label,
              candidate.entry batch label = entry := by
  simp only [selectAll_eq, List.mem_flatMap, List.mem_range, List.mem_map]

/-- Of pieces that a condition tells apart, it keeps only one, by induction on their number. -/
theorem filter_flatMap_range {α : Type} {pieces : Nat → List α} {keep : α → Bool}
    {number place : Nat} (inside : place < number)
    (others : ∀ other ≠ place, ∀ x ∈ pieces other, keep x = false)
    : ((List.range number).flatMap pieces).filter keep = (pieces place).filter keep := by
  have none (other : Nat) (different : other ≠ place) : (pieces other).filter keep = [] := by
    rw [List.filter_eq_nil_iff]
    intro x member
    rw [others other different x member]
    exact Bool.false_ne_true
  induction number with
  | zero => exact absurd inside (Nat.not_lt_zero place)
  | succ number ih =>
      rw [List.range_succ, List.flatMap_append, List.filter_append, List.flatMap_singleton]
      rcases Nat.lt_succ_iff_lt_or_eq.mp inside with before | rfl
      · rw [ih before, none number (by omega), List.append_nil]
      · have earlier : ((List.range place).flatMap pieces).filter keep = [] := by
          rw [List.filter_flatMap, List.flatMap_eq_nil_iff]
          intro other member
          exact none other (Nat.ne_of_lt (List.mem_range.mp member))
        rw [earlier, List.nil_append]

theorem ofClass_selectAll (inside : batch < batches) (insideToo : label < labels)
    : ofClass batch label (selectAll parameters batches labels count boxes scores)
      = (classSelections parameters labels count boxes scores batch label).map
          (Candidate.entry batch label) := by
  rw [ofClass, selectAll_eq, filter_flatMap_range inside, filter_flatMap_range insideToo,
    List.filter_eq_self]
  · simp [Candidate.entry]
  · intro other different entry member
    obtain ⟨candidate, -, rfl⟩ := List.mem_map.mp member
    simp [Candidate.entry, different]
  · intro other different entry member
    obtain ⟨label, -, member⟩ := List.mem_flatMap.mp member
    obtain ⟨candidate, -, rfl⟩ := List.mem_map.mp member
    simp [Candidate.entry, different]

end TensorGraph.NonMaxSuppression
