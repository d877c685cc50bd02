import TensorGraph.Proofs.Floating.Exponential
import TensorGraph.Proofs.NonMaxSuppression.Safety

/-! Without decay a selection is plain greedy suppression.

The boxes above the threshold are taken in the order of their scores, and a box is kept if its
overlap with all boxes kept before is below the threshold. No candidate waits twice, because a
factor of the decay is 1 and leaves each score as it is.
-/

namespace TensorGraph.NonMaxSuppression

-----------------------------------------------------------------------------------------
-- Plain greedy suppression
-----------------------------------------------------------------------------------------

/-- A box with its index and its score for a class. -/
structure Scored where
  box : Box
  index : Nat
  score : Binary32

/-- Descending by score in the total order of patterns, then ascending by index. -/
def Scored.before (x y : Scored) : Bool :=
  ((y.score.totalCompare x.score).then (Ord.compare x.index y.index)).isLE

/-- The boxes of a class with a score above the threshold, by index. -/
def scoredAbove (parameters : Parameters) (labels count : Nat) (boxes scores : List Binary32)
    (batch label : Nat)
    : List Scored :=
  (List.range count).filterMap fun index => do
    let box ← boxAt? parameters.encoding count boxes batch index
    let score ← scoreAt? labels count scores batch label index
    if parameters.scoreThreshold.less score then some ⟨box, index, score⟩ else none

/-- Keeps the boxes whose overlap with each box kept before is below the threshold, up to the limit.
-/
def keepGreedily (parameters : Parameters) : List Scored → List Scored → List Scored
  | kept, [] => kept
  | kept, next :: rest =>
      if parameters.maxPerClass ≤ kept.length then kept
      else if kept.all fun earlier =>
          (next.box.overlap earlier.box).less parameters.overlapThreshold then
        keepGreedily parameters (kept ++ [next]) rest
      else keepGreedily parameters kept rest

/-- Plain greedy suppression in a class. -/
def suppressGreedily (parameters : Parameters) (labels count : Nat) (boxes scores : List Binary32)
    (batch label : Nat)
    : List Scored :=
  keepGreedily parameters []
    ((scoredAbove parameters labels count boxes scores batch label).mergeSort Scored.before)

-----------------------------------------------------------------------------------------
-- Comparison without decay
-----------------------------------------------------------------------------------------

variable {parameters : Parameters} {score overlap : Binary32}
variable {next candidate : Candidate} {waiting selected : List Candidate}

/-- Without decay the factor of an overlap below the threshold is 1: the exponent is a zero. -/
theorem decay_eq_one (hard : (Floating.zero false).less parameters.sigma = false)
    (finite : overlap.isFinite = true) (low : overlap.less parameters.overlapThreshold = true)
    : parameters.decay overlap = .one := by
  have scale : parameters.decayScale = .zero false := by
    rw [Parameters.decayScale, if_neg (by simp [hard])]
  have within : overlap.lessOrSame parameters.overlapThreshold = true := by
    rw [Floating.lessOrSame, low, Bool.true_or]
  rw [Parameters.decay, if_pos within, scale,
    Floating.mul_of_isZero (Floating.isZero_zero _) finite,
    Floating.mul_of_isZero (Floating.isZero_zero _) finite, Floating.exp_zero]

/-- An overlap below the threshold whose factor is 1 leaves the score as it is. -/
theorem lower_cons_of_one (standing : parameters.scoreThreshold.less score = true)
    {box first : Box} (rest : List Box) (unit : parameters.decay (box.overlap first) = .one)
    (low : (box.overlap first).less parameters.overlapThreshold = true)
    : parameters.lower box (first :: rest) score = parameters.lower box rest score := by
  obtain ⟨numberFirst, number, -⟩ := Floating.less_iff.mp low
  have apart : ¬parameters.overlapThreshold.lessOrSame (box.overlap first) = true := by
    rwa [Bool.not_eq_true, Floating.lessOrSame_eq_false_iff number numberFirst]
  have above : ¬score.lessOrSame parameters.scoreThreshold = true := by
    rw [Floating.less_iff] at standing
    rw [Floating.lessOrSame_iff]
    omega
  rw [Parameters.lower, unit, Floating.mul_one_of_number (Floating.less_iff.mp standing).2.1,
    if_neg apart, if_neg above]

/-- Without decay a comparison leaves the score as it is, unless an overlap is not below the
threshold, by induction on the boxes.
-/
theorem lower_hard (hard : (Floating.zero false).less parameters.sigma = false)
    (number : parameters.overlapThreshold.isNaN = false)
    (standing : parameters.scoreThreshold.less score = true) (box : Box) {kept : List Box}
    (finite : ∀ other ∈ kept, (box.overlap other).isFinite = true)
    : if kept.all fun other => (box.overlap other).less parameters.overlapThreshold then
        parameters.lower box kept score = (score, false)
      else (parameters.lower box kept score).2 = true := by
  induction kept with
  | nil => rfl
  | cons first rest ih =>
      have finiteFirst := finite first List.mem_cons_self
      rw [List.all_cons]
      cases low : (box.overlap first).less parameters.overlapThreshold with
      | true =>
          have unit := decay_eq_one hard finiteFirst low
          rw [lower_cons_of_one standing rest unit low, Bool.true_and]
          exact ih fun other member => finite other (List.mem_cons_of_mem _ member)
      | false =>
          have reached : parameters.overlapThreshold.lessOrSame (box.overlap first) = true := by
            by_contra apart
            rw [Bool.not_eq_true, Floating.lessOrSame_eq_false_iff number
              (Floating.isNaN_of_isFinite finiteFirst), low] at apart
            exact Bool.false_ne_true apart
          rw [Parameters.lower, if_pos reached, Bool.false_and, if_neg Bool.false_ne_true]

/-- Without decay a candidate is selected under its score or dropped. -/
theorem judge_hard (hard : (Floating.zero false).less parameters.sigma = false)
    (number : parameters.overlapThreshold.isNaN = false)
    (standing : parameters.scoreThreshold.less next.score = true) (fresh : next.checked = 0)
    (finite : ∀ kept ∈ selected, (next.box.overlap kept.box).isFinite = true)
    : judge parameters selected next
      = if selected.all fun kept =>
            (next.box.overlap kept.box).less parameters.overlapThreshold then
          .select next.score
        else .drop := by
  have unchecked : next.unchecked selected = selected := by
    rw [Candidate.unchecked, fresh, Nat.sub_zero, List.take_length]
  have lowered
      : if selected.all fun kept =>
            (next.box.overlap kept.box).less parameters.overlapThreshold then
          parameters.lower next.box (selected.map Candidate.box) next.score = (next.score, false)
        else (parameters.lower next.box (selected.map Candidate.box) next.score).2 = true := by
    have compared := lower_hard hard number standing next.box (List.forall_mem_map.mpr finite)
    rwa [List.all_map] at compared
  rw [judge_eq, unchecked]
  cases low
      : selected.all fun kept => (next.box.overlap kept.box).less parameters.overlapThreshold with
  | true =>
      rw [low, if_pos rfl] at lowered
      rw [lowered, if_pos rfl]
      exact if_pos (same_self_of_less standing)
  | false =>
      rw [low, if_neg Bool.false_ne_true] at lowered
      rw [if_neg Bool.false_ne_true]
      split
      · rfl
      next equal =>
        rw [equal] at lowered
        exact absurd lowered Bool.false_ne_true

-----------------------------------------------------------------------------------------
-- The selections of one class
-----------------------------------------------------------------------------------------

def Candidate.scored (candidate : Candidate) : Scored :=
  ⟨candidate.box, candidate.index, candidate.score⟩

/-- Without decay the selection keeps what plain greedy suppression keeps, by induction on the
queue.
-/
theorem selectFrom_hard (hard : (Floating.zero false).less parameters.sigma = false)
    (number : parameters.overlapThreshold.isNaN = false)
    (standing : ∀ candidate ∈ waiting, parameters.scoreThreshold.less candidate.score = true)
    (fresh : ∀ candidate ∈ waiting, candidate.checked = 0)
    (finite
      : ∀ candidate ∈ waiting,
          ∀ kept ∈ selected, (candidate.box.overlap kept.box).isFinite = true)
    (finiteLater
      : waiting.Pairwise fun earlier later => (later.box.overlap earlier.box).isFinite = true)
    : (selectFrom parameters waiting selected).reverse.map Candidate.scored
      = keepGreedily parameters (selected.reverse.map Candidate.scored)
          (waiting.map Candidate.scored) := by
  induction waiting generalizing selected with
  | nil => rw [selectFrom, List.map_nil, keepGreedily]
  | cons next rest ih =>
      rw [List.map_cons, keepGreedily, List.length_map, List.length_reverse]
      by_cases full : parameters.maxPerClass ≤ selected.length
      · rw [selectFrom, if_pos full, if_pos full]
      · obtain ⟨finiteNext, finiteRest⟩ := List.pairwise_cons.mp finiteLater
        have verdict := judge_hard hard number (standing next List.mem_cons_self)
          (fresh next List.mem_cons_self) (finite next List.mem_cons_self)
        have room := Nat.lt_of_not_le full
        have standingRest (candidate : Candidate) (member : candidate ∈ rest) :=
          standing candidate (List.mem_cons_of_mem _ member)
        have freshRest (candidate : Candidate) (member : candidate ∈ rest) :=
          fresh candidate (List.mem_cons_of_mem _ member)
        have finiteOld (candidate : Candidate) (member : candidate ∈ rest) :=
          finite candidate (List.mem_cons_of_mem _ member)
        have condition
            : (selected.reverse.map Candidate.scored).all
                (fun earlier =>
                  (next.scored.box.overlap earlier.box).less parameters.overlapThreshold)
              = selected.all fun kept =>
                  (next.box.overlap kept.box).less parameters.overlapThreshold := by
          rw [List.all_map, List.all_reverse]
          rfl
        rw [if_neg full, condition]
        split at verdict
        next low =>
          have turn
              : Turn parameters (next :: rest) selected rest
                  (next.rescored next.score selected.length :: selected) :=
            .select room verdict
          have finiteNew (candidate : Candidate) (member : candidate ∈ rest)
              : ∀ kept ∈ next.rescored next.score selected.length :: selected,
                  (candidate.box.overlap kept.box).isFinite = true :=
            List.forall_mem_cons.mpr ⟨finiteNext candidate member, finiteOld candidate member⟩
          rw [turn.selectFrom_eq, ih standingRest freshRest finiteNew finiteRest, if_pos low,
            List.reverse_cons, List.map_append]
          rfl
        next low =>
          have turn : Turn parameters (next :: rest) selected rest selected := .drop room verdict
          rw [turn.selectFrom_eq, ih standingRest freshRest finiteOld finiteRest, if_neg low]

-----------------------------------------------------------------------------------------
-- The queue as a sorted list
-----------------------------------------------------------------------------------------

theorem Scored.before_iff {x y : Scored}
    : x.before y = true
      ↔ y.score.rank < x.score.rank ∨ y.score.rank = x.score.rank ∧ x.index ≤ y.index := by
  simp [before, Floating.totalCompare, Ordering.isLE_then_iff_or, Int.compare_eq_lt,
    Nat.isLE_compare]

theorem pairwise_mergeSort_scored (entries : List Scored)
    : (entries.mergeSort Scored.before).Pairwise fun x y => x.before y = true := by
  apply List.pairwise_mergeSort
  · intro x y z first second
    rw [Scored.before_iff] at *
    omega
  · intro x y
    rw [Bool.or_eq_true, Scored.before_iff, Scored.before_iff]
    omega

variable {boxes scores : List Binary32} {boxesDims scoresDims : List Nat}
variable {batches labels count batch label : Nat}

theorem mem_scoredAbove {entry : Scored}
    : entry ∈ scoredAbove parameters labels count boxes scores batch label
      ↔ entry.index < count
        ∧ boxAt? parameters.encoding count boxes batch entry.index = some entry.box
        ∧ scoreAt? labels count scores batch label entry.index = some entry.score
        ∧ parameters.scoreThreshold.less entry.score = true := by
  simp only [scoredAbove, List.mem_filterMap, List.mem_range, bind, Option.bind_eq_some_iff,
    Option.ite_none_right_eq_some, Option.some.injEq]
  constructor
  · rintro ⟨index, inside, box, known, score, scored, above, rfl⟩
    exact ⟨inside, known, scored, above⟩
  · rintro ⟨inside, known, scored, above⟩
    exact ⟨_, inside, _, known, _, scored, above, rfl⟩

theorem nodup_scoredAbove
    : (scoredAbove parameters labels count boxes scores batch label).Nodup := by
  rw [scoredAbove, List.nodup_iff_pairwise_ne, List.pairwise_filterMap]
  refine List.pairwise_lt_range.imp ?_
  intro index other before x found y foundToo same
  simp only [bind, Option.bind_eq_some_iff, Option.ite_none_right_eq_some,
    Option.some.injEq] at found foundToo
  obtain ⟨box, -, score, -, -, made⟩ := found
  obtain ⟨boxToo, -, scoreToo, -, -, madeToo⟩ := foundToo
  exact Nat.ne_of_lt before (congrArg Scored.index (made.trans (same.trans madeToo.symm)))

theorem eligible_perm_scoredAbove
    (fits : Fits boxes boxesDims scores scoresDims batches labels count) (inside : batch < batches)
    (parameters : Parameters) (label : Nat)
    : ((Candidate.eligible parameters.scoreThreshold
          (Box.decodeAll parameters.encoding (piece (count * 4) batch boxes))
          (piece count (batch * labels + label) scores)).map Candidate.scored).Perm
        (scoredAbove parameters labels count boxes scores batch label) := by
  refine (List.perm_ext_iff_of_nodup ?_ nodup_scoredAbove).mpr ?_
  · rw [List.nodup_iff_pairwise_ne, List.pairwise_map]
    refine (Candidate.pairwise_index_eligible _ _ _).imp ?_
    intro x y before same
    exact Nat.ne_of_lt before (congrArg Scored.index same)
  · intro entry
    rw [mem_scoredAbove, List.mem_map]
    constructor
    · rintro ⟨candidate, member, rfl⟩
      obtain ⟨known, scored, above, -⟩ := Candidate.mem_eligible.mp member
      obtain ⟨bounded, known⟩ := fits.located inside known
      rw [getElem?_classScores bounded] at scored
      exact ⟨bounded, known, scored, above⟩
    · rintro ⟨bounded, known, scored, above⟩
      rw [← getElem?_decoded bounded] at known
      rw [← getElem?_classScores bounded] at scored
      exact ⟨⟨entry.box, entry.index, entry.score, 0⟩,
        Candidate.mem_eligible.mpr ⟨known, scored, above, rfl⟩, rfl⟩

/-- The queue of a class lists its boxes above the threshold in sorted order: both lists are sorted
and hold the same entries, which differ by their index.
-/
theorem queue_eq_mergeSort (fits : Fits boxes boxesDims scores scoresDims batches labels count)
    (inside : batch < batches)
    : (Candidate.queue parameters.scoreThreshold
          (Box.decodeAll parameters.encoding (piece (count * 4) batch boxes))
          (piece count (batch * labels + label) scores)).map Candidate.scored
      = (scoredAbove parameters labels count boxes scores batch label).mergeSort
          Scored.before := by
  have same := (Candidate.queue_perm.map Candidate.scored).trans
    (eligible_perm_scoredAbove fits inside parameters label)
  have sorted := List.mergeSort_perm (scoredAbove parameters labels count boxes scores batch label)
    Scored.before
  refine List.Perm.eq_of_pairwise ?_ ?_ (pairwise_mergeSort_scored _) (same.trans sorted.symm)
  · intro x y member memberToo first second
    obtain ⟨-, known, -⟩ := mem_scoredAbove.mp (same.mem_iff.mp member)
    obtain ⟨-, knownToo, -⟩ := mem_scoredAbove.mp (sorted.mem_iff.mp memberToo)
    rw [Scored.before_iff] at first second
    have index : x.index = y.index := by omega
    have score : x.score = y.score := Floating.rank_injective (by omega)
    rw [index, knownToo] at known
    cases x
    cases y
    cases index
    cases score
    cases known
    rfl
  · rw [List.pairwise_map]
    exact Candidate.queue_ahead.imp Scored.before_iff.mpr

-----------------------------------------------------------------------------------------
-- Every selection
-----------------------------------------------------------------------------------------

/-- Any two boxes of a batch have a finite overlap. -/
def FiniteOverlaps (encoding : BoxEncoding) (batches count : Nat) (boxes : List Binary32) : Prop :=
  ∀ batch < batches,
    ∀ index < count,
      ∀ other < count,
        index ≠ other
        → ∀ box otherBox,
            boxAt? encoding count boxes batch index = some box
            → boxAt? encoding count boxes batch other = some otherBox
            → (box.overlap otherBox).isFinite = true

theorem queue_finite (fits : Fits boxes boxesDims scores scoresDims batches labels count)
    (inside : batch < batches)
    (finite : FiniteOverlaps parameters.encoding batches count boxes)
    : (Candidate.queue parameters.scoreThreshold
          (Box.decodeAll parameters.encoding (piece (count * 4) batch boxes))
          (piece count (batch * labels + label) scores)).Pairwise
        fun earlier later => (later.box.overlap earlier.box).isFinite = true := by
  have distinct := List.nodup_iff_pairwise_ne.mp
    (Candidate.nodup_index_queue parameters.scoreThreshold
      (Box.decodeAll parameters.encoding (piece (count * 4) batch boxes))
      (piece count (batch * labels + label) scores))
  refine (List.pairwise_map.mp distinct).imp_of_mem ?_
  intro earlier later member memberToo different
  obtain ⟨bound, known⟩ := fits.located inside (Candidate.mem_queue.mp member).1
  obtain ⟨boundToo, knownToo⟩ := fits.located inside (Candidate.mem_queue.mp memberToo).1
  exact finite batch inside later.index boundToo earlier.index bound different.symm _ _ knownToo
    known

/-- Without decay, with a threshold that is a number and finite overlaps, each class is selected
from as by plain greedy suppression: the same boxes with their own scores in the same order.
-/
theorem select_greedy (fits : Fits boxes boxesDims scores scoresDims batches labels count)
    (parameters : Parameters) (hard : (Floating.zero false).less parameters.sigma = false)
    (number : parameters.overlapThreshold.isNaN = false)
    (finite : FiniteOverlaps parameters.encoding batches count boxes)
    : ∃ selected,
        select boxes boxesDims scores scoresDims { parameters with sortDescending := false }
          = .ok selected
        ∧ ∀ batch < batches,
            ∀ label < labels,
              (ofClass batch label selected).map (fun entry => (entry.index, entry.score))
              = (suppressGreedily parameters labels count boxes scores batch label).map
                  fun entry => (entry.index, entry.score) := by
  refine ⟨_, fits.select_unsorted parameters, ?_⟩
  intro batch inside label insideToo
  have kept
      : (classSelections parameters labels count boxes scores batch label).map Candidate.scored
        = suppressGreedily parameters labels count boxes scores batch label := by
    rw [classSelections, selectClass, suppressGreedily, ← queue_eq_mergeSort fits inside,
      selectFrom_hard hard number]
    · rfl
    · exact fun candidate member => (Candidate.mem_queue.mp member).2.2.1
    · exact fun candidate member => (Candidate.mem_queue.mp member).2.2.2
    · exact fun candidate member kept earlier => absurd earlier List.not_mem_nil
    · exact queue_finite fits inside finite
  rw [ofClass_selectAll inside insideToo, ← kept, List.map_map, List.map_map]
  rfl

theorem finiteOverlaps_twins : FiniteOverlaps .corner 1 3 twinBoxes := by
  have all
      : ∀ index < 3,
          ∀ other < 3,
            (boxAt? .corner 3 twinBoxes 0 index).all (fun box =>
              (boxAt? .corner 3 twinBoxes 0 other).all fun otherBox =>
                (box.overlap otherBox).isFinite) = true := by
    decide +kernel
  intro batch inside index bound other boundToo different box otherBox known knownToo
  obtain rfl : batch = 0 := by omega
  simpa [known, knownToo] using all index bound other boundToo

/-- Plain greedy suppression keeps the better twin, as the selection does. -/
theorem suppressGreedily_twins
    : (Floating.zero false).less twinParameters.sigma = false
      ∧ twinParameters.overlapThreshold.isNaN = false
      ∧ FiniteOverlaps .corner 1 3 twinBoxes
      ∧ (suppressGreedily twinParameters 1 3 twinBoxes twinScores 0 0).map
          (fun entry => (entry.index, entry.score))
        = [(1, .ofNat 5)] := by
  have hard : (Floating.zero false).less twinParameters.sigma = false := by decide
  have number : twinParameters.overlapThreshold.isNaN = false := by decide
  obtain ⟨selected, done, same⟩ :=
    select_greedy fits_twins twinParameters hard number finiteOverlaps_twins
  cases done.symm.trans select_twins
  exact ⟨hard, number, finiteOverlaps_twins, (same 0 (by decide) 0 (by decide)).symm⟩

end TensorGraph.NonMaxSuppression
