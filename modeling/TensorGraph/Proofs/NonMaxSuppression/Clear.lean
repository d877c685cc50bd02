import TensorGraph.Proofs.NonMaxSuppression.Decay
import TensorGraph.Proofs.NonMaxSuppression.Greedy

/-! A box that is clear of the selections of its class is selected itself.

The overlap with a box apart is 0, and the factor of the decay for it is 1 as long as the scale of
the decay is finite. A decay so narrow that its scale overflows has no factor for an overlap of 0:
then such boxes are dropped.
-/

namespace TensorGraph.NonMaxSuppression

-----------------------------------------------------------------------------------------
-- The scale of the decay
-----------------------------------------------------------------------------------------

namespace Parameters

/-- The greatest width, `2 ^ -129`, under which the scale of the decay overflows. -/
def narrowest : Binary32 :=
  .ofBits 0x00100000

/-- The decay is so narrow that its scale overflows. -/
def Narrow (parameters : Parameters) : Prop :=
  (Floating.zero false).less parameters.sigma = true
  ∧ parameters.sigma.lessOrSame narrowest = true

end Parameters

/-- The value of a magnitude in single precision that is made of a row and a count. -/
theorem valueOf_binary32 {row count : Nat} (few : count < twoPow 24)
    (normal : row = 0 ∨ twoPow 23 ≤ count)
    : FloatFormat.binary32.valueOf (row * twoPow 23 + count) = count * 2 ^ (-149 + row : ℤ) :=
  @FloatFormat.valueOf_row .binary32 row count (Nat.le_of_lt few) normal

/-- Half of the reciprocal of a magnitude rounds to a finite value exactly above `2 ^ -129`. -/
theorem magnitudeOf_half_div_lt_iff {magnitude : Nat} (some : magnitude ≠ 0)
    : FloatFormat.binary32.magnitudeOf (1 / 2 / FloatFormat.binary32.valueOf magnitude)
        < FloatFormat.binary32.infinityMagnitude
      ↔ 0x00100000 < magnitude := by
  have nonneg := FloatFormat.binary32.valueOf_nonneg
  have positive : 0 < FloatFormat.binary32.valueOf magnitude :=
    lt_of_le_of_ne (nonneg magnitude) (mt Floating.valueOf_eq_zero_iff.mp some ∘ Eq.symm)
  have infinity : FloatFormat.binary32.infinityMagnitude = 254 * twoPow 23 + twoPow 23 := by
    decide
  constructor
  · intro finite
    by_contra! small
    -- The quotient is at least `2 ^ 128`, the value of the magnitude of infinity.
    have below : FloatFormat.binary32.valueOf magnitude ≤ 2 ^ (-129 : ℤ) := by
      refine (FloatFormat.valueOf_le_iff.mpr small).trans_eq ?_
      have bound := @valueOf_binary32 0 0x00100000 (by decide) (.inl rfl)
      rw [Nat.zero_mul, Nat.zero_add] at bound
      rw [bound]
      norm_num
    refine finite.not_ge (FloatFormat.le_magnitudeOf ?_)
    rw [infinity, valueOf_binary32 (by decide) (.inr le_rfl), cast_twoPow, le_div_iff₀ positive]
    refine (mul_le_mul_of_nonneg_left below (by positivity)).trans ?_
    norm_num
  · intro large
    -- The quotient is at most the value of the greatest finite magnitude.
    have above : ((0x00100001 : Nat) : ℚ) * 2 ^ (-149 : ℤ)
        ≤ FloatFormat.binary32.valueOf magnitude := by
      have bound := @valueOf_binary32 0 0x00100001 (by decide) (.inl rfl)
      rw [Nat.zero_mul, Nat.zero_add, Nat.cast_zero, add_zero] at bound
      rw [← bound]
      exact FloatFormat.valueOf_le_iff.mpr large
    have rounded
        : FloatFormat.binary32.magnitudeOf (1 / 2 / FloatFormat.binary32.valueOf magnitude)
          ≤ 253 * twoPow 23 + (twoPow 24 - 1) := by
      refine FloatFormat.magnitudeOf_le (by positivity) ?_
      rw [valueOf_binary32 (by decide) (.inr (by decide)), div_le_iff₀ positive]
      refine le_trans ?_ (mul_le_mul_of_nonneg_left above (by positivity))
      norm_num [twoPow]
    exact rounded.trans_lt (by decide)

variable {parameters : Parameters} {overlap score lowered : Binary32}

/-- The scale of the decay overflows exactly if the decay is so narrow, by the cases of a quotient.
-/
theorem isFinite_decayScale_iff : parameters.decayScale.isFinite = true ↔ ¬parameters.Narrow := by
  have bound : Parameters.narrowest.position = 0x00100000 := by decide +kernel
  have boundNumber : Parameters.narrowest.isNaN = false := by decide +kernel
  have halfFinite : Parameters.minusHalf.isFinite = true := by decide +kernel
  have half : Parameters.minusHalf.toRat = -(1 / 2) := by
    have parts : Parameters.minusHalf.signedSignificand = -twoPow 23
        ∧ Parameters.minusHalf.exponent = -24 := by decide +kernel
    rw [Floating.toRat, parts.1, parts.2]
    norm_num [twoPow]
  rw [Parameters.Narrow, Parameters.decayScale]
  by_cases positive : (Floating.zero false).less parameters.sigma = true
  · obtain ⟨-, number, above⟩ := Floating.less_iff.mp positive
    rw [Floating.position_zero] at above
    have size : parameters.sigma.position = parameters.sigma.magnitude := by
      rw [Floating.position_eq, Floating.negative_of_position_pos above, if_neg Bool.false_ne_true]
    have narrow
        : parameters.sigma.lessOrSame Parameters.narrowest = true
          ↔ parameters.sigma.magnitude ≤ 0x00100000 := by
      simp only [Floating.lessOrSame_iff, number, boundNumber, bound, size, true_and]
      omega
    rw [if_pos positive, narrow, and_iff_right positive, not_le]
    rcases Floating.finite_or_infinite number with finite | infinite
    · have some : parameters.sigma.isZero = false := by
        rw [Floating.isZero, decide_eq_false_iff_not]
        omega
      have rounds := Floating.rounds_div halfFinite finite some
      have value
          : |Parameters.minusHalf.toRat / parameters.sigma.toRat|
            = 1 / 2 / FloatFormat.binary32.valueOf parameters.sigma.magnitude := by
        rw [half, abs_div, Floating.abs_toRat, abs_neg, abs_of_pos (by norm_num)]
      rw [Floating.isFinite_iff, rounds.magnitude, value, min_lt_iff, or_iff_left (lt_irrefl _)]
      exact magnitudeOf_half_div_lt_iff (by omega)
    · have quotient : Parameters.minusHalf.div parameters.sigma
          = .zero (Parameters.minusHalf.negative != parameters.sigma.negative) := by
        rw [Floating.div, if_neg (by simp [Floating.isNaN_of_isFinite halfFinite]),
          if_neg (by simp [number]), if_neg (by simp [Floating.isInfinite_of_isFinite halfFinite]),
          if_pos infinite]
      rw [quotient, Floating.isInfinite_iff.mp infinite]
      exact iff_of_true (Floating.isFinite_of_isZero (Floating.isZero_zero _)) (by decide)
  · rw [if_neg positive]
    exact iff_of_true (Floating.isFinite_of_isZero (Floating.isZero_zero _))
      (fun narrow => positive narrow.1)

-----------------------------------------------------------------------------------------
-- The comparison with boxes apart
-----------------------------------------------------------------------------------------

/-- With a positive threshold an overlap of 0 is below it. -/
theorem low_of_isZero (positive : (Floating.zero false).less parameters.overlapThreshold = true)
    (none : overlap.isZero = true)
    : overlap.less parameters.overlapThreshold = true := by
  obtain ⟨-, number, above⟩ := Floating.less_iff.mp positive
  have finite := Floating.isFinite_of_isZero none
  have position : overlap.position = 0 := by
    rw [← Int.natAbs_eq_zero, Floating.natAbs_position]
    exact Floating.isZero_iff.mp none
  rw [Floating.position_zero] at above
  exact Floating.less_iff.mpr ⟨Floating.isNaN_of_isFinite finite, number, position ▸ above⟩

theorem decay_of_low (low : overlap.less parameters.overlapThreshold = true)
    : parameters.decay overlap
      = ((parameters.decayScale.mul overlap).mul overlap).exp := by
  rw [Parameters.decay, Floating.lessOrSame, low, Bool.true_or, if_pos rfl]

/-- With a finite scale the factor of an overlap of 0 is 1: the exponent is a zero. -/
theorem decay_eq_one_of_isZero
    (positive : (Floating.zero false).less parameters.overlapThreshold = true)
    (wide : ¬parameters.Narrow) (none : overlap.isZero = true)
    : parameters.decay overlap = .one := by
  have finite := Floating.isFinite_of_isZero none
  rw [decay_of_low (low_of_isZero positive none),
    Floating.mul_zero_of_finite (isFinite_decayScale_iff.mpr wide) none,
    Floating.mul_of_isZero (Floating.isZero_zero _) finite, Floating.exp_zero]

/-- With a scale that overflows an overlap of 0 has no factor. -/
theorem isNaN_decay_of_isZero
    (positive : (Floating.zero false).less parameters.overlapThreshold = true)
    (narrow : parameters.Narrow) (none : overlap.isZero = true)
    : (parameters.decay overlap).isNaN = true := by
  have unbounded : ¬parameters.decayScale.isFinite = true :=
    fun finite => isFinite_decayScale_iff.mp finite narrow
  rw [decay_of_low (low_of_isZero positive none)]
  exact Floating.isNaN_exp
    (Floating.isNaN_mul_left (Floating.isNaN_mul_zero unbounded none) overlap)

/-- Boxes apart leave a score as it is, by induction on them. -/
theorem lower_clear (positive : (Floating.zero false).less parameters.overlapThreshold = true)
    (wide : ¬parameters.Narrow) (standing : parameters.scoreThreshold.less score = true) {box : Box}
    {kept : List Box} (clear : ∀ other ∈ kept, (box.overlap other).isZero = true)
    : parameters.lower box kept score = (score, false) := by
  induction kept with
  | nil => rfl
  | cons first rest ih =>
      obtain ⟨none, others⟩ := List.forall_mem_cons.mp clear
      rw [lower_cons_of_one standing rest (decay_eq_one_of_isZero positive wide none)
        (low_of_isZero positive none)]
      exact ih others

/-- A narrow decay leaves a score above the threshold only if it met no box apart, by induction on
the boxes.
-/
theorem lower_overlapping
    (positive : (Floating.zero false).less parameters.overlapThreshold = true)
    (narrow : parameters.Narrow) {box : Box} {kept : List Box}
    (done : parameters.lower box kept score = (lowered, false))
    (above : parameters.scoreThreshold.less lowered = true)
    : ∀ other ∈ kept, (box.overlap other).isZero = false := by
  induction kept generalizing score with
  | nil => exact fun other member => absurd member List.not_mem_nil
  | cons first rest ih =>
      simp only [Parameters.lower] at done
      split at done
      · cases done
      · split at done
        next low =>
          cases done
          rw [Floating.less_iff] at above
          rw [Floating.lessOrSame_iff] at low
          omega
        · refine List.forall_mem_cons.mpr ⟨?_, ih done⟩
          by_contra none
          rw [Bool.not_eq_false] at none
          have nan : (parameters.lower box rest _).1.isNaN = true := Parameters.isNaN_lower
            (Floating.isNaN_mul_right score (isNaN_decay_of_isZero positive narrow none)) box rest
          rw [done, (Floating.less_iff.mp above).2.1] at nan
          exact Bool.false_ne_true nan

-----------------------------------------------------------------------------------------
-- The selections of one class
-----------------------------------------------------------------------------------------

variable {boxes : List Box} {scores : List Binary32}
variable {next candidate : Candidate} {waiting selected : List Candidate}

/-- A candidate that is clear of all selections is selected at its first turn. -/
theorem judge_clear (positive : (Floating.zero false).less parameters.overlapThreshold = true)
    (wide : ¬parameters.Narrow) (standing : parameters.scoreThreshold.less next.score = true)
    (clear : ∀ kept ∈ selected, (next.box.overlap kept.box).isZero = true)
    : judge parameters selected next = .select next.score := by
  have unchecked : ∀ other ∈ (next.unchecked selected).map Candidate.box,
      (next.box.overlap other).isZero = true :=
    List.forall_mem_map.mpr fun kept member => clear kept (List.mem_of_mem_take member)
  rw [judge_eq, lower_clear positive wide standing unchecked]
  exact if_pos (same_self_of_less standing)

/-- No selection is taken back. -/
theorem subset_selectFrom (parameters : Parameters) (waiting selected : List Candidate)
    : selected ⊆ selectFrom parameters waiting selected := by
  have turn {waiting made waitingNext madeNext : List Candidate}
      (turn : Turn parameters waiting made waitingNext madeNext) (kept : selected ⊆ made)
      : selected ⊆ madeNext := by
    cases turn with
    | drop | postpone => exact kept
    | select => exact List.subset_cons_of_subset _ kept
  obtain ⟨-, kept⟩ :=
    selectFrom_keeps (fun _ made => selected ⊆ made) turn (List.Subset.refl selected)
  exact kept

/-- A candidate that is clear of all other selections in the end is selected under its score, if
there is room to the end. By induction on the selection.
-/
theorem mem_selectFrom_of_clear
    (positive : (Floating.zero false).less parameters.overlapThreshold = true)
    (wide : ¬parameters.Narrow) (sound : Sound parameters boxes scores waiting selected)
    (spare : (selectFrom parameters waiting selected).length < parameters.maxPerClass)
    (member : candidate ∈ waiting)
    (clear
      : ∀ kept ∈ selectFrom parameters waiting selected,
          kept.index ≠ candidate.index → (candidate.box.overlap kept.box).isZero = true)
    : ∃ kept ∈ selectFrom parameters waiting selected,
        kept.index = candidate.index ∧ kept.score = candidate.score := by
  -- A candidate whose turn it is is clear of the selections so far, which have other indices.
  have judged {rest selected : List Candidate}
      (sound : Sound parameters boxes scores (candidate :: rest) selected)
      (clear
        : ∀ kept ∈ selectFrom parameters (candidate :: rest) selected,
            kept.index ≠ candidate.index → (candidate.box.overlap kept.box).isZero = true)
      : judge parameters selected candidate = .select candidate.score := by
    refine judge_clear positive wide (sound.stands candidate List.mem_cons_self).above ?_
    intro kept selection
    refine clear kept (subset_selectFrom parameters _ _ selection) fun same => ?_
    refine (List.nodup_cons.mp sound.distinct).1 (same ▸ ?_)
    exact List.mem_map_of_mem (List.mem_append_right _ selection)
  fun_induction selectFrom parameters waiting selected with
  | case1 selected => exact absurd member List.not_mem_nil
  | case2 selected next rest full => exact absurd spare (Nat.not_lt.mpr full)
  | case3 selected next rest room verdict ih =>
      have turn : Turn parameters (next :: rest) selected rest selected :=
        .drop (Nat.lt_of_not_le room) verdict
      rcases List.mem_cons.mp member with rfl | later
      · rw [← turn.selectFrom_eq] at clear
        cases verdict.symm.trans (judged sound clear)
      · exact ih (sound.turn turn) spare later clear
  | case4 selected next rest room score verdict ih =>
      have turn
          : Turn parameters (next :: rest) selected rest
              (next.rescored score selected.length :: selected) :=
        .select (Nat.lt_of_not_le room) verdict
      rcases List.mem_cons.mp member with rfl | later
      · rw [← turn.selectFrom_eq] at clear
        cases verdict.symm.trans (judged sound clear)
        exact ⟨_, subset_selectFrom parameters _ _ List.mem_cons_self, rfl, rfl⟩
      · exact ih (sound.turn turn) spare later clear
  | case5 selected next rest room score verdict ih =>
      have turn
          : Turn parameters (next :: rest) selected
              ((next.rescored score selected.length).enqueue rest) selected :=
        .postpone (Nat.lt_of_not_le room) verdict
      rcases List.mem_cons.mp member with rfl | later
      · rw [← turn.selectFrom_eq] at clear
        cases verdict.symm.trans (judged sound clear)
      · exact ih (sound.turn turn) spare (Candidate.mem_enqueue.mpr (.inr later)) clear

/-- Each selection overlaps all earlier ones, and each candidate those that it was compared with. -/
abbrev Overlapping (waiting selected : List Candidate) : Prop :=
  Related (fun later earlier => (later.overlap earlier).isZero = false) waiting selected

theorem Overlapping.turn
    (positive : (Floating.zero false).less parameters.overlapThreshold = true)
    (narrow : parameters.Narrow) (sound : Sound parameters boxes scores waiting selected)
    (overlapping : Overlapping waiting selected) {waitingNext selectedNext : List Candidate}
    (turn : Turn parameters waiting selected waitingNext selectedNext)
    : Overlapping waitingNext selectedNext := by
  apply Related.turn turn ?_ overlapping
  intro next member score verdict earlier unchecked
  have stands := sound.stands next (List.mem_append_left _ member)
  obtain ⟨done, above⟩ := lower_of_keeps stands.above verdict
  exact lower_overlapping positive narrow done above earlier.box (List.mem_map_of_mem unchecked)

/-- With a narrow decay each selection overlaps all earlier ones of its class. -/
theorem overlapping_selectClass
    (positive : (Floating.zero false).less parameters.overlapThreshold = true)
    (narrow : parameters.Narrow) (boxes : List Box) (scores : List Binary32)
    : (selectClass parameters boxes scores).Pairwise fun earlier later =>
        (later.box.overlap earlier.box).isZero = false := by
  have start : Overlapping (Candidate.queue parameters.scoreThreshold boxes scores) [] :=
    related_start fun candidate member => (Candidate.mem_queue.mp member).2.2.2
  obtain ⟨left, -, overlapping⟩ :=
    selectFrom_keeps
      (fun waiting selected =>
        Sound parameters boxes scores waiting selected ∧ Overlapping waiting selected)
      (fun turn kept => ⟨kept.1.turn turn, kept.2.turn positive narrow kept.1 turn⟩)
      ⟨sound_queue parameters boxes scores, start⟩
  rw [selectClass, List.pairwise_reverse]
  exact overlapping.selections

-----------------------------------------------------------------------------------------
-- Every selection
-----------------------------------------------------------------------------------------

/-- A box of a class with a score above the threshold, where no other selection of the class shares
area with it.
-/
structure ClearBox (parameters : Parameters) (labels count : Nat) (boxes scores : List Binary32)
    (selected : List Selected) (batch label index : Nat) (score : Binary32)
    : Prop where
  inside : index < count
  scored : scoreAt? labels count scores batch label index = some score
  above : parameters.scoreThreshold.less score = true
  clear
    : ∀ entry ∈ ofClass batch label selected,
        entry.index ≠ index
        → ∀ box other,
            boxAt? parameters.encoding count boxes batch index = some box
            → boxAt? parameters.encoding count boxes batch entry.index = some other
            → (box.overlap other).isZero = true

/-- One of two boxes overlaps the other one. -/
def Box.Touches (box other : Box) : Prop :=
  (box.overlap other).isZero = false ∨ (other.overlap box).isZero = false

section

variable {boxes scores : List Binary32} {boxesDims scoresDims : List Nat}
variable {batches labels count batch label index : Nat}

theorem Fits.boxAt_eq_some (fits : Fits boxes boxesDims scores scoresDims batches labels count)
    (inside : batch < batches) (bound : index < count) (encoding : BoxEncoding)
    : ∃ box, boxAt? encoding count boxes batch index = some box := by
  rw [← getElem?_decoded bound]
  exact ⟨_, List.getElem?_eq_getElem (by rwa [fits.length_decoded inside])⟩

theorem ofClass_perm {selected : List Selected}
    (same : selected.Perm (selectAll parameters batches labels count boxes scores))
    (inside : batch < batches) (insideToo : label < labels)
    : (ofClass batch label selected).Perm
        ((classSelections parameters labels count boxes scores batch label).map
          (Candidate.entry batch label)) := by
  rw [← ofClass_selectAll inside insideToo]
  exact same.filter _

/-- A clear box is selected under its own score if its class has room left. -/
theorem Fits.mem_of_clear (fits : Fits boxes boxesDims scores scoresDims batches labels count)
    {selected : List Selected}
    (same : selected.Perm (selectAll parameters batches labels count boxes scores))
    (positive : (Floating.zero false).less parameters.overlapThreshold = true)
    (wide : ¬parameters.Narrow) (inside : batch < batches) (insideToo : label < labels)
    (spare : (ofClass batch label selected).length < parameters.maxPerClass)
    (clearBox
      : ClearBox parameters labels count boxes scores selected batch label index score)
    : ⟨batch, label, index, score⟩ ∈ selected := by
  obtain ⟨bound, scored, above, clear⟩ := clearBox
  obtain ⟨box, known⟩ := fits.boxAt_eq_some inside bound parameters.encoding
  have listed
      : (⟨box, index, score, 0⟩ : Candidate)
        ∈ Candidate.queue parameters.scoreThreshold
            (Box.decodeAll parameters.encoding (piece (count * 4) batch boxes))
            (piece count (batch * labels + label) scores) := by
    rw [Candidate.mem_queue, getElem?_decoded bound, getElem?_classScores bound]
    exact ⟨known, scored, above, rfl⟩
  have entries := ofClass_perm same inside insideToo
  rw [entries.length_eq, List.length_map, classSelections, selectClass, List.length_reverse]
    at spare
  obtain ⟨kept, selection, sameIndex, sameScore⟩ :=
    mem_selectFrom_of_clear positive wide (sound_queue parameters _ _) spare listed (by
      intro kept selection different
      have member : kept ∈ classSelections parameters labels count boxes scores batch label :=
        List.mem_reverse.mpr selection
      exact clear _ (entries.mem_iff.mpr (List.mem_map_of_mem member)) different box kept.box known
        (fits.stands inside member).2.1)
  refine same.mem_iff.mpr (mem_selectAll.mpr
    ⟨batch, inside, label, insideToo, kept, List.mem_reverse.mpr selection, ?_⟩)
  rw [Candidate.entry, sameIndex, sameScore]

/-- With a narrow decay every two selections of a class overlap. -/
theorem Fits.touches_of_narrow (fits : Fits boxes boxesDims scores scoresDims batches labels count)
    {selected : List Selected}
    (same : selected.Perm (selectAll parameters batches labels count boxes scores))
    (positive : (Floating.zero false).less parameters.overlapThreshold = true)
    (narrow : parameters.Narrow) (inside : batch < batches) (insideToo : label < labels)
    {first second : Selected} (firstMember : first ∈ ofClass batch label selected)
    (secondMember : second ∈ ofClass batch label selected) (different : first.index ≠ second.index)
    : ∃ box other,
        boxAt? parameters.encoding count boxes batch first.index = some box
        ∧ boxAt? parameters.encoding count boxes batch second.index = some other
        ∧ box.Touches other := by
  have entries := ofClass_perm same inside insideToo
  obtain ⟨one, member, rfl⟩ := List.mem_map.mp (entries.mem_iff.mp firstMember)
  obtain ⟨other, memberToo, rfl⟩ := List.mem_map.mp (entries.mem_iff.mp secondMember)
  have touching
      : (classSelections parameters labels count boxes scores batch label).Pairwise
          fun one other => one.box.Touches other.box :=
    (overlapping_selectClass positive narrow _ _).imp .inr
  have symmetric : Std.Symm fun one other : Candidate => one.box.Touches other.box :=
    ⟨fun _ _ => Or.symm⟩
  refine ⟨one.box, other.box, (fits.stands inside member).2.1,
    (fits.stands inside memberToo).2.1, ?_⟩
  apply touching.forall member memberToo
  exact fun equal => different (congrArg Candidate.index equal)

/-- With a positive overlap threshold, a class that has room left in the end selects every box that
is clear of its other selections, under its own score, unless the decay is too narrow. With a decay
too narrow every two selections of a class overlap instead.
-/
theorem select_clear (fits : Fits boxes boxesDims scores scoresDims batches labels count)
    (parameters : Parameters)
    (positive : (Floating.zero false).less parameters.overlapThreshold = true)
    : ∃ selected,
        select boxes boxesDims scores scoresDims parameters = .ok selected
        ∧ ∀ batch < batches,
            ∀ label < labels,
              (¬parameters.Narrow
                → (ofClass batch label selected).length < parameters.maxPerClass
                → ∀ index score,
                    ClearBox parameters labels count boxes scores selected batch label index score
                    → ⟨batch, label, index, score⟩ ∈ selected)
              ∧ (parameters.Narrow
                → ∀ first ∈ ofClass batch label selected,
                    ∀ second ∈ ofClass batch label selected,
                      first.index ≠ second.index
                      → ∃ box other,
                          boxAt? parameters.encoding count boxes batch first.index = some box
                          ∧ boxAt? parameters.encoding count boxes batch second.index
                            = some other
                          ∧ box.Touches other) := by
  obtain ⟨selected, done, same⟩ := fits.select_perm parameters
  refine ⟨selected, done, ?_⟩
  intro batch inside label insideToo
  constructor
  · intro wide spare index score clearBox
    exact fits.mem_of_clear same positive wide inside insideToo spare clearBox
  · intro narrow first firstMember second secondMember different
    exact fits.touches_of_narrow same positive narrow inside insideToo firstMember secondMember
      different

end

/-- Two boxes that share no area. -/
def apartBoxes : List Binary32 :=
  [0, 0, 2, 2, 4, 4, 6, 6].map fun number => .ofNat number

def apartScores : List Binary32 :=
  [.ofNat 5, .ofNat 3]

/-- The decay is as wide as 1. -/
def apartParameters : Parameters :=
  { maxPerClass := 3, overlapThreshold := .one, sigma := .one, sortDescending := false }

/-- The decay has the least positive width. -/
def narrowParameters : Parameters :=
  { apartParameters with sigma := .ofBits 1 }

theorem fits_apart : Fits apartBoxes [1, 2, 4] apartScores [1, 1, 2] 1 1 2 :=
  ⟨rfl, rfl, rfl⟩

/-- The box that stands apart from a twin. -/
def hermit : Box :=
  ⟨.ofNat 4, .ofNat 4, .ofNat 6, .ofNat 6⟩

theorem select_apart_eq {parameters : Parameters} (corners : parameters.encoding = .corner)
    (threshold : parameters.scoreThreshold = .zero false)
    (unsorted : parameters.sortDescending = false)
    : select apartBoxes [1, 2, 4] apartScores [1, 1, 2] parameters
      = .ok
          ((selectFrom parameters [⟨twin, 0, .ofNat 5, 0⟩, ⟨hermit, 1, .ofNat 3, 0⟩] []).reverse.map
            (Candidate.entry 0 0)) := by
  have queue
      : Candidate.queue (.zero false) (Box.decodeAll .corner (piece (2 * 4) 0 apartBoxes))
          (piece 2 0 apartScores)
        = [⟨twin, 0, .ofNat 5, 0⟩, ⟨hermit, 1, .ofNat 3, 0⟩] := by
    decide +kernel
  rw [fits_apart.select_eq parameters, unsorted, if_neg Bool.false_ne_true, selectAll_eq]
  simp [classSelections, selectClass, corners, threshold, queue]

/-- With the least width the second box is dropped, though it shares no area with the first one. -/
theorem select_narrow
    : select apartBoxes [1, 2, 4] apartScores [1, 1, 2] narrowParameters
      = .ok [⟨0, 0, 0, .ofNat 5⟩] := by
  have first
      : Turn narrowParameters [⟨twin, 0, .ofNat 5, 0⟩, ⟨hermit, 1, .ofNat 3, 0⟩] []
          [⟨hermit, 1, .ofNat 3, 0⟩] [⟨twin, 0, .ofNat 5, 0⟩] :=
    .select (by decide) (by decide +kernel)
  have second
      : Turn narrowParameters [⟨hermit, 1, .ofNat 3, 0⟩] [⟨twin, 0, .ofNat 5, 0⟩] []
          [⟨twin, 0, .ofNat 5, 0⟩] :=
    .drop (by decide) (by decide +kernel)
  rw [select_apart_eq rfl rfl rfl, first.selectFrom_eq, second.selectFrom_eq, selectFrom]
  rfl

theorem clearBox_hermit (parameters : Parameters) (corners : parameters.encoding = .corner)
    (threshold : parameters.scoreThreshold = .zero false) {selected : List Selected}
    (firsts : ∀ entry ∈ selected, entry.index ≠ 1 → entry.index = 0)
    : ClearBox parameters 1 2 apartBoxes apartScores selected 0 0 1 (.ofNat 3) := by
  refine ⟨by decide, by decide +kernel, by rw [threshold]; decide +kernel, ?_⟩
  intro entry member different box other known knownToo
  rw [firsts entry (List.mem_of_mem_filter member) different] at knownToo
  rw [corners] at known knownToo
  have boxes : boxAt? .corner 2 apartBoxes 0 1 = some hermit
      ∧ boxAt? .corner 2 apartBoxes 0 0 = some twin := by
    decide +kernel
  cases known.symm.trans boxes.1
  cases knownToo.symm.trans boxes.2
  decide +kernel

/-- The class has room left and all coordinates are finite, but with the least width the second box
is not selected, though it is clear of the one selection.
-/
theorem exists_clear_dropped
    : Fits apartBoxes [1, 2, 4] apartScores [1, 1, 2] 1 1 2
      ∧ (∀ number ∈ apartBoxes, number.isFinite = true)
      ∧ (Floating.zero false).less narrowParameters.overlapThreshold = true
      ∧ ∃ selected,
          select apartBoxes [1, 2, 4] apartScores [1, 1, 2] narrowParameters = .ok selected
          ∧ (ofClass 0 0 selected).length < narrowParameters.maxPerClass
          ∧ ClearBox narrowParameters 1 2 apartBoxes apartScores selected 0 0 1 (.ofNat 3)
          ∧ ⟨0, 0, 1, .ofNat 3⟩ ∉ selected := by
  refine ⟨fits_apart, by decide +kernel, by decide, _, select_narrow, by decide, ?_, by simp⟩
  exact clearBox_hermit _ rfl rfl (by simp)

theorem select_apart
    : select apartBoxes [1, 2, 4] apartScores [1, 1, 2] apartParameters
      = .ok [⟨0, 0, 0, .ofNat 5⟩, ⟨0, 0, 1, .ofNat 3⟩] := by
  have first
      : Turn apartParameters [⟨twin, 0, .ofNat 5, 0⟩, ⟨hermit, 1, .ofNat 3, 0⟩] []
          [⟨hermit, 1, .ofNat 3, 0⟩] [⟨twin, 0, .ofNat 5, 0⟩] :=
    .select (by decide) (by decide +kernel)
  have second
      : Turn apartParameters [⟨hermit, 1, .ofNat 3, 0⟩] [⟨twin, 0, .ofNat 5, 0⟩] []
          [⟨hermit, 1, .ofNat 3, 1⟩, ⟨twin, 0, .ofNat 5, 0⟩] :=
    .select (by decide) (by decide +kernel)
  rw [select_apart_eq rfl rfl rfl, first.selectFrom_eq, second.selectFrom_eq, selectFrom]
  rfl

/-- With a decay of moderate width the second box is selected under its own score. -/
theorem select_apart_clear
    : Fits apartBoxes [1, 2, 4] apartScores [1, 1, 2] 1 1 2
      ∧ (Floating.zero false).less apartParameters.overlapThreshold = true
      ∧ ¬apartParameters.Narrow
      ∧ select apartBoxes [1, 2, 4] apartScores [1, 1, 2] apartParameters
        = .ok [⟨0, 0, 0, .ofNat 5⟩, ⟨0, 0, 1, .ofNat 3⟩]
      ∧ ClearBox apartParameters 1 2 apartBoxes apartScores
          [⟨0, 0, 0, .ofNat 5⟩, ⟨0, 0, 1, .ofNat 3⟩] 0 0 1 (.ofNat 3)
      ∧ (⟨0, 0, 1, .ofNat 3⟩ : Selected) ∈ [⟨0, 0, 0, .ofNat 5⟩, ⟨0, 0, 1, .ofNat 3⟩] := by
  have positive : (Floating.zero false).less apartParameters.overlapThreshold = true := by decide
  have wide : ¬apartParameters.Narrow := fun narrow =>
    absurd narrow.2 (by decide +kernel)
  have clear
      : ClearBox apartParameters 1 2 apartBoxes apartScores
          [⟨0, 0, 0, .ofNat 5⟩, ⟨0, 0, 1, .ofNat 3⟩] 0 0 1 (.ofNat 3) :=
    clearBox_hermit _ rfl rfl (by simp)
  obtain ⟨selected, done, all⟩ := select_clear fits_apart apartParameters positive
  cases done.symm.trans select_apart
  exact ⟨fits_apart, positive, wide, select_apart, clear,
    (all 0 (by decide) 0 (by decide)).1 wide (by decide) 1 (.ofNat 3) clear⟩

end TensorGraph.NonMaxSuppression
