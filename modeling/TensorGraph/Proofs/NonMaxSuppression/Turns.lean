import TensorGraph.Proofs.NonMaxSuppression.Queue

/-! The turns of a selection.

One turn takes the best waiting candidate and drops it, selects it or lets it wait again. What each
turn keeps, the whole selection keeps.
-/

namespace TensorGraph.NonMaxSuppression

variable {parameters : Parameters} {next : Candidate} {waiting selected rest : List Candidate}
variable {score lowered : Binary32}

-----------------------------------------------------------------------------------------
-- One turn
-----------------------------------------------------------------------------------------

/-- One turn leads from a queue and selections to others. -/
inductive Turn (parameters : Parameters)
    : List Candidate → List Candidate → List Candidate → List Candidate → Prop
  | drop {next : Candidate} {rest selected : List Candidate}
      (room : selected.length < parameters.maxPerClass)
      (verdict : judge parameters selected next = .drop)
      : Turn parameters (next :: rest) selected rest selected
  | select {next : Candidate} {rest selected : List Candidate} {score : Binary32}
      (room : selected.length < parameters.maxPerClass)
      (verdict : judge parameters selected next = .select score)
      : Turn parameters (next :: rest) selected rest
          (next.rescored score selected.length :: selected)
  | postpone {next : Candidate} {rest selected : List Candidate} {score : Binary32}
      (room : selected.length < parameters.maxPerClass)
      (verdict : judge parameters selected next = .postpone score)
      : Turn parameters (next :: rest) selected
          ((next.rescored score selected.length).enqueue rest) selected

/-- A turn leads to the same outcome, by cases on the turn. -/
theorem Turn.selectFrom_eq {waitingNext selectedNext : List Candidate}
    (turn : Turn parameters waiting selected waitingNext selectedNext)
    : selectFrom parameters waiting selected
      = selectFrom parameters waitingNext selectedNext := by
  cases turn with
  | drop room verdict =>
      rw [selectFrom, if_neg (Nat.not_le_of_lt room)]
      split <;> simp_all
  | select room verdict =>
      rw [selectFrom, if_neg (Nat.not_le_of_lt room)]
      split <;> simp_all
  | postpone room verdict =>
      rw [selectFrom, if_neg (Nat.not_le_of_lt room)]
      split <;> simp_all

/-- What each turn keeps holds at the end, by induction on the selection. -/
theorem selectFrom_keeps (Kept : List Candidate → List Candidate → Prop)
    (turn
      : ∀ {waiting selected waitingNext selectedNext},
          Turn parameters waiting selected waitingNext selectedNext
          → Kept waiting selected
          → Kept waitingNext selectedNext)
    (start : Kept waiting selected)
    : ∃ left, Kept left (selectFrom parameters waiting selected) := by
  fun_induction selectFrom parameters waiting selected with
  | case1 selected => exact ⟨[], start⟩
  | case2 selected next rest full => exact ⟨next :: rest, start⟩
  | case3 selected next rest room verdict ih => exact ih (turn (.drop (by omega) verdict) start)
  | case4 selected next rest room score verdict ih =>
      exact ih (turn (.select (by omega) verdict) start)
  | case5 selected next rest room score verdict ih =>
      exact ih (turn (.postpone (by omega) verdict) start)

-----------------------------------------------------------------------------------------
-- The comparison with selections
-----------------------------------------------------------------------------------------

/-- The selections that a candidate was not compared with, latest first. -/
def Candidate.unchecked (selected : List Candidate) (next : Candidate) : List Candidate :=
  selected.take (selected.length - next.checked)

/-- The selections that a candidate was compared with, latest first. -/
def Candidate.compared (selected : List Candidate) (next : Candidate) : List Candidate :=
  selected.drop (selected.length - next.checked)

theorem judge_eq (parameters : Parameters) (selected : List Candidate) (next : Candidate)
    : judge parameters selected next
      = match parameters.lower next.box ((next.unchecked selected).map Candidate.box)
          next.score with
        | (_, true) => .drop
        | (score, false) =>
            if score.same next.score then .select score
            else if parameters.scoreThreshold.less score then .postpone score
            else .drop :=
  rfl

/-- The verdict keeps the candidate, selected or waiting, under the given score. -/
def Verdict.Keeps (score : Binary32) (verdict : Verdict) : Prop :=
  verdict = .select score ∨ verdict = .postpone score

/-- A candidate that is kept was compared up to the end, and its score is above the threshold, by
cases on the verdict: a selected one has the score that it had.
-/
theorem lower_of_keeps (standing : parameters.scoreThreshold.less next.score = true)
    (verdict : (judge parameters selected next).Keeps score)
    : parameters.lower next.box ((next.unchecked selected).map Candidate.box) next.score
        = (score, false)
      ∧ parameters.scoreThreshold.less score = true := by
  rw [judge_eq] at verdict
  split at verdict
  · rcases verdict with wrong | wrong <;> cases wrong
  next lowered compared =>
    split at verdict
    next same =>
      rcases verdict with right | wrong
      · cases right
        exact ⟨compared, Floating.less_of_same standing same⟩
      · cases wrong
    · split at verdict
      next above =>
        rcases verdict with wrong | right
        · cases wrong
        · cases right
          exact ⟨compared, above⟩
      · rcases verdict with wrong | wrong <;> cases wrong

theorem same_of_select (verdict : judge parameters selected next = .select score)
    : score.same next.score = true := by
  rw [judge_eq] at verdict
  split at verdict
  · cases verdict
  · split at verdict
    next same =>
      cases verdict
      exact same
    · split at verdict <;> cases verdict

/-- What holds of all candidates holds of them after a turn if it holds of the one that was kept,
by cases on the turn.
-/
theorem Turn.all {Holds : Candidate → Prop} {waitingNext selectedNext : List Candidate}
    (turn : Turn parameters waiting selected waitingNext selectedNext)
    (before : ∀ candidate ∈ waiting ++ selected, Holds candidate)
    (kept
      : ∀ next ∈ waiting,
          ∀ score,
            (judge parameters selected next).Keeps score
            → Holds (next.rescored score selected.length))
    : ∀ candidate ∈ waitingNext ++ selectedNext, Holds candidate := by
  intro candidate member
  cases turn with
  | drop room verdict => exact before candidate (List.mem_cons_of_mem _ member)
  | @select next _ _ score room verdict =>
      rw [List.perm_middle.mem_iff, List.mem_cons] at member
      rcases member with rfl | other
      · exact kept next List.mem_cons_self score (.inl verdict)
      · exact before candidate (List.mem_cons_of_mem _ other)
  | @postpone next rest _ score room verdict =>
      have queued := Candidate.enqueue_perm (next.rescored score selected.length) rest
      rw [(queued.append_right selected).mem_iff, List.cons_append, List.mem_cons] at member
      rcases member with rfl | other
      · exact kept next List.mem_cons_self score (.inr verdict)
      · exact before candidate (List.mem_cons_of_mem _ other)

/-- A turn takes no index twice, by cases on the turn. -/
theorem Turn.nodup_index {waitingNext selectedNext : List Candidate}
    (turn : Turn parameters waiting selected waitingNext selectedNext)
    (distinct : ((waiting ++ selected).map Candidate.index).Nodup)
    : ((waitingNext ++ selectedNext).map Candidate.index).Nodup := by
  cases turn with
  | drop room verdict => exact (List.nodup_cons.mp distinct).2
  | select room verdict =>
      rw [(List.perm_middle.map _).nodup_iff]
      exact distinct
  | @postpone next rest _ score room verdict =>
      have queued := Candidate.enqueue_perm (next.rescored score selected.length) rest
      rw [((queued.append_right selected).map _).nodup_iff]
      exact distinct

/-- A comparison that leaves the score above the threshold has met no overlap at the threshold, by
induction on the boxes.
-/
theorem lower_apart {box : Box} {kept : List Box}
    (done : parameters.lower box kept score = (lowered, false))
    (above : parameters.scoreThreshold.less lowered = true)
    : ∀ other ∈ kept, parameters.overlapThreshold.lessOrSame (box.overlap other) = false := by
  induction kept generalizing score with
  | nil => exact fun other member => absurd member List.not_mem_nil
  | cons first rest ih =>
      simp only [Parameters.lower] at done
      split at done
      · cases done
      next apart =>
        split at done
        next low =>
          cases done
          rw [Floating.less_iff] at above
          rw [Floating.lessOrSame_iff] at low
          omega
        · intro other member
          rcases List.mem_cons.mp member with rfl | later
          · exact Bool.eq_false_iff.mpr apart
          · exact ih done other later

-----------------------------------------------------------------------------------------
-- What holds between a candidate and the selections before it
-----------------------------------------------------------------------------------------

theorem compared_cons {candidate : Candidate} (counted : candidate.checked ≤ selected.length)
    (latest : Candidate)
    : candidate.compared (latest :: selected) = candidate.compared selected := by
  rw [Candidate.compared, Candidate.compared, List.length_cons, Nat.succ_sub counted,
    List.drop_succ_cons]

/-- A relation of boxes holds between all selections and those before them, and between each waiting
candidate and the selections that it was compared with.
-/
structure Related (Relates : Box → Box → Prop) (waiting selected : List Candidate) : Prop where
  counted : ∀ candidate ∈ waiting, candidate.checked ≤ selected.length
  compared
    : ∀ candidate ∈ waiting,
        ∀ kept ∈ candidate.compared selected, Relates candidate.box kept.box
  selections : selected.Pairwise fun later earlier => Relates later.box earlier.box

variable {Relates : Box → Box → Prop}

/-- Before the first turn nothing was compared. -/
theorem related_start (fresh : ∀ candidate ∈ waiting, candidate.checked = 0)
    : Related Relates waiting [] := by
  refine ⟨?_, ?_, .nil⟩
  · intro candidate member
    rw [fresh candidate member]
    exact Nat.zero_le _
  · intro candidate member kept compared
    exact absurd (List.mem_of_mem_drop compared) List.not_mem_nil

/-- A candidate that was compared with the other selections is related to all of them. -/
theorem Related.all (related : Related Relates waiting selected) (member : next ∈ waiting)
    (unchecked : ∀ kept ∈ next.unchecked selected, Relates next.box kept.box)
    : ∀ kept ∈ selected, Relates next.box kept.box := by
  intro kept selection
  have split : next.unchecked selected ++ next.compared selected = selected :=
    List.take_append_drop _ _
  rw [← split] at selection
  rcases List.mem_append.mp selection with new | old
  · exact unchecked kept new
  · exact related.compared next member kept old

/-- A turn keeps a relation if a candidate that is kept by it is related to the selections that it
is compared with. By cases on the turn.
-/
theorem Related.turn {waitingNext selectedNext : List Candidate}
    (turn : Turn parameters waiting selected waitingNext selectedNext)
    (keeps
      : ∀ next ∈ waiting,
          ∀ score,
            (judge parameters selected next).Keeps score
            → ∀ kept ∈ next.unchecked selected, Relates next.box kept.box)
    (related : Related Relates waiting selected)
    : Related Relates waitingNext selectedNext := by
  cases turn with
  | drop room verdict =>
      exact ⟨fun candidate member => related.counted candidate (List.mem_cons_of_mem _ member),
        fun candidate member => related.compared candidate (List.mem_cons_of_mem _ member),
        related.selections⟩
  | @select next _ _ score room verdict =>
      have all :=
        related.all List.mem_cons_self (keeps next List.mem_cons_self score (.inl verdict))
      refine ⟨?_, ?_, List.pairwise_cons.mpr ⟨all, related.selections⟩⟩
      · intro candidate member
        exact Nat.le_succ_of_le (related.counted candidate (List.mem_cons_of_mem _ member))
      · intro candidate member
        rw [compared_cons (related.counted candidate (List.mem_cons_of_mem _ member))]
        exact related.compared candidate (List.mem_cons_of_mem _ member)
  | @postpone next _ _ score room verdict =>
      have all :=
        related.all List.mem_cons_self (keeps next List.mem_cons_self score (.inr verdict))
      refine ⟨?_, ?_, related.selections⟩
      · intro candidate member
        rcases Candidate.mem_enqueue.mp member with rfl | other
        · exact Nat.le_refl _
        · exact related.counted candidate (List.mem_cons_of_mem _ other)
      · intro candidate member
        rcases Candidate.mem_enqueue.mp member with rfl | other
        · intro kept compared
          exact all kept (List.mem_of_mem_drop compared)
        · exact related.compared candidate (List.mem_cons_of_mem _ other)

-----------------------------------------------------------------------------------------
-- The order of the result
-----------------------------------------------------------------------------------------

theorem lower_sortDescending (parameters : Parameters) (flag : Bool) (box : Box)
    (kept : List Box) (score : Binary32)
    : Parameters.lower { parameters with sortDescending := flag } box kept score
      = parameters.lower box kept score := by
  induction kept generalizing score with
  | nil => rfl
  | cons first rest ih =>
      simp only [Parameters.lower, ih]
      rfl

theorem judge_sortDescending (parameters : Parameters) (flag : Bool) (selected : List Candidate)
    (next : Candidate)
    : judge { parameters with sortDescending := flag } selected next
      = judge parameters selected next := by
  simp only [judge, lower_sortDescending]

theorem Turn.sortDescending {waitingNext selectedNext : List Candidate}
    (turn : Turn parameters waiting selected waitingNext selectedNext) (flag : Bool)
    : Turn { parameters with sortDescending := flag } waiting selected waitingNext
        selectedNext := by
  cases turn with
  | drop room verdict => exact .drop room ((judge_sortDescending ..).trans verdict)
  | select room verdict => exact .select room ((judge_sortDescending ..).trans verdict)
  | postpone room verdict => exact .postpone room ((judge_sortDescending ..).trans verdict)

/-- The order of the result does not matter while the selections are made, by induction on them. -/
theorem selectFrom_sortDescending (parameters : Parameters) (flag : Bool)
    (waiting selected : List Candidate)
    : selectFrom { parameters with sortDescending := flag } waiting selected
      = selectFrom parameters waiting selected := by
  fun_induction selectFrom parameters waiting selected with
  | case1 selected => rw [selectFrom]
  | case2 selected next rest full => rw [selectFrom, if_pos full]
  | case3 selected next rest room verdict ih =>
      have turn : Turn parameters (next :: rest) selected rest selected :=
        .drop (Nat.lt_of_not_le room) verdict
      rw [(turn.sortDescending flag).selectFrom_eq, ih]
  | case4 selected next rest room score verdict ih =>
      have turn
          : Turn parameters (next :: rest) selected rest
              (next.rescored score selected.length :: selected) :=
        .select (Nat.lt_of_not_le room) verdict
      rw [(turn.sortDescending flag).selectFrom_eq, ih]
  | case5 selected next rest room score verdict ih =>
      have turn
          : Turn parameters (next :: rest) selected
              ((next.rescored score selected.length).enqueue rest) selected :=
        .postpone (Nat.lt_of_not_le room) verdict
      rw [(turn.sortDescending flag).selectFrom_eq, ih]

end TensorGraph.NonMaxSuppression
