import TensorGraph.Proofs.Floating.Arithmetic
import TensorGraph.Proofs.Graph.Conformance
import TensorGraph.Proofs.Graph.Declining
import TensorGraph.Proofs.NonMaxSuppression.Safety

/-! What the outputs of a selection report.

Inference bounds the number of rows and evaluation fills them, and each reads the optional inputs in
its own way. On tensors as inference saw them every selection is reported, in a row of its own and
within the bound.
-/

namespace TensorGraph

open NonMaxSuppression (Selected piece select)

-----------------------------------------------------------------------------------------
-- Rows
-----------------------------------------------------------------------------------------

namespace NonMaxSuppression

/-- Of rows of equal length one after the other, each is the piece at its place. By induction on the
rows.
-/
theorem piece_flatMap {α β : Type} {size : Nat} {f : α → List β}
    (sized : ∀ x, (f x).length = size) {xs : List α} {place : Nat} {x : α}
    (present : xs[place]? = some x)
    : piece size place (xs.flatMap f) = f x := by
  induction xs generalizing place with
  | nil => cases present
  | cons head rest ih =>
      rw [List.flatMap_cons]
      cases place with
      | zero =>
          cases present
          rw [piece, Nat.zero_mul, List.drop_zero, ← sized x, List.take_left]
      | succ place =>
          rw [piece, Nat.succ_mul, Nat.add_comm, ← List.drop_drop, List.drop_left' (sized head)]
          exact ih present

theorem piece_rows {α β : Type} (first second third : α → β) {xs : List α} {place : Nat} {x : α}
    (present : xs[place]? = some x)
    : piece 3 place (xs.flatMap fun x => [first x, second x, third x])
      = [first x, second x, third x] := by
  have sized (x : α) : [first x, second x, third x].length = 3 := rfl
  exact piece_flatMap sized present

theorem piece_map {α β : Type} (size place : Nat) (f : α → β) (xs : List α)
    : piece size place (xs.map f) = (piece size place xs).map f := by
  rw [piece, piece, List.map_take, List.map_drop]

end NonMaxSuppression

namespace SelectionOp

variable {op : SelectionOp} {selected : List Selected}

-----------------------------------------------------------------------------------------
-- Integers in a tensor
-----------------------------------------------------------------------------------------

/-- A number as a tensor of integers of the given type holds it. -/
def stored (dtype : DType) (value : Int64) : Int64 :=
  if dtype = .i32 then value.toInt32.toInt64 else value

theorem toInt_stored (dtype : DType) {number : Nat} (small : number < twoPow 31)
    : (stored dtype (.ofNat number)).toInt = number := by
  have wide : (Int64.ofNat number).toInt = number := by
    apply Int64.toInt_ofNat_of_lt
    have words : twoPow 31 = 2147483648 := rfl
    omega
  unfold stored
  split
  · rw [Int32.toInt_toInt64, Int64.toInt_toInt32, wide]
    have words : twoPow 31 = 2147483648 := rfl
    exact Int.bmod_eq_of_le (by omega) (by omega)
  · exact wide

theorem toInt64s_of_integers {dtype : DType} {values : List Int64} {shape : Shape}
    {tensor : Tensor} (built : integers dtype values shape = .ok tensor)
    : tensor.toInt64s = .ok (values.map (stored dtype)) := by
  unfold integers at built
  split at built
  next narrow =>
    obtain ⟨buffer, -⟩ := Tensor.ofElements_eq_ok built
    have narrowed : stored dtype = fun value => value.toInt32.toInt64 :=
      funext fun _ => if_pos narrow
    rw [Tensor.toInt64s, buffer, Buffer.toInt64s, List.map_map, narrowed]
    rfl
  next wide =>
    obtain ⟨buffer, -⟩ := Tensor.ofElements_eq_ok built
    have unchanged : stored dtype = id := funext fun _ => if_neg wide
    rw [Tensor.toInt64s, buffer, Buffer.toInt64s, unchanged, List.map_id]

-----------------------------------------------------------------------------------------
-- The outputs
-----------------------------------------------------------------------------------------

/-- The row of selected indices is that of a selection. -/
def IndexRow (numbers : List Int64) (one : Selected) : Prop :=
  one.batch < twoPow 31
  → one.label < twoPow 31
  → one.index < twoPow 31
  → numbers.map Int64.toInt = [(one.batch : Int), one.label, one.index]

/-- A single-precision value stands for a number: it is the number rounded, which is the number
itself if that has no more than 24 bits.
-/
structure StandsFor (value : Binary32) (number : Nat) : Prop where
  rounds : Floating.Rounds (number : ℚ) value
  exact : number < twoPow 24 → value.isFinite ∧ value.toRat = number

/-- The row of selected scores is that of a selection. -/
def ScoreRow (values : List Binary32) (one : Selected) : Prop :=
  ∃ batch label,
    values = [batch, label, one.score] ∧ StandsFor batch one.batch ∧ StandsFor label one.label

/-- Three tensors report selections: they have as many rows as there are selections, each row is
that of a selection, and the third one holds the number of rows.
-/
structure Reports (op : SelectionOp) (selected : List Selected) (indices scores valid : Tensor)
    : Prop where
  descs
    : List.Forall₂ (fun tensor desc => Tensor.desc? tensor = some desc) [indices, scores, valid]
        (op.bounds selected.length)
  indices
    : ∃ numbers,
        indices.toInt64s = .ok numbers
        ∧ ∀ row one, selected[row]? = some one → IndexRow (piece 3 row numbers) one
  scores
    : ∃ values,
        scores.data .f32 = .ok values
        ∧ ∀ row one, selected[row]? = some one → ScoreRow (piece 3 row values) one
  valid
    : ∃ number,
        valid.toInt64s = .ok [number]
        ∧ (selected.length < twoPow 31 → number.toInt = selected.length)

theorem standsFor_ofNat (number : Nat) : StandsFor (.ofNat number) number where
  rounds := Floating.rounds_ofNat number
  exact small := (Floating.rounds_ofNat number).exact (Floating.representable_natCast small)

theorem reports_of_pack (integral : op.outputType = .i32 ∨ op.outputType = .i64)
    {indices scores valid : Tensor} (packed : op.pack selected = .ok (indices, scores, valid))
    : op.Reports selected indices scores valid := by
  obtain ⟨indicesShape, scoresShape, validShape, scoresType, types⟩ := pack_eq_ok packed
  obtain ⟨indicesType, validType⟩ := types integral
  simp only [pack, bind_eq_ok_iff, Except.ok.injEq, Prod.mk.injEq] at packed
  obtain ⟨_, indicesBuilt, _, scoresBuilt, _, validBuilt, rfl, rfl, rfl⟩ := packed
  refine ⟨?_, ?_, ?_, ?_⟩
  · refine .cons (Tensor.desc?_eq_some_iff.mpr ⟨indicesType, indicesShape⟩) ?_
    refine .cons (Tensor.desc?_eq_some_iff.mpr ⟨scoresType, scoresShape⟩) ?_
    exact .cons (Tensor.desc?_eq_some_iff.mpr ⟨validType, validShape⟩) .nil
  · refine ⟨_, toInt64s_of_integers indicesBuilt, ?_⟩
    intro row one present batchSmall labelSmall indexSmall
    rw [NonMaxSuppression.piece_map, NonMaxSuppression.piece_rows _ _ _ present]
    simp only [List.map_cons, List.map_nil, toInt_stored _ batchSmall, toInt_stored _ labelSmall,
      toInt_stored _ indexSmall]
  · refine ⟨_, Tensor.data_of_buffer (Tensor.ofElements_eq_ok scoresBuilt).1, ?_⟩
    intro row one present
    rw [NonMaxSuppression.piece_rows _ _ _ present]
    exact ⟨_, _, rfl, standsFor_ofNat _, standsFor_ofNat _⟩
  · exact ⟨_, toInt64s_of_integers validBuilt, toInt_stored _⟩

-----------------------------------------------------------------------------------------
-- Inference and evaluation
-----------------------------------------------------------------------------------------

/-- Tensors have exactly the descriptors that inference saw, and a limit that was constant is still
the same.
-/
structure AsSeen (inputs : List Tensor) (seen : List InferenceInput) : Prop where
  descs : List.Forall₂ (fun input saw => Tensor.desc? input = some saw.desc) inputs seen
  limit
    : ∀ saw value, seen[2]? = some saw → saw.constant = some value → inputs[2]? = some value

section Accepted

variable {boxes scores : Tensor} {others : List Tensor} {boxesSeen scoresSeen : InferenceInput}
variable {rest : List InferenceInput} {batches labels count : Nat}

/-- Boxes and scores as inference accepts them can be read. -/
theorem Accepts.readable
    (accepts
      : op.Accepts boxesSeen.desc scoresSeen.desc (rest.map InferenceInput.desc) batches labels
          count)
    (boxesDesc : boxes.desc? = some boxesSeen.desc)
    (scoresDesc : scores.desc? = some scoresSeen.desc)
    : Readable boxes scores := by
  obtain ⟨boxesType, boxesShape⟩ := Tensor.desc?_eq_some_iff.mp boxesDesc
  obtain ⟨scoresType, scoresShape⟩ := Tensor.desc?_eq_some_iff.mp scoresDesc
  refine ⟨boxesType ▸ accepts.boxesType, scoresType ▸ accepts.scoresType, ?_⟩
  refine ⟨batches, labels, count, ?_, ?_⟩
  · rw [boxesShape, ← accepts.boxesDims]
  · rw [scoresShape, ← accepts.scoresDims]

/-- Scalars as inference accepts them have one element each. -/
theorem Accepts.singleScalars
    (accepts
      : op.Accepts boxesSeen.desc scoresSeen.desc (rest.map InferenceInput.desc) batches labels
          count)
    (descs : List.Forall₂ (fun input saw => Tensor.desc? input = some saw.desc) others rest)
    : SingleScalars others := by
  have described {index : Nat} {scalar : Tensor} (present : others[index]? = some scalar)
      : ∃ desc,
          (rest.map InferenceInput.desc)[index]? = some desc
          ∧ scalar.dtype = desc.dtype
          ∧ scalar.shape = some desc.shape := by
    obtain ⟨saw, partner, here⟩ := exists_partner_at descs present
    refine ⟨saw.desc, ?_, Tensor.desc?_eq_some_iff.mp here⟩
    rw [List.getElem?_map, partner, Option.map_some]
  refine ⟨?_, ?_, ?_⟩
  · intro scalar member
    obtain ⟨index, present⟩ := List.getElem?_of_mem member
    obtain ⟨desc, known, -, shaped⟩ := described present
    rw [Tensor.length_of_shape shaped]
    exact accepts.single known
  · intro scalar present
    obtain ⟨desc, known, type, -⟩ := described present
    rw [type]
    exact (accepts.limit desc known).type
  · intro index scalar present
    obtain ⟨desc, known, type, -⟩ := described present
    rw [type]
    exact (accepts.reals index desc known).type

end Accepted

/-- What a selection on tensors makes of them: it reads the boxes and scores in single precision,
selects from them with the parameters that the inputs give, and reports what was selected.
-/
structure Selects (op : SelectionOp) (inputs : List Tensor) (selected : List Selected)
    (indices scores valid : Tensor)
    : Prop where
  chosen
    : ∃ boxesTensor scoresTensor others boxValues boxShape scoreValues scoreShape parameters,
        inputs = boxesTensor :: scoresTensor :: others
        ∧ boxesTensor.toSingles = .ok boxValues
        ∧ boxesTensor.shape = some boxShape
        ∧ scoresTensor.toSingles = .ok scoreValues
        ∧ scoresTensor.shape = some scoreShape
        ∧ op.parameters inputs = .ok parameters
        ∧ select boxValues boxShape.dims scoreValues scoreShape.dims parameters = .ok selected
  reports : op.Reports selected indices scores valid

theorem limit_of_parameters {inputs : List Tensor} {parameters : NonMaxSuppression.Parameters}
    (known : op.parameters inputs = .ok parameters)
    : limitInput inputs = .ok parameters.maxPerClass := by
  simp only [SelectionOp.parameters, bind_eq_ok_iff, Except.ok.injEq] at known
  obtain ⟨limit, limited, _, -, _, -, _, -, rfl⟩ := known
  exact limited

/-- On tensors as inference saw them a selection evaluates, into any three outputs. It reports every
selection in a row of its own, and there are no more of them than the rows that inference gave. The
inputs fit into memory, as every buffer does that was allocated, and machine words count what their
extents ask for.
-/
theorem evaluate_reports {seen : List InferenceInput} {descs : List TensorDesc}
    (accepted : op.infer seen = .ok descs) {inputs : List Tensor} (asSeen : AsSeen inputs seen)
    (stored : ∀ input ∈ inputs, Buffer.fits input.dtype input.length)
    (counted : ∀ input ∈ inputs, input.Counted)
    : ∃ selected indices scores valid most,
        op.Selects inputs selected indices scores valid
        ∧ (∀ first second third rest,
            op.evaluate (first :: second :: third :: rest) inputs
            = .ok ⟨true, indices :: scores :: valid :: rest⟩)
        ∧ descs = op.bounds most
        ∧ selected.length ≤ most := by
  obtain ⟨boxesSeen, scoresSeen, rest, batches, labels, count, most, rfl, accepts, allowed, rfl⟩ :=
    infer_eq_ok_iff.mp accepted
  obtain ⟨boxes, _, boxesDesc, described, rfl⟩ := List.forall₂_cons_right_iff.mp asSeen.descs
  obtain ⟨scores, others, scoresDesc, scalars, rfl⟩ := List.forall₂_cons_right_iff.mp described
  have readable := accepts.readable boxesDesc scoresDesc
  have scoresMember : scores ∈ boxes :: scores :: others := by simp
  have few := readable.few_scores ⟨.inl (stored scores scoresMember), counted scores scoresMember⟩
  obtain ⟨⟨indices, selectedScores, valid⟩, done⟩ :=
    op.run_of_readable readable (counted boxes List.mem_cons_self) (counted scores scoresMember)
      few (accepts.singleScalars scalars)
  have ran := done
  simp only [run, bind_eq_ok_iff, orFailure_eq_ok_iff] at ran
  obtain ⟨parameters, known, boxValues, boxesRead, boxShape, boxShaped, scoreValues, scoresRead,
    scoreShape, scoreShaped, selected, chosen, packed⟩ := ran
  have boxesShape := Tensor.staticShape_eq_ok boxShaped
  have scoresShape := Tensor.staticShape_eq_ok scoreShaped
  refine ⟨selected, indices, selectedScores, valid, word (batches * labels * most), ⟨?_, ?_⟩, ?_,
    rfl, ?_⟩
  · exact ⟨boxes, scores, others, boxValues, boxShape, scoreValues, scoreShape, parameters, rfl,
      boxesRead, boxesShape, scoresRead, scoresShape, known, chosen⟩
  · exact reports_of_pack accepts.outputType packed
  · intro first second third kept
    exact evaluate_of_run (lookup_of_real readable.boxesType) done
  · -- Both read the limit, inference from the constant and evaluation from the tensor.
    have limited := limit_of_parameters known
    have unchanged (saw : InferenceInput) (value : Tensor) (first : rest.head? = some saw)
        (constant : saw.constant = some value)
        : others.head? = some value := by
      rw [List.head?_eq_getElem?] at first ⊢
      exact asSeen.limit saw value first constant
    have fewest := limit_le_perClass scalars.length_eq unchanged limited allowed
    have length := Tensor.length_of_toSingles scoresRead
    have short : scoreValues.length < twoPow 64 := by omega
    obtain ⟨_, _, _, -, dims, scoreCount, bound⟩ := NonMaxSuppression.select_eq_ok chosen short
    cases scoresShape.symm.trans (Tensor.desc?_eq_some_iff.mp scoresDesc).2
    cases dims.symm.trans accepts.scoresDims
    have rows := Nat.mul_le_mul_left (batches * labels) (perClass_le allowed)
    rw [← scoreCount] at rows
    rw [word_of_lt (Nat.lt_of_le_of_lt rows short)]
    exact bound.trans (Nat.mul_le_mul_left _ fewest)

-----------------------------------------------------------------------------------------
-- Two boxes alike
-----------------------------------------------------------------------------------------

/-- A selection from three boxes of at most three, where a full overlap suppresses a box. -/
def twinSelection : SelectionOp :=
  ⟨.corner, false, .i32⟩

def twinInputs : List Tensor :=
  [
    ⟨⟨.f32, NonMaxSuppression.twinBoxes⟩, some ⟨[1, 3, 4]⟩, rfl⟩,
    ⟨⟨.f32, NonMaxSuppression.twinScores⟩, some ⟨[1, 1, 3]⟩, rfl⟩,
    .scalar .i32 3,
    .scalar .f32 .one
  ]

/-- The limit is constant, the other inputs are not. -/
def twinsSeen : List InferenceInput :=
  [
    ⟨⟨.f32, ⟨[1, 3, 4]⟩⟩, none⟩,
    ⟨⟨.f32, ⟨[1, 1, 3]⟩⟩, none⟩,
    ⟨⟨.i32, .scalar⟩, some (.scalar .i32 3)⟩,
    ⟨⟨.f32, .scalar⟩, none⟩
  ]

/-- Three rows are inferred, and one is reported. -/
theorem twins_evaluate_reports
    : twinSelection.infer twinsSeen = .ok (twinSelection.bounds 3)
      ∧ AsSeen twinInputs twinsSeen
      ∧ (∀ input ∈ twinInputs, Buffer.fits input.dtype input.length)
      ∧ (∀ input ∈ twinInputs, input.Counted)
      ∧ ∃ indices scores valid,
          twinSelection.Reports [⟨0, 0, 1, .ofNat 5⟩] indices scores valid
          ∧ twinSelection.evaluate [.unshaped .i32, .unshaped .f32, .unshaped .i32] twinInputs
            = .ok ⟨true, [indices, scores, valid]⟩ := by
  have accepted : twinSelection.infer twinsSeen = .ok (twinSelection.bounds 3) := rfl
  have asSeen : AsSeen twinInputs twinsSeen := by
    refine ⟨.cons rfl (.cons rfl (.cons rfl (.cons rfl .nil))), ?_⟩
    intro saw value third constant
    cases third
    cases constant
    rfl
  have fits : ∀ input ∈ twinInputs, Buffer.fits input.dtype input.length := by decide
  have counted : ∀ input ∈ twinInputs, input.Counted := by decide
  obtain ⟨selected, indices, scores, valid, most, selects, evaluated, -, -⟩ :=
    evaluate_reports accepted asSeen fits counted
  obtain ⟨⟨_, _, _, _, _, _, _, _, same, boxes, boxShape, values, scoreShape, parameters, chosen⟩,
    reports⟩ := selects
  cases same
  cases boxes
  cases boxShape
  cases values
  cases scoreShape
  cases parameters
  cases chosen.symm.trans NonMaxSuppression.select_twins
  exact ⟨accepted, asSeen, fits, counted, indices, scores, valid, reports, evaluated _ _ _ []⟩

/-- Boxes and scores without elements, under extents whose products a machine word holds as 0. -/
def hollowInputs : List Tensor :=
  [
    ⟨⟨.f32, []⟩, some ⟨[twoPow 62, 1, 4]⟩, rfl⟩,
    ⟨⟨.f32, []⟩, some ⟨[twoPow 62, 4, 1]⟩, rfl⟩,
    .scalar .i64 1
  ]

def hollowSeen : List InferenceInput :=
  [
    ⟨⟨.f32, ⟨[twoPow 62, 1, 4]⟩⟩, none⟩,
    ⟨⟨.f32, ⟨[twoPow 62, 4, 1]⟩⟩, none⟩,
    ⟨⟨.i64, .scalar⟩, some (.scalar .i64 1)⟩
  ]

/-- Without the condition on the extents a selection that inference accepts can stop: the boxes of
the first batch are missing.
-/
theorem exists_accepted_evaluate_fault
    : ∃ (op : SelectionOp) (seen : List InferenceInput) (inputs outputs : List Tensor),
        op.infer seen = .ok (op.bounds 0)
        ∧ AsSeen inputs seen
        ∧ (∀ input ∈ inputs, Buffer.fits input.dtype input.length)
        ∧ outputs.length = 3
        ∧ op.evaluate outputs inputs = .error .indexOutOfRange := by
  refine ⟨twinSelection, hollowSeen, hollowInputs, [.unshaped .i32, .unshaped .f32, .unshaped .i32],
    rfl, ⟨.cons rfl (.cons rfl (.cons rfl .nil)), ?_⟩, by decide, rfl, rfl⟩
  intro saw value third constant
  cases third
  cases constant
  rfl

end SelectionOp

end TensorGraph
