import TensorGraph.Proofs.Graph.Evaluation
import TensorGraph.Proofs.Graph.Replacement
import TensorGraph.Proofs.Graph.Typed

/-! Computed tensors conform to the inferred descriptors.

The element type is as inferred. What holds of a shape and itself and is kept by reductions holds of
the computed and the inferred shape, if it does where selections compute. So no extent is larger
than inferred: a selection can have fewer rows, but where inference leaves no elements the shape is
exactly as inferred. So are the shapes of boxes and scores, because what selections compute has a
lower rank, and for that reason machine words count the rows that are inferred from them.
-/

namespace TensorGraph

-----------------------------------------------------------------------------------------
-- Computed and inferred shapes
-----------------------------------------------------------------------------------------

/-- A relation of computed to inferred shapes that no reduction breaks. -/
structure Shape.Tracks (related : Shape → Shape → Prop) : Prop where
  refl : ∀ shape, related shape shape
  reduce
    : ∀ {actual inferred : Shape},
        related actual inferred
        → ∀ axes keepDims,
            related (actual.reduce axes keepDims) (inferred.reduce axes keepDims)

/-- Shapes of the same rank, and the same shapes if they have more than two axes. -/
structure Shape.Alike (actual inferred : Shape) : Prop where
  rank : actual.rank = inferred.rank
  deep : 2 < inferred.rank → actual = inferred

/-- No extent of a shape is larger than inferred, and the shape is as inferred if that has no
elements.
-/
structure Shape.Within (actual inferred : Shape) : Prop extends Shape.Alike actual inferred where
  extents : List.Forall₂ (· ≤ ·) actual.dims inferred.dims
  empty : inferred.count = 0 → actual = inferred

/-- The element type of a tensor is as inferred and its shape is related to the inferred one. -/
structure Tensor.Meets (related : Shape → Shape → Prop) (tensor : Tensor) (desc : TensorDesc)
    : Prop where
  dtype : tensor.dtype = desc.dtype
  shape : ∃ shape, tensor.shape = some shape ∧ related shape desc.shape

/-- The element type of a tensor is as inferred and its shape is within the inferred bounds. -/
abbrev Tensor.Conforms : Tensor → TensorDesc → Prop :=
  Tensor.Meets Shape.Within

namespace Shape

/-- Reduction keeps what relates the extents, by induction on the extents. -/
theorem forall₂_reduceFrom {related : Nat → Nat → Prop} (one : related 1 1) {axes : AxisSet}
    {keepDims : Bool} {actual inferred : List Nat} (extents : List.Forall₂ related actual inferred)
    (first : Nat)
    : List.Forall₂ related (reduceFrom axes keepDims first actual)
        (reduceFrom axes keepDims first inferred) := by
  induction extents generalizing first with
  | nil => exact .nil
  | cons here _ ih =>
      by_cases reduced : first ∈ axes
      · cases keepDims with
        | true =>
            rw [reduceFrom_true_cons_of_mem reduced, reduceFrom_true_cons_of_mem reduced]
            exact .cons one (ih (first + 1))
        | false =>
            rw [reduceFrom_false_cons_of_mem reduced, reduceFrom_false_cons_of_mem reduced]
            exact ih (first + 1)
      · rw [reduceFrom_cons_of_notMem reduced, reduceFrom_cons_of_notMem reduced]
        exact .cons here (ih (first + 1))

/-- Where a reduction leaves no elements as machine words count them, there were none. -/
theorem count_eq_zero_of_reduce {shape : Shape} {axes : AxisSet} {keepDims : Bool}
    (none : (shape.reduce axes keepDims).count = 0)
    : shape.count = 0 := by
  have left : twoPow 64 ∣ (shape.reduce axes keepDims).numel := Nat.dvd_of_mod_eq_zero none
  rw [count, shape.numel_eq_reduce_mul axes keepDims]
  exact Nat.mod_eq_zero_of_dvd (Nat.dvd_mul_right_of_dvd left _)

theorem rank_reduce_le (shape : Shape) (axes : AxisSet) (keepDims : Bool)
    : (shape.reduce axes keepDims).rank ≤ shape.rank := by
  rw [rank, reduce]
  exact Nat.le_trans (List.length_filterMap_le _ _) (Nat.le_of_eq List.length_zipIdx)

theorem alike_tracks : Tracks Alike where
  refl _ := ⟨rfl, fun _ => rfl⟩
  reduce := by
    intro actual inferred alike axes keepDims
    have extents : List.Forall₂ (fun _ _ => True) actual.dims inferred.dims :=
      List.forall₂_iff_get.mpr ⟨alike.rank, fun _ _ _ => trivial⟩
    refine ⟨(forall₂_reduceFrom trivial extents 0).length_eq, ?_⟩
    intro deep
    rw [alike.deep (Nat.lt_of_lt_of_le deep (inferred.rank_reduce_le axes keepDims))]

/-- The rows of selections do not matter. -/
theorem alike_rows (actual inferred : Nat) : Alike ⟨[actual, 3]⟩ ⟨[inferred, 3]⟩ :=
  ⟨rfl, fun deep => absurd deep (Nat.lt_irrefl 2)⟩

theorem within_tracks : Tracks Within where
  refl shape :=
    ⟨alike_tracks.refl shape, List.forall₂_same.mpr fun _ _ => Nat.le_refl _, fun _ => rfl⟩
  reduce := by
    intro actual inferred within axes keepDims
    refine ⟨alike_tracks.reduce within.toAlike axes keepDims,
      forall₂_reduceFrom (Nat.le_refl 1) within.extents 0, ?_⟩
    intro none
    rw [within.empty (count_eq_zero_of_reduce none)]

/-- A list of at most as many rows as inferred is within bounds: if no row is inferred, it is empty.
-/
theorem within_rows {actual inferred : Nat} (fewer : actual ≤ inferred)
    (counted : inferred < twoPow 64)
    : Within ⟨[actual, 3]⟩ ⟨[inferred, 3]⟩ := by
  refine ⟨alike_rows actual inferred, .cons fewer (.cons (Nat.le_refl 3) .nil), ?_⟩
  intro none
  have divides : twoPow 64 ∣ inferred * 3 := Nat.dvd_of_mod_eq_zero none
  have coprime : Nat.Coprime (twoPow 64) 3 := by decide
  have noRows : inferred = 0 :=
    Nat.eq_zero_of_dvd_of_lt (coprime.dvd_of_dvd_mul_right divides) counted
  subst noRows
  rw [Nat.le_zero.mp fewer]

end Shape

section Related

variable {related : Shape → Shape → Prop}

theorem Tensor.meets_of_desc? (tracks : Shape.Tracks related) {tensor : Tensor}
    {desc : TensorDesc} (described : tensor.desc? = some desc)
    : tensor.Meets related desc := by
  obtain ⟨type, shaped⟩ := Tensor.desc?_eq_some_iff.mp described
  exact ⟨type, desc.shape, shaped, tracks.refl desc.shape⟩

-----------------------------------------------------------------------------------------
-- Operations
-----------------------------------------------------------------------------------------

/-- A reduction gives a tensor of the element type of its data, whose shape is that of the data
reduced over the recorded axes.
-/
theorem ReductionOp.evaluate_desc {op : ReductionOp} {outputs inputs results : List Tensor}
    (single : outputs.length = 1) (evaluated : op.evaluate outputs inputs = .ok ⟨true, results⟩)
    : ∃ argument others shape result,
        inputs = argument :: others
        ∧ argument.shape = some shape
        ∧ result.desc? = some ⟨argument.dtype, shape.reduce op.axes op.keepDims⟩
        ∧ results = [result] := by
  obtain ⟨argument, others, out, rest, kernel, reduced, rfl, rfl, -, -, done, rfl⟩ :=
    evaluate_eq_true evaluated
  obtain ⟨shape, elements, values, shaped, -, -, -, -, buffer, reducedShape⟩ :=
    onTensors_eq_ok done
  have none : rest = [] := List.eq_nil_of_length_eq_zero (by simpa using single)
  subst none
  refine ⟨argument, others, shape, reduced, rfl, shaped, ?_, rfl⟩
  exact Tensor.desc?_eq_some_iff.mpr ⟨by rw [Tensor.dtype, buffer], reducedShape⟩

theorem ReductionOp.evaluate_meets (tracks : Shape.Tracks related) {op inferred : ReductionOp}
    {seen : List InferenceInput} {descs : List TensorDesc}
    (accepted : op.infer seen = .ok (inferred, descs)) {inputs outputs results : List Tensor}
    (meets : List.Forall₂ (fun input saw => Tensor.Meets related input saw.desc) inputs seen)
    (count : outputs.length = descs.length)
    (evaluated : inferred.evaluate outputs inputs = .ok ⟨true, results⟩)
    : List.Forall₂ (Tensor.Meets related) results descs := by
  obtain ⟨data, axes, resolved, rfl, -, -, rfl, rfl⟩ := infer_eq_ok_iff.mp accepted
  obtain ⟨argument, others, shape, result, rfl, shaped, described, rfl⟩ :=
    evaluate_desc count evaluated
  obtain ⟨type, resultShape⟩ := Tensor.desc?_eq_some_iff.mp described
  obtain ⟨dataType, _, known, here⟩ := (List.forall₂_cons.mp meets).1
  rw [shaped] at known
  cases known
  exact .cons ⟨type.trans dataType, _, resultShape, tracks.reduce here _ _⟩ .nil

/-- A selection that runs gives outputs of as many rows as it selects boxes. It reads boxes and
scores that fit together, and each class of each batch has no more selections than its limit and its
boxes allow.
-/
theorem SelectionOp.evaluate_desc {op : SelectionOp}
    (integral : op.outputType = .i32 ∨ op.outputType = .i64)
    {outputs inputs results : List Tensor} (three : outputs.length = 3)
    (evaluated : op.evaluate outputs inputs = .ok ⟨true, results⟩)
    : ∃ boxes scores others batches labels count limit rows,
        inputs = boxes :: scores :: others
        ∧ boxes.shape = some ⟨[batches, count, 4]⟩
        ∧ scores.shape = some ⟨[batches, labels, count]⟩
        ∧ batches * labels * count < twoPow 64
        ∧ limitInput inputs = .ok limit
        ∧ rows ≤ batches * labels * min limit count
        ∧ List.Forall₂ (fun result desc => Tensor.desc? result = some desc) results
            (op.bounds rows) := by
  obtain ⟨boxes, scores, others, widen, indices, selectedScores, valid, _, _, _, kept, rfl, rfl,
    done, rfl⟩ := evaluate_eq_true evaluated
  obtain ⟨batches, labels, count, limit, selected, boxShape, scoreShape, scoreCount, -, limited,
    bound, packed⟩ := run_eq_ok done
  have counted : batches * labels * count < twoPow 64 := by
    rw [← scoreCount, Tensor.length_of_shape scoreShape]
    exact Shape.count_lt _
  obtain ⟨indicesShape, selectedShape, validShape, selectedType, types⟩ := pack_eq_ok packed
  obtain ⟨indicesType, validType⟩ := types integral
  have none : kept = [] := List.eq_nil_of_length_eq_zero (by simpa using three)
  subst none
  refine ⟨boxes, scores, others, batches, labels, count, limit, selected.length, rfl, boxShape,
    scoreShape, counted, limited, bound, ?_⟩
  refine .cons (Tensor.desc?_eq_some_iff.mpr ⟨indicesType, indicesShape⟩) ?_
  refine .cons (Tensor.desc?_eq_some_iff.mpr ⟨selectedType, selectedShape⟩) ?_
  exact .cons (Tensor.desc?_eq_some_iff.mpr ⟨validType, validShape⟩) .nil

/-- The outputs of a selection meet what was inferred if their numbers of rows are related. -/
theorem SelectionOp.meets_bounds (tracks : Shape.Tracks related) {op : SelectionOp}
    {rows inferred : Nat} {results : List Tensor}
    (described
      : List.Forall₂ (fun result desc => Tensor.desc? result = some desc) results
          (op.bounds rows))
    (here : related ⟨[rows, 3]⟩ ⟨[inferred, 3]⟩)
    : List.Forall₂ (Tensor.Meets related) results (op.bounds inferred) := by
  unfold bounds at described
  rcases described with _ | ⟨indicesDesc, _ | ⟨scoresDesc, _ | ⟨validDesc, none⟩⟩⟩
  cases none
  obtain ⟨indicesType, indicesShape⟩ := Tensor.desc?_eq_some_iff.mp indicesDesc
  obtain ⟨scoresType, scoresShape⟩ := Tensor.desc?_eq_some_iff.mp scoresDesc
  refine .cons ⟨indicesType, _, indicesShape, here⟩ ?_
  refine .cons ⟨scoresType, _, scoresShape, here⟩ ?_
  exact .cons (Tensor.meets_of_desc? tracks validDesc) .nil

/-- An operation that is no selection gives tensors that meet what inference gave, for tensors that
meet what inference saw. By cases on the operation.
-/
theorem Op.evaluate_meets (tracks : Shape.Tracks related) {op inferred : Op}
    (other : ∀ selection, inferred ≠ .selection selection) {seen : List InferenceInput}
    {descs : List TensorDesc} (accepted : op.infer seen = .ok (inferred, descs))
    {inputs outputs results : List Tensor}
    (meets : List.Forall₂ (fun input saw => Tensor.Meets related input saw.desc) inputs seen)
    (count : outputs.length = descs.length)
    (evaluated : inferred.evaluate outputs inputs = .ok ⟨true, results⟩)
    : List.Forall₂ (Tensor.Meets related) results descs := by
  cases op with
  | parameter desc =>
      obtain ⟨-, rfl, -⟩ := infer_parameter_eq_ok accepted
      cases evaluated
  | constant value =>
      obtain ⟨-, rfl, desc, described, rfl⟩ := infer_constant_eq_ok accepted
      obtain ⟨out, rfl⟩ := List.length_eq_one_iff.mp count
      simp only [evaluate] at evaluated
      split at evaluated
      · cases evaluated
        exact .cons (Tensor.meets_of_desc? tracks described) .nil
      · cases evaluated
  | reduction op =>
      obtain ⟨⟨reduction, outputs⟩, accepted, same⟩ := map_eq_ok_iff.mp accepted
      cases same
      exact ReductionOp.evaluate_meets tracks accepted meets count evaluated
  | selection op =>
      obtain ⟨outputs, accepted, same⟩ := map_eq_ok_iff.mp accepted
      cases same
      exact absurd rfl (other op)

end Related

/-- A tensor is as inference saw an input: it conforms to the descriptor, and it is the value of the
constant if inference saw one.
-/
structure Tensor.Fits (tensor : Tensor) (seen : InferenceInput) : Prop where
  conforms : tensor.Conforms seen.desc
  constant : ∀ value, seen.constant = some value → tensor = value

/-- No class selects more boxes than inference allows, if a limit that was constant is unchanged. -/
theorem SelectionOp.limit_le_perClass {boxes scores : Tensor} {others : List Tensor}
    {rest : List InferenceInput} (same : others.length = rest.length)
    (unchanged
      : ∀ seen value,
          rest.head? = some seen → seen.constant = some value → others.head? = some value)
    {limit count most : Nat} (limited : limitInput (boxes :: scores :: others) = .ok limit)
    (allowed : perClass rest.head? count = .ok most)
    : min limit count ≤ most := by
  match others, rest, same with
  | [], [], _ =>
      cases limited
      cases allowed
      exact Nat.le_of_eq (Nat.zero_min count)
  | tensor :: _, ⟨desc, none⟩ :: _, _ =>
      cases allowed
      exact Nat.min_le_right _ _
  | tensor :: _, ⟨desc, some value⟩ :: _, _ =>
      cases unchanged ⟨desc, some value⟩ value rfl rfl
      obtain ⟨_, read, rfl⟩ := map_eq_ok_iff.mp limited
      simp only [perClass, List.head?_cons, read] at allowed
      cases allowed
      exact Nat.le_refl _

/-- A selection has no more rows than inference gave, for tensors that are as inference saw the
inputs.
-/
theorem SelectionOp.evaluate_conforms {op : SelectionOp} {seen : List InferenceInput}
    {descs : List TensorDesc} (accepted : op.infer seen = .ok descs)
    {inputs outputs results : List Tensor} (fits : List.Forall₂ Tensor.Fits inputs seen)
    (count : outputs.length = descs.length)
    (evaluated : op.evaluate outputs inputs = .ok ⟨true, results⟩)
    : List.Forall₂ Tensor.Conforms results descs := by
  obtain ⟨_, _, rest, batches, labels, boxCount, most, rfl, accepts, allowed, rfl⟩ :=
    infer_eq_ok_iff.mp accepted
  obtain ⟨boxes, scores, others, actualBatches, actualLabels, actualCount, limit, rows, rfl,
    boxShape, scoreShape, counted, limited, bound, described⟩ :=
    evaluate_desc accepts.outputType count evaluated
  obtain ⟨boxFits, fits⟩ := List.forall₂_cons.mp fits
  obtain ⟨scoreFits, fits⟩ := List.forall₂_cons.mp fits
  -- Boxes and scores have three axes, so their shapes are as inferred.
  obtain ⟨_, known, boxWithin⟩ := boxFits.conforms.shape
  cases boxShape.symm.trans known
  have boxDims := congrArg Shape.dims (boxWithin.deep (by simp [Shape.rank, accepts.boxesDims]))
  rw [accepts.boxesDims] at boxDims
  cases boxDims
  obtain ⟨_, known, scoreWithin⟩ := scoreFits.conforms.shape
  cases scoreShape.symm.trans known
  have scoreDims :=
    congrArg Shape.dims (scoreWithin.deep (by simp [Shape.rank, accepts.scoresDims]))
  rw [accepts.scoresDims] at scoreDims
  cases scoreDims
  have unchanged (seen : InferenceInput) (value : Tensor) (first : rest.head? = some seen)
      (known : seen.constant = some value)
      : others.head? = some value := by
    rw [List.head?_eq_getElem?] at first ⊢
    obtain ⟨tensor, present, here⟩ := exists_partner_at fits.flip first
    rw [present, here.constant value known]
  have limits := limit_le_perClass fits.length_eq unchanged limited allowed
  have fewer : rows ≤ word (batches * labels * most) := by
    have few := Nat.mul_le_mul_left (batches * labels) (perClass_le allowed)
    rw [word_of_lt (Nat.lt_of_le_of_lt few counted)]
    exact bound.trans (Nat.mul_le_mul_left _ limits)
  exact meets_bounds Shape.within_tracks described (Shape.within_rows fewer (word_lt _))

-----------------------------------------------------------------------------------------
-- Graphs
-----------------------------------------------------------------------------------------

namespace Graph

variable {graph : Graph} {bindings : Bindings}

/-- The tensor of an output meets its descriptor, if the tensors of its node do. -/
theorem WellFormed.meets_input (wellFormed : graph.WellFormed) {related : Shape → Shape → Prop}
    {reference : Output} {desc : TensorDesc} (described : graph.outputDesc reference = .ok desc)
    {tensor : Tensor} (picked : (wellFormed.denote bindings).tensor reference = .ok tensor)
    (meets
      : ∀ node tensors,
          graph.nodes[reference.node]? = some node
          → wellFormed.denote bindings reference.node = .ok tensors
          → List.Forall₂ (Tensor.Meets related) tensors node.outputs)
    : tensor.Meets related desc := by
  obtain ⟨tensors, denoted, present⟩ := Meaning.tensor_eq_ok_iff.mp picked
  obtain ⟨node, found, owned⟩ := outputDesc_eq_ok_iff.mp described
  exact related_of_getElem? (meets node tensors found denoted) present owned

/-- The tensor of an input is as inference saw it, if the tensors of its node conform. -/
theorem WellFormed.fits_input (wellFormed : graph.WellFormed) {reference : Output}
    {seen : InferenceInput} (still : graph.StillSeen reference seen) {tensor : Tensor}
    (picked : (wellFormed.denote bindings).tensor reference = .ok tensor)
    (conforms
      : ∀ node tensors,
          graph.nodes[reference.node]? = some node
          → wellFormed.denote bindings reference.node = .ok tensors
          → List.Forall₂ Tensor.Conforms tensors node.outputs)
    : tensor.Fits seen := by
  refine ⟨wellFormed.meets_input still.desc picked conforms, ?_⟩
  intro value known
  rw [wellFormed.tensor_constant (still.constant value known)] at picked
  exact (Except.ok.inj picked).symm

theorem WellFormed.fits_inputs (wellFormed : graph.WellFormed) {references : List Output}
    {seen : List InferenceInput} (still : List.Forall₂ graph.StillSeen references seen)
    {inputs : List Tensor}
    (picked : references.mapM (wellFormed.denote bindings).tensor = .ok inputs)
    (conforms
      : ∀ reference ∈ references,
          ∀ node tensors,
            graph.nodes[reference.node]? = some node
            → wellFormed.denote bindings reference.node = .ok tensors
            → List.Forall₂ Tensor.Conforms tensors node.outputs)
    : List.Forall₂ Tensor.Fits inputs seen := by
  refine relate_partners (mapM_eq_ok_iff.mp picked) still ?_
  intro reference member tensor saw denotes here
  exact wellFormed.fits_input here denotes (conforms reference member)

theorem desc?_of_bound {id : NodeId} {declared : TensorDesc} {value : Tensor}
    (isBound : bound bindings id declared = .ok value)
    : value.desc? = some declared := by
  unfold bound at isBound
  split at isBound
  · cases isBound
  · split at isBound
    next same =>
      cases isBound
      exact same
    · cases isBound

/-- What a node denotes meets its descriptors, by induction on what feeds it, if that holds of
selections. Only a region that is closed under what feeds its nodes is looked at.
-/
theorem WellFormed.denote_meets (wellFormed : graph.WellFormed)
    (described : graph.TypedBy Describes) {related : Shape → Shape → Prop}
    (tracks : Shape.Tracks related) (region : NodeId → Prop)
    (closed : ∀ {source reader}, graph.Feeds source reader → region reader → region source)
    (selections
      : ∀ {id : NodeId} {node : Node} {op : SelectionOp} {inputs tensors : List Tensor},
          region id
          → graph.nodes[id]? = some node
          → node.op = .selection op
          → node.inputs.mapM (wellFormed.denote bindings).tensor = .ok inputs
          → (∀ reference ∈ node.inputs,
              ∀ source tensors,
                graph.nodes[reference.node]? = some source
                → wellFormed.denote bindings reference.node = .ok tensors
                → List.Forall₂ (Tensor.Meets related) tensors source.outputs)
          → op.evaluate (unshapedOutputs node) inputs = .ok ⟨true, tensors⟩
          → List.Forall₂ (Tensor.Meets related) tensors node.outputs)
    {id : NodeId} (inside : region id) {node : Node} (found : graph.nodes[id]? = some node)
    {tensors : List Tensor} (denoted : wellFormed.denote bindings id = .ok tensors)
    : List.Forall₂ (Tensor.Meets related) tensors node.outputs := by
  induction id using wellFormed.acyclic.induction generalizing node tensors with
  | _ id ih =>
      obtain ⟨inputs, picked, attempted⟩ := (wellFormed.denote_eq_ok_iff found).mp denoted
      have earlier (reference : Output) (member : reference ∈ node.inputs) (source : Node)
          (tensors : List Tensor) (stored : graph.nodes[reference.node]? = some source)
          (denoted : wellFormed.denote bindings reference.node = .ok tensors)
          : List.Forall₂ (Tensor.Meets related) tensors source.outputs := by
        have edge : graph.Feeds reference.node id := ⟨node, found, reference, member, rfl⟩
        exact ih reference.node edge (closed edge inside) stored denoted
      cases declared : node.op.parameterDesc? with
      | some desc =>
          obtain ⟨value, isBound, rfl⟩ := (Node.attempt_parameter_eq_ok_iff declared).mp attempted
          rw [((wellFormed.settled found).of_parameter declared).2]
          exact .cons (Tensor.meets_of_desc? tracks (desc?_of_bound isBound)) .nil
      | none =>
          have evaluated := (Node.attempt_eq_ok_iff declared).mp attempted
          by_cases isSelection : ∃ op, node.op = .selection op
          · obtain ⟨op, isSelection⟩ := isSelection
            rw [isSelection] at evaluated
            exact selections inside found isSelection picked earlier evaluated
          · obtain ⟨op, seen, still, accepted⟩ := described id node found
            have meets
                : List.Forall₂ (fun input saw => Tensor.Meets related input saw.desc) inputs
                    seen := by
              apply relate_partners (mapM_eq_ok_iff.mp picked) still
              intro reference member tensor saw denotes here
              exact wellFormed.meets_input here denotes (earlier reference member)
            exact Op.evaluate_meets tracks (fun op isOp => isSelection ⟨op, isOp⟩) accepted meets
              (List.length_map _) evaluated

/-- What a node of a typed graph denotes conforms to its descriptors. -/
theorem WellFormed.denote_conforms (wellFormed : graph.WellFormed) (typed : graph.Typed)
    {id : NodeId} {node : Node} (found : graph.nodes[id]? = some node) {tensors : List Tensor}
    (denoted : wellFormed.denote bindings id = .ok tensors)
    : List.Forall₂ Tensor.Conforms tensors node.outputs := by
  refine wellFormed.denote_meets typed.described Shape.within_tracks (fun _ => True)
    (fun _ _ => trivial) ?_ trivial found denoted
  intro id node op inputs tensors _ found isSelection picked earlier evaluated
  obtain ⟨attributes, seen, still, accepted⟩ := typed id node found
  rw [isSelection] at accepted
  have fits := wellFormed.fits_inputs still picked earlier
  exact SelectionOp.evaluate_conforms (Op.infer_eq_selection accepted) fits (List.length_map _)
    evaluated

end Graph
end TensorGraph
