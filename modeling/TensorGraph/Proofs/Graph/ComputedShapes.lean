import TensorGraph.Proofs.Graph.Conformance

/-! The tensors that an execution computes, next to what inference gave.

Every tensor has the inferred element type and rank, and no extent is larger than inferred. Only a
selection can have fewer rows, so a tensor that no selection computes or feeds has exactly the
inferred shape.
-/

namespace TensorGraph

theorem Shape.eq_tracks : Shape.Tracks Eq where
  refl _ := rfl
  reduce same _ _ := by rw [same]

theorem Tensor.desc?_of_meets_eq {tensor : Tensor} {desc : TensorDesc}
    (meets : tensor.Meets Eq desc)
    : tensor.desc? = some desc := by
  obtain ⟨type, shape, shaped, rfl⟩ := meets
  exact Tensor.desc?_eq_some_iff.mpr ⟨type, shaped⟩

namespace Graph

variable {graph : Graph} {bindings : Bindings}

-----------------------------------------------------------------------------------------
-- What no selection feeds
-----------------------------------------------------------------------------------------

/-- The node is a selection or a selection feeds it, directly or through others. -/
def Selects (graph : Graph) (id : NodeId) : Prop :=
  ∃ source node op,
    graph.Upstream source id ∧ graph.nodes[source]? = some node ∧ node.op = .selection op

theorem Selects.of_feeds {source reader : NodeId} (edge : graph.Feeds source reader)
    (selects : graph.Selects source)
    : graph.Selects reader := by
  obtain ⟨origin, node, op, path, found, isSelection⟩ := selects
  exact ⟨origin, node, op, path.tail edge, found, isSelection⟩

/-- What no selection feeds denotes tensors of exactly the inferred descriptors. -/
theorem WellFormed.denote_exact (wellFormed : graph.WellFormed)
    (described : graph.TypedBy Describes) {id : NodeId} (free : ¬ graph.Selects id) {node : Node}
    (found : graph.nodes[id]? = some node) {tensors : List Tensor}
    (denoted : wellFormed.denote bindings id = .ok tensors)
    : List.Forall₂ (fun tensor desc => Tensor.desc? tensor = some desc) tensors node.outputs := by
  have meets : List.Forall₂ (Tensor.Meets Eq) tensors node.outputs := by
    apply wellFormed.denote_meets described Shape.eq_tracks (fun id => ¬ graph.Selects id)
      ?_ ?_ free found denoted
    · intro source reader edge free selects
      exact free (selects.of_feeds edge)
    · intro id node op _ _ free found isSelection
      exact absurd ⟨id, node, op, .refl, found, isSelection⟩ free
  exact meets.imp fun _ _ => Tensor.desc?_of_meets_eq

-----------------------------------------------------------------------------------------
-- What an execution has computed
-----------------------------------------------------------------------------------------

/-- The walk stores tensors for the nodes of the order only, by induction on the order. -/
theorem evaluateAll_stored {order : List NodeId} {values final : Values}
    (walked : (graph.evaluateAll [] bindings order values).outcome = .ok final) {id : NodeId}
    {tensors : List Tensor} (stored : final id = some tensors)
    : id ∈ order ∨ values id = some tensors := by
  induction order generalizing values with
  | nil =>
      cases walked
      exact .inr stored
  | cons head rest ih =>
      simp only [evaluateAll] at walked
      split at walked
      · cases walked
      next outputs _ =>
        rcases ih walked with later | earlier
        · exact .inl (List.mem_cons_of_mem _ later)
        · by_cases same : id = head
          · exact .inl (same ▸ List.mem_cons_self)
          · exact .inr ((if_neg same).symm.trans earlier)

/-- An execution that succeeds has stored what every needed node denotes, and nothing else. The
results are read from there.
-/
theorem WellFormed.execute_stored (wellFormed : graph.WellFormed) {results : List Tensor}
    (success : (graph.execute [] bindings).outcome = .ok results)
    : ∃ values,
        (graph.evaluateAll [] bindings graph.topologicalOrder .none).outcome = .ok values
        ∧ graph.results.mapM values.get = .ok results
        ∧ (∀ id, graph.Needed id → ∃ tensors, values id = some tensors)
        ∧ ∀ id tensors,
            values id = some tensors
            → graph.Needed id ∧ wellFormed.denote bindings id = .ok tensors := by
  unfold execute at success
  split at success
  · cases success
  simp only at success
  split at success
  · cases success
  next values walked =>
    obtain ⟨arranged, -⟩ := wellFormed.arranged
    rw [← List.nil_append graph.topologicalOrder] at arranged
    have inside (id : NodeId) (member : id ∈ graph.topologicalOrder)
        : id < graph.nodes.length :=
      wellFormed.inside_of_needed (wellFormed.mem_topologicalOrder_iff.mp member)
    obtain ⟨-, -, stored⟩ := wellFormed.evaluateAll_spec arranged inside (by simp)
    refine ⟨values, walked, mapError_eq_ok_iff.mp success, ?_, ?_⟩
    · intro id needed
      obtain ⟨tensors, -, kept⟩ :=
        stored values walked id (wellFormed.mem_topologicalOrder_iff.mpr needed)
      exact ⟨tensors, kept⟩
    · intro id tensors kept
      rcases evaluateAll_stored walked kept with member | none
      · obtain ⟨others, denoted, same⟩ := stored values walked id member
        rw [kept] at same
        cases same
        exact ⟨wellFormed.mem_topologicalOrder_iff.mp member, denoted⟩
      · cases none

/-- Where an execution succeeds, every tensor that it computes for an output has the element type
and the rank of the inferred descriptor, and no extent is larger than inferred. If no selection
computes or feeds the output, the shape is exactly as inferred. No command that built the graph has
redirected the uses of a constant.
-/
theorem ReachableBy.computed_as_inferred (reachable : ReachableBy sparesConstants graph)
    {results : List Tensor} (success : (graph.execute [] bindings).outcome = .ok results)
    : ∃ values,
        (graph.evaluateAll [] bindings graph.topologicalOrder .none).outcome = .ok values
        ∧ graph.results.mapM values.get = .ok results
        ∧ (∀ id, graph.Needed id → ∃ tensors, values id = some tensors)
        ∧ ∀ (id : NodeId) (tensors : List Tensor),
            values id = some tensors
            → ∃ node,
                graph.nodes[id]? = some node
                ∧ List.Forall₂
                    (fun tensor desc =>
                      Tensor.dtype tensor = TensorDesc.dtype desc
                      ∧ ∃ shape,
                          tensor.shape = some shape
                          ∧ shape.rank = desc.shape.rank
                          ∧ List.Forall₂ (· ≤ ·) shape.dims desc.shape.dims
                          ∧ (¬ graph.Selects id → shape = desc.shape))
                    tensors node.outputs := by
  have wellFormed := reachable.wellFormed sparesConstants_lenient
  obtain ⟨values, walked, picked, complete, stored⟩ := wellFormed.execute_stored success
  refine ⟨values, walked, picked, complete, ?_⟩
  intro id tensors kept
  obtain ⟨needed, denoted⟩ := stored id tensors kept
  have found := List.getElem?_eq_getElem (wellFormed.inside_of_needed needed)
  refine ⟨_, found, ?_⟩
  have conforms := wellFormed.denote_conforms reachable.typed found denoted
  rw [List.forall₂_iff_get] at conforms ⊢
  refine ⟨conforms.1, ?_⟩
  intro index inTensors inOutputs
  obtain ⟨type, shape, shaped, within⟩ := conforms.2 index inTensors inOutputs
  refine ⟨type, shape, shaped, within.extents.length_eq, within.extents, ?_⟩
  intro free
  have exact := wellFormed.denote_exact reachable.typed.described free found denoted
  have same := (List.forall₂_iff_get.mp exact).2 index inTensors inOutputs
  have known := (Tensor.desc?_eq_some_iff.mp same).2
  rw [shaped] at known
  exact Option.some.inj known

/-- A box of no extent. -/
def flatBox : Tensor :=
  ⟨⟨.f32, List.replicate 4 (.zero false)⟩, some ⟨[1, 1, 4]⟩, rfl⟩

/-- One score, which is not above the threshold 0. -/
def lowScore : Tensor :=
  ⟨⟨.f32, [.zero false]⟩, some ⟨[1, 1, 1]⟩, rfl⟩

/-- No rows, as many columns as the outputs of a selection have. -/
def noSelections (dtype : DType) : Tensor :=
  ⟨⟨dtype, []⟩, some ⟨[0, 3]⟩, (Nat.zero_mul 3).symm⟩

/-- A selection of at most one box from one box. -/
def oneSelection : Graph :=
  empty.performAll
    [
      .parameter ⟨.f32, ⟨[1, 1, 4]⟩⟩,
      .parameter ⟨.f32, ⟨[1, 1, 1]⟩⟩,
      .constant (.scalar .i64 1),
      .add (.selection ⟨.corner, false, .i32⟩) [⟨0, 0⟩, ⟨1, 0⟩, ⟨2, 0⟩],
      .addResult ⟨3, 0⟩
    ]

/-- The box is not selected. -/
theorem evaluate_lowScore
    : SelectionOp.evaluate ⟨.corner, false, .i32⟩ [.unshaped .i32, .unshaped .f32, .unshaped .i32]
        [flatBox, lowScore, .scalar .i64 1]
      = .ok
          ⟨true, [noSelections .i32, noSelections .f32, ⟨⟨.i32, [0]⟩, some ⟨[1]⟩, rfl⟩]⟩ := by
  have unselected
      : NonMaxSuppression.select (List.replicate 4 (.zero false)) [1, 1, 4] [.zero false] [1, 1, 1]
          ⟨.corner, 1, .zero false, .zero false, .zero false, false⟩
        = .ok [] := by
    have none
        : NonMaxSuppression.selectAll ⟨.corner, 1, .zero false, .zero false, .zero false, false⟩
            1 1 1 (List.replicate 4 (.zero false)) [.zero false] = [] := by
      apply NonMaxSuppression.selectAll_eq_nil
      intro score member
      rw [List.mem_singleton.mp member]
      rfl
    calc _
      _ = orFault (NonMaxSuppression.collect
            (NonMaxSuppression.selectBatch
              ⟨.corner, 1, .zero false, .zero false, .zero false, false⟩ 1 1
              (List.replicate 4 (.zero false)) [.zero false]) 1 0) >>= .ok := rfl
      _ = Except.ok [] := by
          rw [NonMaxSuppression.collect_selectBatch rfl rfl, none]
          rfl
  have run
      : SelectionOp.run ⟨.corner, false, .i32⟩ Tensor.toSingles flatBox lowScore
          [flatBox, lowScore, .scalar .i64 1]
        = .ok (noSelections .i32, noSelections .f32, ⟨⟨.i32, [0]⟩, some ⟨[1]⟩, rfl⟩) :=
    calc _
      _ = NonMaxSuppression.select (List.replicate 4 (.zero false)) [1, 1, 4] [.zero false]
            [1, 1, 1] ⟨.corner, 1, .zero false, .zero false, .zero false, false⟩
          >>= fun selected =>
            orFailure (SelectionOp.pack ⟨.corner, false, .i32⟩ selected) := rfl
      _ = _ := by
          rw [unselected]
          rfl
  exact SelectionOp.evaluate_of_run rfl run

/-- The selection gives no row where inference gave one, in every graph that starts with it. -/
theorem denote_lowScore (wellFormed : graph.WellFormed)
    (starts : graph.nodes.take 4 = oneSelection.nodes)
    : wellFormed.denote [(0, flatBox), (1, lowScore)] 3
      = .ok [noSelections .i32, noSelections .f32, ⟨⟨.i32, [0]⟩, some ⟨[1]⟩, rfl⟩] := by
  have found {id : NodeId} {node : Node} (stored : oneSelection.nodes[id]? = some node)
      : graph.nodes[id]? = some node := by
    rw [← starts, List.getElem?_take] at stored
    split at stored
    · exact stored
    · cases stored
  have boxes : wellFormed.denote [(0, flatBox), (1, lowScore)] 0 = .ok [flatBox] := by
    rw [wellFormed.denote_of_found (found rfl)]
    rfl
  have scores : wellFormed.denote [(0, flatBox), (1, lowScore)] 1 = .ok [lowScore] := by
    rw [wellFormed.denote_of_found (found rfl)]
    rfl
  have limit : wellFormed.denote [(0, flatBox), (1, lowScore)] 2 = .ok [.scalar .i64 1] := by
    rw [wellFormed.denote_of_found (found rfl)]
    rfl
  refine (wellFormed.denote_eq_ok_iff (found rfl)).mpr
    ⟨[flatBox, lowScore, .scalar .i64 1], mapM_eq_ok_iff.mpr ?_, ?_⟩
  · refine .cons (Meaning.tensor_eq_ok_iff.mpr ⟨_, boxes, rfl⟩) ?_
    refine .cons (Meaning.tensor_eq_ok_iff.mpr ⟨_, scores, rfl⟩) ?_
    exact .cons (Meaning.tensor_eq_ok_iff.mpr ⟨_, limit, rfl⟩) .nil
  · exact (Node.attempt_eq_ok_iff rfl).mpr evaluate_lowScore

theorem oneSelection_computed_as_inferred
    : ReachableBy sparesConstants oneSelection
      ∧ (oneSelection.execute [] [(0, flatBox), (1, lowScore)]).outcome
        = .ok [noSelections .i32]
      ∧ ∃ values,
          (oneSelection.evaluateAll [] [(0, flatBox), (1, lowScore)]
            oneSelection.topologicalOrder .none).outcome = .ok values
          ∧ oneSelection.results.mapM values.get = .ok [noSelections .i32]
          ∧ ∀ id, oneSelection.Needed id → ∃ tensors, values id = some tensors := by
  have reachable : ReachableBy sparesConstants oneSelection :=
    .of_commands (by simp)
  have wellFormed := reachable.wellFormed sparesConstants_lenient
  have success
      : (oneSelection.execute [] [(0, flatBox), (1, lowScore)]).outcome
        = .ok [noSelections .i32] := by
    refine wellFormed.execute_eq_ok_iff.mpr ⟨?_, ?_⟩
    · intro binding member
      simp only [List.mem_cons, List.not_mem_nil, or_false] at member
      rcases member with rfl | rfl <;> exact ⟨_, _, rfl, rfl⟩
    · apply mapM_eq_ok_iff.mpr
      refine .cons ?_ .nil
      exact Meaning.tensor_eq_ok_iff.mpr ⟨_, denote_lowScore wellFormed rfl, rfl⟩
  obtain ⟨values, walked, picked, complete, -⟩ :=
    ReachableBy.computed_as_inferred reachable success
  exact ⟨reachable, success, values, walked, picked, complete⟩

end Graph
end TensorGraph
