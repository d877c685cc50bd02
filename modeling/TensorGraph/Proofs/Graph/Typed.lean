import TensorGraph.Proofs.Graph.Mutation

/-! What inference saw when a node was added stays true of the outputs that the node reads.

A redirection leads to an output of the same descriptor, so the descriptors that inference saw are
true in every graph. What it saw of the value of a constant stays true as long as the uses of
constants are not redirected.
-/

namespace TensorGraph.Graph

variable {graph changed : Graph}

/-- What inference saw of an output is true of it: the descriptor, and the value of a constant if it
saw one.
-/
structure StillSeen (graph : Graph) (output : Output) (seen : InferenceInput) : Prop where
  desc : graph.outputDesc output = .ok seen.desc
  constant
    : ∀ value, seen.constant = some value → graph.constantValue? output = some value

/-- Inference gave the operation and the outputs of a node for what is true of its inputs. -/
def Infers (graph : Graph) (node : Node) : Prop :=
  ∃ op seen,
    List.Forall₂ graph.StillSeen node.inputs seen
    ∧ Op.infer op seen = .ok (node.op, node.outputs)

/-- Inference gave every node of the graph for what is true of its inputs. -/
def Typed (graph : Graph) : Prop :=
  ∀ (id : NodeId) (node : Node), graph.nodes[id]? = some node → graph.Infers node

/-- The descriptor that inference saw of an output is true of it. -/
def Describes (graph : Graph) (output : Output) (seen : InferenceInput) : Prop :=
  graph.outputDesc output = .ok seen.desc

-----------------------------------------------------------------------------------------
-- What mutations keep true of what inference saw
-----------------------------------------------------------------------------------------

/-- Inference gave every node of the graph for inputs of which `holds` is true. -/
def TypedBy (holds : Graph → Output → InferenceInput → Prop) (graph : Graph) : Prop :=
  ∀ (id : NodeId) (node : Node),
    graph.nodes[id]? = some node
    → ∃ op seen,
        List.Forall₂ (holds graph) node.inputs seen
        ∧ Op.infer op seen = .ok (node.op, node.outputs)

/-- What is true of an output when inference looks at it, stays true as long as descriptors and
values of constants are kept, and is true of every output that can take the place of the first.
-/
structure Lasting (replaceable : Replaceable) (holds : Graph → Output → InferenceInput → Prop)
    : Prop where
  seen
    : ∀ {graph : Graph} {output : Output} {saw : InferenceInput},
        graph.inferenceInput output = .ok saw → holds graph output saw
  mono
    : ∀ {graph changed : Graph} {output : Output} {saw : InferenceInput},
        (∀ {output desc},
          graph.outputDesc output = .ok desc → changed.outputDesc output = .ok desc)
        → (∀ {output value},
            graph.constantValue? output = some value
            → changed.constantValue? output = some value)
        → holds graph output saw
        → holds changed output saw
  redirect
    : ∀ {graph : Graph} {old new : Output} {desc : TensorDesc} {saw : InferenceInput},
        replaceable graph old
        → graph.outputDesc old = .ok desc
        → graph.outputDesc new = .ok desc
        → holds graph old saw
        → holds graph new saw

theorem redirected_outputDesc (graph : Graph) (old new output : Output)
    : (graph.redirected old new).outputDesc output = graph.outputDesc output := by
  rw [outputDesc, outputDesc, Graph.node, Graph.node, redirected_nodes]
  cases graph.nodes[output.node]? with
  | none => rfl
  | some node => simp

theorem redirected_constantValue? (graph : Graph) (old new output : Output)
    : (graph.redirected old new).constantValue? output = graph.constantValue? output := by
  rw [constantValue?, constantValue?, redirected_nodes]
  cases graph.nodes[output.node]? with
  | none => rfl
  | some node => simp

section Lasting

variable {replaceable : Replaceable} {holds : Graph → Output → InferenceInput → Prop}

/-- Adding an operation keeps a graph typed: the new node is what inference has just given. -/
theorem TypedBy.add (lasting : Lasting replaceable holds) (typed : graph.TypedBy holds)
    {op : Op} {inputs : List Output} {id : NodeId}
    (success : graph.add op inputs = .ok (changed, id))
    : changed.TypedBy holds := by
  obtain ⟨-, seen, inferred, outputs, name, known, accepted, extension⟩ := extends_of_add success
  have kept {output : Output} {saw : InferenceInput} (still : holds graph output saw)
      : holds changed output saw :=
    lasting.mono extension.outputDesc extension.constantValue? still
  intro place node found
  rcases extension.found_iff.mp found with old | ⟨-, rfl⟩
  · obtain ⟨before, saw, still, given⟩ := typed place node old
    exact ⟨before, saw, still.imp fun _ _ => kept, given⟩
  · refine ⟨op, seen, (mapM_eq_ok_iff.mp known).imp ?_, accepted⟩
    intro input saw described
    exact kept (lasting.seen described)

/-- A redirection of a replaceable output keeps a graph typed. -/
theorem TypedBy.replaceUses (lasting : Lasting replaceable holds) (typed : graph.TypedBy holds)
    {old new : Output} {count : Nat} (permitted : replaceable graph old)
    (success : graph.replaceUses old new = .ok (changed, count))
    : changed.TypedBy holds := by
  obtain ⟨⟨desc, oldDesc, newDesc⟩, -, rfl, -⟩ := replaceUses_eq_ok success
  have kept {output : Output} {saw : InferenceInput} (still : holds graph output saw)
      : holds (graph.redirected old new) output saw := by
    apply lasting.mono ?_ ?_ still
    · intro output desc described
      rw [redirected_outputDesc]
      exact described
    · intro output value known
      rw [redirected_constantValue?]
      exact known
  intro id node found
  obtain ⟨before, stored, rfl⟩ := redirected_found_iff.mp found
  obtain ⟨op, seen, still, given⟩ := typed id before stored
  refine ⟨op, seen, ?_, ?_⟩
  · unfold redirectNode
    split
    · exact still.imp fun _ _ here => kept here
    · refine List.forall₂_map_left_iff.mpr (still.imp ?_)
      intro input saw here
      split
      next isOld =>
        rw [isOld] at here
        exact kept (lasting.redirect permitted oldDesc newDesc here)
      · exact kept here
  · rw [redirectNode_op, redirectNode_outputs]
    exact given

theorem TypedBy.setName (lasting : Lasting replaceable holds) (typed : graph.TypedBy holds)
    {id : NodeId} {name : String} (success : graph.setName id name = .ok changed)
    : changed.TypedBy holds := by
  have kept {output : Output} {saw : InferenceInput} (still : holds graph output saw)
      : holds changed output saw := by
    apply lasting.mono ?_ ?_ still
    · intro output desc described
      obtain ⟨node, found, present⟩ := outputDesc_eq_ok_iff.mp described
      obtain ⟨_, stored⟩ := found_of_setName success found
      exact outputDesc_eq_ok_iff.mpr ⟨_, stored, present⟩
    · intro output value known
      obtain ⟨first, node, found, constant⟩ := constantValue?_eq_some_iff.mp known
      obtain ⟨_, stored⟩ := found_of_setName success found
      exact constantValue?_eq_some_iff.mpr ⟨first, _, stored, constant⟩
  intro place node found
  obtain ⟨before, _, stored, rfl⟩ := renamed_of_found success found
  obtain ⟨op, seen, still, given⟩ := typed place before stored
  exact ⟨op, seen, still.imp fun _ _ => kept, given⟩

/-- A mutation keeps a graph typed by what lasts, by cases on the mutation. -/
theorem TypedBy.mutation (lasting : Lasting replaceable holds) (typed : graph.TypedBy holds)
    (mutation : Mutation replaceable graph changed)
    : changed.TypedBy holds := by
  cases mutation with
  | add success => exact typed.add lasting success
  | replace permitted success => exact typed.replaceUses lasting permitted success
  | rename success => exact typed.setName lasting success
  | @result output _ success =>
      obtain ⟨-, rfl⟩ := addResult_eq_ok success
      -- A new result leaves the nodes as they are, and with them what is seen of their outputs.
      have kept {other : Output} {saw : InferenceInput} (still : holds graph other saw)
          : holds { graph with results := graph.results ++ [output] } other saw := by
        apply lasting.mono ?_ ?_ still
        · exact fun described => described
        · exact fun known => known
      intro place node found
      obtain ⟨op, seen, still, given⟩ := typed place node found
      exact ⟨op, seen, still.imp fun _ _ => kept, given⟩

/-- Every graph that admitted commands reach is typed by what lasts. -/
theorem ReachableBy.typedBy (lenient : replaceable.Lenient) (lasting : Lasting replaceable holds)
    (reachable : ReachableBy replaceable graph)
    : graph.TypedBy holds := by
  refine reachable.invariant lenient ?_ ?_
  · intro id node found
    exact absurd found (by simp [Graph.empty])
  · intro graph changed _ typed mutation
    exact typed.mutation lasting mutation

end Lasting

-----------------------------------------------------------------------------------------
-- Descriptors and values of constants
-----------------------------------------------------------------------------------------

/-- What was seen of an output that is no constant is its descriptor, and so is true of an output of
the same descriptor.
-/
theorem stillSeen_lasting : Lasting sparesConstants StillSeen where
  seen known := by
    obtain ⟨desc, described, rfl⟩ := map_eq_ok_iff.mp known
    exact ⟨described, fun _ constant => constant⟩
  mono descs constants still :=
    ⟨descs still.desc, fun value known => constants (still.constant value known)⟩
  redirect computed oldDesc newDesc still := by
    refine ⟨?_, ?_⟩
    · rw [newDesc, ← oldDesc]
      exact still.desc
    · intro value known
      have constant := still.constant value known
      rw [computed] at constant
      cases constant

/-- The descriptor that was seen lasts under all redirections. -/
theorem describes_lasting (replaceable : Replaceable) : Lasting replaceable Describes where
  seen known := by
    obtain ⟨desc, described, rfl⟩ := map_eq_ok_iff.mp known
    exact described
  mono descs _ still := descs still
  redirect _ oldDesc newDesc still := newDesc.trans (oldDesc.symm.trans still)

theorem sparesConstants_lenient : sparesConstants.Lenient :=
  fun _ _ computed => computed

/-- Every graph that commands reach which spare the uses of constants is typed. -/
theorem ReachableBy.typed (reachable : ReachableBy sparesConstants graph) : graph.Typed :=
  reachable.typedBy sparesConstants_lenient stillSeen_lasting

/-- In every reachable graph the descriptors that inference saw are true. -/
theorem Reachable.described (reachable : graph.Reachable) : graph.TypedBy Describes :=
  reachable.all.typedBy (fun _ _ _ => trivial) (describes_lasting _)

/-- In a typed graph the descriptors that inference saw are true. -/
theorem Typed.described (typed : graph.Typed) : graph.TypedBy Describes := by
  intro id node found
  obtain ⟨op, seen, still, given⟩ := typed id node found
  exact ⟨op, seen, still.imp fun _ _ here => here.desc, given⟩

-----------------------------------------------------------------------------------------
-- Nodes of a typed graph
-----------------------------------------------------------------------------------------

/-- A reduction reads data and axes that pass its checks. Its recorded axes were resolved for the
rank of the data, and its output is the data reduced over them.
-/
theorem TypedBy.reduction (described : graph.TypedBy Describes) {id : NodeId} {node : Node}
    (found : graph.nodes[id]? = some node) {op : ReductionOp}
    (isReduction : node.op = .reduction op)
    : ∃ data axes dataDesc axesDesc constant,
        node.inputs = [data, axes]
        ∧ graph.outputDesc data = .ok dataDesc
        ∧ graph.outputDesc axes = .ok axesDesc
        ∧ op.Accepts dataDesc axesDesc
        ∧ op.resolveAxes constant dataDesc.shape.rank = .ok op.axes
        ∧ node.outputs = [⟨dataDesc.dtype, dataDesc.shape.reduce op.axes op.keepDims⟩] := by
  obtain ⟨attributes, seen, still, accepted⟩ := described id node found
  rw [isReduction] at accepted
  obtain ⟨before, -, accepted⟩ := Op.infer_eq_reduction accepted
  obtain ⟨dataSeen, axesSeen, resolved, rfl, accepts, named, rfl, outputs⟩ :=
    ReductionOp.infer_eq_ok_iff.mp accepted
  obtain ⟨data, _, dataDescribed, later, inputs⟩ := List.forall₂_cons_right_iff.mp still
  obtain ⟨axes, _, axesDescribed, none, rfl⟩ := List.forall₂_cons_right_iff.mp later
  cases none
  exact ⟨data, axes, dataSeen.desc, axesSeen.desc, axesSeen.constant, inputs, dataDescribed,
    axesDescribed, ⟨accepts.data, accepts.axes⟩, named, outputs⟩

/-- A selection reads boxes, scores and scalars that pass its checks, and its outputs have room for
some number of rows.
-/
theorem TypedBy.selection (described : graph.TypedBy Describes) {id : NodeId} {node : Node}
    (found : graph.nodes[id]? = some node) {op : SelectionOp}
    (isSelection : node.op = .selection op)
    : ∃ boxes scores scalars boxesDesc scoresDesc scalarDescs batches labels count rows,
        node.inputs = boxes :: scores :: scalars
        ∧ graph.outputDesc boxes = .ok boxesDesc
        ∧ graph.outputDesc scores = .ok scoresDesc
        ∧ List.Forall₂ (fun scalar desc => graph.outputDesc scalar = .ok desc) scalars scalarDescs
        ∧ op.Accepts boxesDesc scoresDesc scalarDescs batches labels count
        ∧ node.outputs = op.bounds rows := by
  obtain ⟨attributes, seen, still, accepted⟩ := described id node found
  rw [isSelection] at accepted
  obtain ⟨boxesSeen, scoresSeen, rest, batches, labels, count, most, rfl, accepts, -, outputs⟩ :=
    SelectionOp.infer_eq_ok_iff.mp (Op.infer_eq_selection accepted)
  obtain ⟨boxes, _, boxesDescribed, later, inputs⟩ := List.forall₂_cons_right_iff.mp still
  obtain ⟨scores, scalars, scoresDescribed, last, rfl⟩ := List.forall₂_cons_right_iff.mp later
  exact ⟨boxes, scores, scalars, boxesSeen.desc, scoresSeen.desc, rest.map InferenceInput.desc,
    batches, labels, count, _, inputs, boxesDescribed, scoresDescribed,
    List.forall₂_map_right_iff.mpr last, accepts, outputs⟩

end TensorGraph.Graph
