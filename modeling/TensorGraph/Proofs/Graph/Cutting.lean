import TensorGraph.Proofs.Graph.EmptyReduction

/-! Replacing reductions of empty data in a graph of which not every node denotes tensors.

The readers of a replaced reduction read its default value instead, and everything else is read as
before. So a needed node stays needed if no replaced node depends on it, and a node whose inputs
denote tensors gives or refuses afterwards what it did before.
-/

namespace TensorGraph.Graph

variable {graph changed : Graph} {bindings : Bindings} {replaced : NodeId → Prop}

-----------------------------------------------------------------------------------------
-- Changes that cut off the uses of some nodes
-----------------------------------------------------------------------------------------

/-- After a change `new` can be read in the place of `old`. Only outputs of replaced nodes have
others in their place.
-/
structure StandsFor (before : graph.WellFormed) (after : changed.WellFormed) (bindings : Bindings)
    (replaced : NodeId → Prop) (old new : Output)
    : Prop where
  same : ¬ replaced old.node → new = old
  desc : ∀ desc, graph.outputDesc old = .ok desc → changed.outputDesc new = .ok desc
  tensor
    : ∀ tensor,
        (before.denote bindings).tensor old = .ok tensor
        → (after.denote bindings).tensor new = .ok tensor

/-- The nodes of a graph are still there after a change, with their operations and outputs. What
they read, and what the results are, stands for what it was before.
-/
structure Cuts (before : graph.WellFormed) (after : changed.WellFormed) (bindings : Bindings)
    (replaced : NodeId → Prop)
    : Prop where
  kept
    : ∀ {id : NodeId} {node : Node},
        graph.nodes[id]? = some node
        → ∃ other,
            changed.nodes[id]? = some other
            ∧ other.op = node.op
            ∧ other.outputs = node.outputs
            ∧ List.Forall₂ (StandsFor before after bindings replaced) node.inputs other.inputs
  results
    : List.Forall₂ (StandsFor before after bindings replaced) graph.results changed.results

theorem StandsFor.trans {further : Graph} {before : graph.WellFormed} {between : changed.WellFormed}
    {after : further.WellFormed} {old middle new : Output}
    (first : StandsFor before between bindings replaced old middle)
    (second : StandsFor between after bindings replaced middle new)
    : StandsFor before after bindings replaced old new where
  same free := by
    have kept := first.same free
    rw [← kept] at free
    exact (second.same free).trans kept
  desc desc described := second.desc desc (first.desc desc described)
  tensor tensor denotes := second.tensor tensor (first.tensor tensor denotes)

/-- Tensors of outputs are the tensors of what stands for them. -/
theorem mapM_standsFor {before : graph.WellFormed} {after : changed.WellFormed}
    {references others : List Output}
    (stands : List.Forall₂ (StandsFor before after bindings replaced) references others)
    {tensors : List Tensor}
    (picked : references.mapM (before.denote bindings).tensor = .ok tensors)
    : others.mapM (after.denote bindings).tensor = .ok tensors :=
  mapM_eq_ok_iff.mpr
    (relate_partners stands (mapM_eq_ok_iff.mp picked) fun _ _ _ tensor one => one.tensor tensor)

namespace Cuts

theorem refl (before : graph.WellFormed) : Cuts before before bindings replaced := by
  have stands (references : List Output)
      : List.Forall₂ (StandsFor before before bindings replaced) references references :=
    List.forall₂_same.mpr fun _ _ => ⟨fun _ => rfl, fun _ => id, fun _ => id⟩
  exact ⟨fun found => ⟨_, found, rfl, rfl, stands _⟩, stands _⟩

theorem trans {further : Graph} {before : graph.WellFormed} {between : changed.WellFormed}
    {after : further.WellFormed} (first : Cuts before between bindings replaced)
    (second : Cuts between after bindings replaced)
    : Cuts before after bindings replaced where
  kept found := by
    obtain ⟨other, found, op, outputs, inputs⟩ := first.kept found
    obtain ⟨last, found, lastOp, lastOutputs, lastInputs⟩ := second.kept found
    exact ⟨last, found, lastOp.trans op, lastOutputs.trans outputs,
      relate_partners inputs.flip lastInputs fun _ _ _ _ => StandsFor.trans⟩
  results := relate_partners first.results.flip second.results fun _ _ _ _ => StandsFor.trans

theorem inside {before : graph.WellFormed} {after : changed.WellFormed}
    (cuts : Cuts before after bindings replaced) {id : NodeId} (old : id < graph.nodes.length)
    : id < changed.nodes.length := by
  obtain ⟨other, kept, -⟩ := cuts.kept (List.getElem?_eq_getElem old)
  exact (List.getElem?_eq_some_iff.mp kept).1

/-- A node whose inputs denote tensors denotes afterwards what it did, or fails as it did. -/
theorem denote_eq {before : graph.WellFormed} {after : changed.WellFormed}
    (cuts : Cuts before after bindings replaced) {id : NodeId} {node : Node}
    (found : graph.nodes[id]? = some node) {inputs : List Tensor}
    (picked : node.inputs.mapM (before.denote bindings).tensor = .ok inputs)
    : after.denote bindings id = before.denote bindings id := by
  obtain ⟨other, kept, op, outputs, stands⟩ := cuts.kept found
  have same : other.attempt bindings inputs = node.attempt bindings inputs := by
    simp only [Node.attempt, unshapedOutputs, unevaluated, op, outputs, before.placed found,
      after.placed kept]
  rw [after.denote_of_found kept, before.denote_of_found found, mapM_standsFor stands picked,
    picked]
  exact same

/-- A node that is needed is still needed, unless a replaced node lies on the way to the results. By
induction on the way.
-/
theorem needed {before : graph.WellFormed} {after : changed.WellFormed}
    (cuts : Cuts before after bindings replaced) {id : NodeId} (needed : graph.Needed id)
    (free : ∀ reader, graph.Upstream id reader → ¬ replaced reader)
    : changed.Needed id := by
  obtain ⟨result, member, path⟩ := needed
  obtain ⟨final, still, stands⟩ := exists_partner cuts.results member
  obtain rfl := stands.same (free _ path)
  refine ⟨final, still, ?_⟩
  clear member still stands
  induction path using Relation.ReflTransGen.head_induction_on with
  | refl => exact .refl
  | @head source reader edge path ih =>
      have later := ih fun last onward => free last (onward.head edge)
      obtain ⟨node, found, input, read, rfl⟩ := edge
      obtain ⟨other, kept, -, -, inputs⟩ := cuts.kept found
      obtain ⟨new, readNow, stands⟩ := exists_partner inputs read
      obtain rfl := stands.same (free _ .refl)
      exact later.head ⟨other, kept, new, readNow, rfl⟩

/-- An execution that succeeds gives the same tensors afterwards. -/
theorem execute {before : graph.WellFormed} {after : changed.WellFormed}
    (cuts : Cuts before after bindings replaced) {results : List Tensor}
    (success : (graph.execute [] bindings).outcome = .ok results)
    : (changed.execute [] bindings).outcome = .ok results := by
  obtain ⟨binds, picked⟩ := before.execute_eq_ok_iff.mp success
  refine after.execute_eq_ok_iff.mpr ⟨?_, mapM_standsFor cuts.results picked⟩
  intro binding member
  obtain ⟨node, declared, found, parameter⟩ := binds binding member
  obtain ⟨other, kept, op, -⟩ := cuts.kept found
  exact ⟨other, declared, kept, op ▸ parameter⟩

/-- If an execution succeeds afterwards, a needed node that refuses the tensors of its inputs is
replaced or feeds a replaced node, directly or through others.
-/
theorem replaced_of_error {before : graph.WellFormed} {after : changed.WellFormed}
    (cuts : Cuts before after bindings replaced) {results : List Tensor}
    (success : (changed.execute [] bindings).outcome = .ok results) {id : NodeId}
    (needed : graph.Needed id) {node : Node} (found : graph.nodes[id]? = some node)
    {inputs : List Tensor} (picked : node.inputs.mapM (before.denote bindings).tensor = .ok inputs)
    {failure : Failure GraphError} (failed : before.denote bindings id = .error failure)
    : ∃ reader, graph.Upstream id reader ∧ replaced reader := by
  by_contra none
  have still : changed.Needed id :=
    cuts.needed needed fun reader path isReplaced => none ⟨reader, path, isReplaced⟩
  obtain ⟨-, denoted⟩ := after.execute_eq_ok_iff.mp success
  obtain ⟨tensors, known⟩ := after.results_eq_ok_iff.mp ⟨results, denoted⟩ id still
  rw [cuts.denote_eq found picked, failed] at known
  cases known

/-- What tells whether a node reduces nothing is kept. -/
theorem reducesNothing {before : graph.WellFormed} {after : changed.WellFormed}
    (cuts : Cuts before after bindings replaced) {id : NodeId} (old : id < graph.nodes.length)
    : changed.reducesNothing id = graph.reducesNothing id := by
  have found := List.getElem?_eq_getElem old
  obtain ⟨other, kept, op, outputs, stands⟩ := cuts.kept found
  exact before.reducesNothing_congr found kept op outputs (stands.imp fun _ _ one => one.desc)

end Cuts

/-- A new node cuts nothing off. -/
theorem Extends.cuts {node : Node} (extension : graph.Extends changed node)
    (before : graph.WellFormed) (after : changed.WellFormed)
    : Cuts before after bindings replaced := by
  have preserves : Preserves before after bindings := extension.preserves before after
  have stands {references : List Output}
      (owned : ∀ reference ∈ references, graph.HasOutput reference)
      : List.Forall₂ (StandsFor before after bindings replaced) references references := by
    refine List.forall₂_same.mpr fun reference member =>
      ⟨fun _ => rfl, fun _ => extension.outputDesc, ?_⟩
    intro tensor denotes
    have same := preserves.denotes reference.node (owned reference member).inside
    rw [Meaning.tensor_congr same]
    exact denotes
  refine ⟨?_, ?_⟩
  · intro id node found
    exact ⟨node, extension.found_iff.mpr (.inl found), rfl, rfl, stands (before.edges found)⟩
  · rw [extension.results]
    exact stands before.results

/-- A redirection of an output of a replaced node to one of the same descriptor, which denotes the
same tensor if the first denotes one.
-/
theorem redirected_cuts {old new : Output} {desc : TensorDesc} (before : graph.WellFormed)
    (after : (graph.redirected old new).WellFormed) (isReplaced : replaced old.node)
    (owned : graph.outputDesc old = .ok desc) (described : graph.outputDesc new = .ok desc)
    (same
      : ∀ tensor,
          (before.denote bindings).tensor old = .ok tensor
          → (before.denote bindings).tensor new = .ok tensor)
    : Cuts before after bindings replaced := by
  have denotes (id : NodeId) (tensors : List Tensor)
      (denoted : before.denote bindings id = .ok tensors)
      : after.denote bindings id = .ok tensors := by
    refine denote_of_solves after.acyclic ?_ denoted
    intro id tensors known
    rw [before.denote_eq_unfolded] at known
    unfold unfolded at known ⊢
    rw [redirected_nodes]
    cases found : graph.nodes[id]? with
    | none =>
        rw [found] at known
        cases known
    | some node =>
        rw [found] at known
        simp only [Option.map_some]
        unfold redirectNode
        split
        · exact known
        · obtain ⟨inputs, picked, attempted⟩ := bind_eq_ok_iff.mp known
          refine bind_eq_ok_iff.mpr ⟨inputs, mapM_eq_ok_iff.mpr ?_, attempted⟩
          refine List.forall₂_map_left_iff.mpr ((mapM_eq_ok_iff.mp picked).imp ?_)
          intro reference tensor denotes
          split
          next isOld => exact same tensor (isOld ▸ denotes)
          · exact denotes
  have tensor (reference : Output) (tensor : Tensor)
      (known : (before.denote bindings).tensor reference = .ok tensor)
      : (after.denote bindings).tensor reference = .ok tensor := by
    obtain ⟨tensors, denoted, present⟩ := Meaning.tensor_eq_ok_iff.mp known
    exact Meaning.tensor_eq_ok_iff.mpr ⟨tensors, denotes _ _ denoted, present⟩
  have stands (reference : Output) : StandsFor before after bindings replaced reference reference :=
    ⟨fun _ => rfl, fun _ known => (redirected_outputDesc ..).trans known, tensor reference⟩
  have redirected (references : List Output)
      : List.Forall₂ (StandsFor before after bindings replaced) references
          (redirect old new references) := by
    refine List.forall₂_map_right_iff.mpr (List.forall₂_same.mpr ?_)
    intro reference _
    split
    next isOld =>
      subst isOld
      refine ⟨fun free => absurd isReplaced free, ?_, ?_⟩
      · intro other known
        rw [owned] at known
        cases known
        exact (redirected_outputDesc ..).trans described
      · intro value known
        exact tensor new value (same value known)
    · exact stands reference
  refine ⟨?_, redirected graph.results⟩
  intro id node found
  refine ⟨_, redirected_found_iff.mpr ⟨node, found, rfl⟩, redirectNode_op ..,
    redirectNode_outputs .., ?_⟩
  unfold redirectNode
  split
  · exact List.forall₂_same.mpr fun reference _ => stands reference
  · exact redirected node.inputs

-----------------------------------------------------------------------------------------
-- Replacing reductions of empty data
-----------------------------------------------------------------------------------------

/-- A reduction of empty data is cut off by its default value, which is what it denotes if it
denotes anything.
-/
theorem WellFormed.replacement_cuts (before : graph.WellFormed) (typed : graph.Typed)
    {id replacement : NodeId} (reduces : graph.reducesNothing id = .ok true)
    (isReplaced : replaced id) {extended : Graph}
    (added : graph.addDefault id = .ok (extended, replacement)) {count : Nat}
    (relinked : extended.replaceUses (.first id) (.first replacement) = .ok (changed, count))
    : changed.Typed ∧ ∃ after : changed.WellFormed, Cuts before after bindings replaced := by
  obtain ⟨node, desc, value, found, first, neutral, constant⟩ := addDefault_eq_ok added
  obtain ⟨-, _, _, _, _, -, -, extension⟩ := extends_of_add constant
  have between : extended.WellFormed := before.add constant
  have extendedTyped : extended.Typed := TypedBy.add stillSeen_lasting typed constant
  have computed : extended.constantValue? (.first id) = none :=
    (extension.computed (computed_of_addDefault added)).constantValue? 0
  have changedTyped : changed.Typed :=
    TypedBy.replaceUses stillSeen_lasting extendedTyped computed relinked
  have after : changed.WellFormed := between.replaceUses relinked
  obtain ⟨⟨_, owned, described⟩, -, rfl, -⟩ := replaceUses_eq_ok relinked
  refine ⟨changedTyped, after, (extension.cuts before between).trans ?_⟩
  apply redirected_cuts between after isReplaced owned described
  intro tensor denotes
  obtain ⟨tensors, denoted, present⟩ := Meaning.tensor_eq_ok_iff.mp denotes
  have inside := (List.getElem?_eq_some_iff.mp found).1
  have earlier : before.denote bindings id = .ok tensors :=
    ((extension.preserves before between).denotes id inside).symm.trans denoted
  rcases before.reducesNothing_cases typed found earlier with
    keep | ⟨-, _, default, outputs, known, valueDesc, rfl⟩
  · rw [reduces] at keep
    cases keep
  · rw [outputs] at first
    cases first
    rw [neutral] at known
    cases known
    cases present
    obtain ⟨_, name, again, newest⟩ := graph.addConstant_eq_ok valueDesc
    rw [constant] at again
    cases again
    exact between.tensor_constant (constantValue?_eq_some_iff.mpr ⟨rfl, _, newest.found_new, rfl⟩)

/-- Replacing reductions of empty data cuts off nothing but these, also if it fails on the way. By
induction on the nodes.
-/
theorem WellFormed.eliminateNodes_cuts (before : graph.WellFormed) (typed : graph.Typed)
    {order : List NodeId} (inside : ∀ id ∈ order, id < graph.nodes.length)
    (marked : ∀ id ∈ order, graph.reducesNothing id = .ok true → replaced id) (count : Nat)
    : ∃ after : (graph.eliminateNodes count order).graph.WellFormed,
        Cuts before after bindings replaced := by
  induction order generalizing graph count with
  | nil => exact ⟨before, .refl before⟩
  | cons id rest ih =>
      have insideRest (other : NodeId) (member : other ∈ rest) : other < graph.nodes.length :=
        inside other (List.mem_cons_of_mem _ member)
      have markedRest (other : NodeId) (member : other ∈ rest) :=
        marked other (List.mem_cons_of_mem _ member)
      rcases graph.eliminateNodes_cons count id rest with
        ⟨_, stopped⟩ | ⟨-, skipped⟩ | ⟨reduces, extended, replacement, added,
          ⟨_, stopped⟩ | ⟨relinked, uses, redirected, continued⟩⟩
      · rw [stopped]
        exact ⟨before, .refl before⟩
      · rw [skipped]
        exact ih before typed insideRest markedRest count
      · obtain ⟨_, _, _, -, -, -, constant⟩ := addDefault_eq_ok added
        obtain ⟨-, _, _, _, _, -, -, extension⟩ := extends_of_add constant
        have after : extended.WellFormed := before.add constant
        rw [stopped]
        exact ⟨after, extension.cuts before after⟩
      · have step
            : relinked.Typed
              ∧ ∃ between : relinked.WellFormed, Cuts before between bindings replaced :=
          before.replacement_cuts typed reduces (marked id List.mem_cons_self reduces) added
            redirected
        obtain ⟨relinkedTyped, between, cuts⟩ := step
        have inRelinked (other : NodeId) (member : other ∈ rest)
            : other < relinked.nodes.length :=
          cuts.inside (insideRest other member)
        have markedStill (other : NodeId) (member : other ∈ rest)
            (still : relinked.reducesNothing other = .ok true)
            : replaced other := by
          rw [cuts.reducesNothing (insideRest other member)] at still
          exact markedRest other member still
        obtain ⟨after, later⟩ := ih between relinkedTyped inRelinked markedStill (count + 1)
        rw [continued]
        exact ⟨after, cuts.trans later⟩

end TensorGraph.Graph
