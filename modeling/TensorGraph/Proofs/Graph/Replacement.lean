import TensorGraph.Graph.Preparation
import TensorGraph.Proofs.Graph.Execution

/-! Replacing outputs of a node by constants that hold what the outputs denote.

Neither a new node nor a redirection between outputs that denote the same changes what the earlier
nodes denote, because the earlier denotation still solves the equations of the changed graph. So it
changes no execution.
-/

namespace TensorGraph.Graph

variable {graph changed : Graph} {bindings : Bindings}

-----------------------------------------------------------------------------------------
-- Changes that preserve what the nodes denote
-----------------------------------------------------------------------------------------

/-- The nodes of a graph are still there after a change, with their operations and outputs, and
they and the results denote what they did before.
-/
structure Preserves (before : graph.WellFormed) (after : changed.WellFormed)
    (bindings : Bindings)
    : Prop where
  kept
    : ∀ {id : NodeId} {node : Node},
        graph.nodes[id]? = some node
        → ∃ other,
            changed.nodes[id]? = some other
            ∧ other.op = node.op
            ∧ other.outputs = node.outputs
  denotes : ∀ id < graph.nodes.length, after.denote bindings id = before.denote bindings id
  results
    : changed.results.mapM (after.denote bindings).tensor
      = graph.results.mapM (before.denote bindings).tensor

namespace Preserves

theorem refl (before : graph.WellFormed) : Preserves before before bindings :=
  ⟨fun found => ⟨_, found, rfl, rfl⟩, fun _ _ => rfl, rfl⟩

theorem inside {before : graph.WellFormed} {after : changed.WellFormed}
    (preserves : Preserves before after bindings) {id : NodeId} (old : id < graph.nodes.length)
    : id < changed.nodes.length := by
  obtain ⟨other, found, -, -⟩ := preserves.kept (List.getElem?_eq_getElem old)
  exact (List.getElem?_eq_some_iff.mp found).1

theorem trans {further : Graph} {before : graph.WellFormed} {between : changed.WellFormed}
    {after : further.WellFormed} (first : Preserves before between bindings)
    (second : Preserves between after bindings)
    : Preserves before after bindings where
  kept found := by
    obtain ⟨other, found, op, outputs⟩ := first.kept found
    obtain ⟨last, found, lastOp, lastOutputs⟩ := second.kept found
    exact ⟨last, found, lastOp.trans op, lastOutputs.trans outputs⟩
  denotes id old := (second.denotes id (first.inside old)).trans (first.denotes id old)
  results := second.results.trans first.results

/-- The check of the bindings of old nodes only looks at what is kept, by induction on the bindings.
-/
theorem checkBindings {before : graph.WellFormed} {after : changed.WellFormed}
    (preserves : Preserves before after bindings) {bound : Bindings}
    (old : ∀ binding ∈ bound, binding.1 < graph.nodes.length)
    : changed.checkBindings bound = graph.checkBindings bound := by
  induction bound with
  | nil => rfl
  | cons binding rest ih =>
      have found := List.getElem?_eq_getElem (old binding List.mem_cons_self)
      obtain ⟨other, kept, op, -⟩ := preserves.kept found
      unfold Graph.checkBindings Graph.node
      rw [kept, found]
      simp only [bind, Except.bind, op]
      rw [ih fun later member => old later (List.mem_cons_of_mem _ member)]

/-- Executions with bindings of old nodes are the same. -/
theorem execute_eq {before : graph.WellFormed} {after : changed.WellFormed}
    (preserves : Preserves before after bindings)
    (old : ∀ binding ∈ bindings, binding.1 < graph.nodes.length)
    : changed.execute [] bindings = graph.execute [] bindings := by
  rw [after.execute_eq, before.execute_eq, preserves.checkBindings old, preserves.results]

end Preserves

theorem Meaning.tensor_congr {denoted other : Meaning} {output : Output}
    (same : denoted output.node = other output.node)
    : denoted.tensor output = other.tensor output := by
  unfold Meaning.tensor
  rw [same]

/-- A new node preserves what the other nodes denote: they have kept their inputs. -/
theorem Extends.preserves {node : Node} (extension : graph.Extends changed node)
    (before : graph.WellFormed) (after : changed.WellFormed)
    : Preserves before after bindings := by
  have denotes (id : NodeId) (old : id < graph.nodes.length)
      : after.denote bindings id = before.denote bindings id := by
    -- The new node lies outside the region, whatever it denotes.
    refine eq_denote_of_solves before.acyclic (· < graph.nodes.length)
      (fun edge _ => before.inside_of_feeds edge) ?_ old
    intro id old
    rw [after.denote_eq_unfolded, unfolded, unfolded, extension.found_old old]
  refine ⟨?_, denotes, ?_⟩
  · intro id node found
    exact ⟨node, extension.found_iff.mpr (.inl found), rfl, rfl⟩
  · rw [extension.results]
    refine mapM_congr fun result member => Meaning.tensor_congr ?_
    exact denotes result.node (before.results result member).inside

/-- References redirected to an output that denotes the same denote the same tensors. -/
theorem mapM_redirect {denoted : Meaning} {old new : Output}
    (same : denoted.tensor new = denoted.tensor old) (references : List Output)
    : (redirect old new references).mapM denoted.tensor = references.mapM denoted.tensor := by
  rw [redirect, List.mapM_map]
  apply mapM_congr
  intro reference _
  simp only [Function.comp_apply]
  split
  next isOld => rw [isOld, same]
  · rfl

/-- A redirection between outputs that denote the same preserves what the nodes denote. -/
theorem redirected_preserves {old new : Output} (before : graph.WellFormed)
    (after : (graph.redirected old new).WellFormed)
    (same : (before.denote bindings).tensor new = (before.denote bindings).tensor old)
    : Preserves before after bindings := by
  have denotes (id : NodeId) : after.denote bindings id = before.denote bindings id := by
    refine (eq_denote_of_solves after.acyclic (fun _ => True) (fun _ _ => trivial) ?_
      trivial).symm
    intro id _
    rw [before.denote_eq_unfolded, unfolded, unfolded, redirected_nodes]
    cases graph.nodes[id]? with
    | none => rfl
    | some node =>
        simp only [Option.map_some]
        unfold redirectNode
        split
        · rfl
        · rw [mapM_redirect same]
          rfl
  refine ⟨?_, fun id _ => denotes id, ?_⟩
  · intro id node found
    exact ⟨_, redirected_found_iff.mpr ⟨node, found, rfl⟩, redirectNode_op ..,
      redirectNode_outputs ..⟩
  · rw [funext denotes]
    exact mapM_redirect same graph.results

-----------------------------------------------------------------------------------------
-- Constants
-----------------------------------------------------------------------------------------

/-- Some node of the graph is a constant of the given value. -/
def Holds (graph : Graph) (value : Tensor) : Prop :=
  ∃ (id : NodeId) (node : Node),
    graph.nodes[id]? = some node ∧ node.op.constantValue? = some value

/-- Whether the values that a graph holds have a property can be read off its list of nodes. -/
theorem Holds.of_listed {value : Tensor} (held : graph.Holds value) (property : Tensor → Prop)
    [DecidablePred property]
    (listed
      : graph.nodes.all fun node =>
          node.op.constantValue?.all fun value => property value)
    : property value := by
  obtain ⟨id, node, found, constant⟩ := held
  have has := List.all_eq_true.mp listed node (List.mem_of_getElem? found)
  rw [constant] at has
  exact of_decide_eq_true has

theorem holds_of_constantValue? {output : Output} {value : Tensor}
    (known : graph.constantValue? output = some value)
    : graph.Holds value := by
  obtain ⟨-, node, found, constant⟩ := constantValue?_eq_some_iff.mp known
  exact ⟨output.node, node, found, constant⟩

theorem Extends.holds {node : Node} (extension : graph.Extends changed node) {value : Tensor}
    (held : changed.Holds value)
    : node.op.constantValue? = some value ∨ graph.Holds value := by
  obtain ⟨id, other, found, constant⟩ := held
  rcases extension.found_iff.mp found with old | ⟨-, rfl⟩
  · exact .inr ⟨id, other, old, constant⟩
  · exact .inl constant

theorem redirected_holds {old new : Output} {value : Tensor}
    (held : (graph.redirected old new).Holds value)
    : graph.Holds value := by
  obtain ⟨id, other, found, constant⟩ := held
  obtain ⟨node, stored, rfl⟩ := redirected_found_iff.mp found
  rw [redirectNode_op] at constant
  exact ⟨id, node, stored, constant⟩

/-- A constant denotes its value, under any bindings. -/
theorem WellFormed.denote_constant (wellFormed : graph.WellFormed) {id : NodeId} {node : Node}
    (found : graph.nodes[id]? = some node) {value : Tensor}
    (constant : node.op.constantValue? = some value)
    : wellFormed.denote bindings id = .ok [value] := by
  obtain ⟨unfed, desc, described, outputs⟩ := (wellFormed.settled found).of_constant constant
  obtain ⟨shape, -, rfl⟩ := Option.map_eq_some_iff.mp described
  have op := Op.constantValue?_eq_some_iff.mp constant
  have computed : node.op.parameterDesc? = none := by
    rw [op]
    rfl
  refine (wellFormed.denote_eq_ok_iff found).mpr ⟨[], ?_, ?_⟩
  · rw [unfed]
    rfl
  · rw [Node.attempt_eq_ok_iff computed, op, unshapedOutputs, outputs]
    simp [Op.evaluate, Tensor.unshaped, Tensor.dtype]

theorem WellFormed.tensor_constant (wellFormed : graph.WellFormed) {output : Output}
    {value : Tensor} (known : graph.constantValue? output = some value)
    : (wellFormed.denote bindings).tensor output = .ok value := by
  obtain ⟨first, node, found, constant⟩ := constantValue?_eq_some_iff.mp known
  refine Meaning.tensor_eq_ok_iff.mpr ⟨[value], wellFormed.denote_constant found constant, ?_⟩
  rw [first, List.getElem?_cons_zero]

/-- A value with a shape can always be added as a constant. -/
theorem addConstant_eq_ok (graph : Graph) {value : Tensor} {desc : TensorDesc}
    (described : value.desc? = some desc)
    : ∃ extended name,
        graph.addConstant value = .ok (extended, graph.nodes.length)
        ∧ graph.Extends extended
            ⟨graph.nodes.length, name, .constant value, [], [desc]⟩ := by
  have inferred : (Op.constant value).infer [] = .ok (.constant value, [desc]) :=
    Op.infer_constant described
  have success
      : ∃ extended, graph.addConstant value = .ok (extended, graph.nodes.length) := by
    simp only [addConstant, add, List.mapM_nil, pure, Except.pure, bind, Except.bind, inferred]
    exact ⟨_, rfl⟩
  obtain ⟨extended, success⟩ := success
  obtain ⟨-, seen, op, outputs, name, known, accepted, extension⟩ := extends_of_add success
  rw [List.mapM_nil] at known
  cases known
  rw [inferred] at accepted
  cases accepted
  exact ⟨extended, name, success, extension⟩

/-- A node without inputs depends on no other node. -/
theorem ancestors_eq_nil {id : NodeId} {node : Node} (found : graph.nodes[id]? = some node)
    (unfed : node.inputs = [])
    : graph.ancestors id = [] := by
  have none : graph.newlyFound [] ((graph.nodes[id]?.map Node.inputs).getD []) = [] := by
    simp [found, unfed, newlyFound]
  rw [ancestors, searchInputs]
  split
  · rw [searchInputs]
  next new => rw [none] at new; cases new

/-- The uses of an output can be redirected to every output of the same descriptor whose node has no
inputs.
-/
theorem replaceUses_of_unfed {old new : Output} {desc : TensorDesc}
    (owned : graph.outputDesc old = .ok desc) (described : graph.outputDesc new = .ok desc)
    {node : Node} (found : graph.nodes[new.node]? = some node) (unfed : node.inputs = [])
    : ∃ count, graph.replaceUses old new = .ok (graph.redirected old new, count) := by
  have unread : (graph.ancestors new.node).find? (graph.reads old) = none := by
    rw [ancestors_eq_nil found unfed, List.find?_nil]
  exact ⟨_, replaceUses_of_unread owned described unread⟩

/-- An output can always be replaced by a new constant of its descriptor. If the constant holds what
the output denotes, this preserves what the nodes denote.
-/
theorem WellFormed.replaceByConstant (before : graph.WellFormed) {old : Output}
    {value : Tensor} {desc : TensorDesc} (described : value.desc? = some desc)
    (owned : graph.outputDesc old = .ok desc)
    (denoted : (before.denote bindings).tensor old = .ok value)
    : ∃ extended relinked count,
        graph.addConstant value = .ok (extended, graph.nodes.length)
        ∧ extended.replaceUses old (.first graph.nodes.length) = .ok (relinked, count)
        ∧ (∀ {held}, relinked.Holds held → held = value ∨ graph.Holds held)
        ∧ ∃ after : relinked.WellFormed, Preserves before after bindings := by
  obtain ⟨extended, name, added, extension⟩ := graph.addConstant_eq_ok described
  have between : extended.WellFormed := before.add added
  have found := extension.found_new
  have newDescribed : extended.outputDesc (.first graph.nodes.length) = .ok desc := by
    simp [Graph.outputDesc, Graph.node, Output.first, found]
  obtain ⟨count, replaced⟩ :=
    replaceUses_of_unfed (extension.outputDesc owned) newDescribed found rfl
  have after : (extended.redirected old (.first graph.nodes.length)).WellFormed :=
    between.replaceUses replaced
  refine ⟨extended, _, count, added, replaced, ?_, after, ?_⟩
  · intro held inRelinked
    rcases extension.holds (redirected_holds inRelinked) with new | old
    · exact .inl (Option.some.inj new).symm
    · exact .inr old
  · have extensionPreserves : Preserves before between bindings :=
      extension.preserves before between
    refine extensionPreserves.trans (redirected_preserves between after ?_)
    have inside := (hasOutput_iff_outputDesc.mpr ⟨desc, owned⟩).inside
    have constant : (between.denote bindings).tensor (.first graph.nodes.length) = .ok value :=
      between.tensor_constant (constantValue?_eq_some_iff.mpr ⟨rfl, _, found, rfl⟩)
    rw [constant, Meaning.tensor_congr (extensionPreserves.denotes _ inside), denoted]

/-- The outputs of a node can be replaced by what they denote, where that is as inferred, by
induction on the outputs that remain.
-/
theorem WellFormed.replaceOutputs_spec (before : graph.WellFormed) {id : NodeId} {node : Node}
    (found : graph.nodes[id]? = some node) {tensors : List Tensor}
    (denoted : before.denote bindings id = .ok tensors) {index : Nat} {values : List Tensor}
    (remaining : tensors.drop index = values)
    (described
      : List.Forall₂ (fun value desc => Tensor.desc? value = some desc) values
          (node.outputs.drop index))
    : ∃ relinked,
        graph.replaceOutputs id index values = (relinked, .ok ())
        ∧ (∀ {held}, relinked.Holds held → held ∈ values ∨ graph.Holds held)
        ∧ ∃ after : relinked.WellFormed, Preserves before after bindings := by
  induction values generalizing graph index node with
  | nil => exact ⟨graph, rfl, .inr, before, .refl before⟩
  | cons value rest ih =>
      obtain ⟨desc, descs, first, later, outputs⟩ := List.forall₂_cons_left_iff.mp described
      have present : tensors[index]? = some value := by
        rw [← List.head?_drop, remaining, List.head?_cons]
      have declared : node.outputs[index]? = some desc := by
        rw [← List.head?_drop, outputs, List.head?_cons]
      have owned : graph.outputDesc ⟨id, index⟩ = .ok desc := by
        simp [Graph.outputDesc, Graph.node, found, declared]
      have tensor : (before.denote bindings).tensor ⟨id, index⟩ = .ok value := by
        simp [Meaning.tensor, denoted, pick, present, bind, Except.bind]
      obtain ⟨extended, relinked, count, added, replaced, holds, between, preserves⟩ :=
        before.replaceByConstant first owned tensor
      obtain ⟨other, kept, -, sameOutputs⟩ := preserves.kept found
      have inside := (List.getElem?_eq_some_iff.mp found).1
      have stillDenoted := (preserves.denotes id inside).trans denoted
      have restRemaining : tensors.drop (index + 1) = rest := by
        rw [← List.tail_drop, remaining, List.tail_cons]
      have restDescribed
          : List.Forall₂ (fun value desc => Tensor.desc? value = some desc) rest
              (other.outputs.drop (index + 1)) := by
        rw [sameOutputs, ← List.tail_drop, outputs, List.tail_cons]
        exact later
      obtain ⟨final, done, finalHolds, after, finalPreserves⟩ :=
        ih between kept stillDenoted restRemaining restDescribed
      refine ⟨final, ?_, ?_, after, preserves.trans finalPreserves⟩
      · rw [replaceOutputs, added]
        simp only [replaced, done]
      · intro held inFinal
        rcases finalHolds inFinal with new | old
        · exact .inl (List.mem_cons_of_mem _ new)
        · rcases holds old with rfl | earlier
          · exact .inl List.mem_cons_self
          · exact .inr earlier

end TensorGraph.Graph
