import TensorGraph.Proofs.Graph.Retiring

/-! A preparation that succeeds leaves nothing to do for another one.

Afterwards no needed node reduces data without elements, and none can be folded. Folding brings
forth no reduction of such data, because it keeps what describes the inputs of a node.
-/

namespace TensorGraph.Graph

variable {graph changed : Graph} {retired : Output → Prop}

-----------------------------------------------------------------------------------------
-- Nodes that a simplification replaces
-----------------------------------------------------------------------------------------

/-- The node has inputs, all of them constants, and evaluates their values to tensors as inferred.
-/
def Foldable (graph : Graph) (id : NodeId) : Prop :=
  ∃ node inputs outputs,
    graph.nodes[id]? = some node
    ∧ node.inputs ≠ []
    ∧ node.inputs.mapM graph.constantValue? = some inputs
    ∧ node.op.evaluate (unshapedOutputs node) inputs = .ok ⟨true, outputs⟩
    ∧ ∀ pair ∈ outputs.zip node.outputs, pair.1.desc? = some pair.2

/-- The first input of the node has no elements, and the node has a value over none. -/
def ReducesEmpty (graph : Graph) (id : NodeId) : Prop :=
  ∃ node data others dataDesc desc rest value,
    graph.nodes[id]? = some node
    ∧ node.inputs = data :: others
    ∧ graph.outputDesc data = .ok dataDesc
    ∧ dataDesc.shape.count = 0
    ∧ node.outputs = desc :: rest
    ∧ node.op.defaultValue desc = .ok (some value)

/-- Folding replaces exactly the nodes that can be folded. -/
theorem foldable_iff {id : NodeId}
    : graph.Foldable id ↔ ∃ outputs, graph.foldedOutputs id = .ok (some outputs) := by
  constructor
  · rintro ⟨node, inputs, outputs, found, fed, known, evaluated, agreeing⟩
    refine ⟨outputs, ?_⟩
    unfold foldedOutputs Graph.node
    simp only [found, List.isEmpty_iff, fed, if_false, known, evaluated, Bool.true_and]
    refine if_pos (List.all_eq_true.mpr ?_)
    intro pair member
    exact decide_eq_true (agreeing pair member)
  · rintro ⟨outputs, folded⟩
    obtain ⟨node, inputs, found⟩ := foldedOutputs_eq_some folded
    exact ⟨node, inputs, outputs, found⟩

/-- The elimination replaces exactly the nodes that reduce data without elements. -/
theorem reducesEmpty_iff {id : NodeId}
    : graph.ReducesEmpty id ↔ graph.reducesNothing id = .ok true := by
  constructor
  · rintro ⟨node, data, others, dataDesc, desc, rest, value, found, inputs, described, empty,
      outputs, neutral⟩
    unfold reducesNothing Graph.node
    simp only [found, inputs, outputs, described, empty, neutral, orFailure, orFault,
      Except.mapError, bind, Except.bind, ne_eq, not_true_eq_false, if_false]
    rfl
  · intro reduces
    cases found : graph.nodes[id]? with
    | none => simp [reducesNothing, Graph.node, found, orFailure, Except.mapError, bind,
        Except.bind] at reduces
    | some node =>
        obtain ⟨data, others, dataDesc, desc, rest, value, facts⟩ :=
          reducesNothing_eq_true reduces found
        exact ⟨node, data, others, dataDesc, desc, rest, value, found, facts⟩

-----------------------------------------------------------------------------------------
-- Simplifications that find nothing to replace
-----------------------------------------------------------------------------------------

/-- The elimination finds no needed node to replace, and does not fail at any. -/
def NoneReduces (graph : Graph) : Prop :=
  ∀ id, graph.Needed id → graph.reducesNothing id = .ok false

/-- Folding finds no needed node to replace, and does not fail at any. -/
def NoneFolds (graph : Graph) : Prop :=
  ∀ id, graph.Needed id → graph.foldedOutputs id = .ok none

theorem NoneReduces.not_reducesEmpty (idle : graph.NoneReduces) {id : NodeId}
    (needed : graph.Needed id)
    : ¬ graph.ReducesEmpty id := by
  rw [reducesEmpty_iff, idle id needed]
  simp

theorem NoneFolds.not_foldable (idle : graph.NoneFolds) {id : NodeId}
    (needed : graph.Needed id)
    : ¬ graph.Foldable id := by
  rw [foldable_iff, idle id needed]
  simp

theorem eliminateNodes_eq_self {order : List NodeId} (count : Nat)
    (idle : ∀ id ∈ order, graph.reducesNothing id = .ok false)
    : graph.eliminateNodes count order = ⟨graph, .ok count⟩ := by
  induction order with
  | nil => rfl
  | cons id rest ih =>
      rw [eliminateNodes, idle id List.mem_cons_self]
      exact ih fun other member => idle other (List.mem_cons_of_mem _ member)

theorem foldNodes_eq_self {order : List NodeId} (count : Nat)
    (idle : ∀ id ∈ order, graph.foldedOutputs id = .ok none)
    : graph.foldNodes count order = ⟨graph, .ok count⟩ := by
  induction order with
  | nil => rfl
  | cons id rest ih =>
      rw [foldNodes, idle id List.mem_cons_self]
      exact ih fun other member => idle other (List.mem_cons_of_mem _ member)

theorem WellFormed.eliminateEmpty_eq_self (wellFormed : graph.WellFormed)
    (idle : graph.NoneReduces)
    : graph.eliminateEmpty = ⟨graph, .ok 0⟩ :=
  eliminateNodes_eq_self 0 fun id member => idle id (wellFormed.mem_topologicalOrder_iff.mp member)

theorem WellFormed.foldConstants_eq_self (wellFormed : graph.WellFormed) (idle : graph.NoneFolds)
    : graph.foldConstants = ⟨graph, .ok 0⟩ :=
  foldNodes_eq_self 0 fun id member => idle id (wellFormed.mem_topologicalOrder_iff.mp member)

-----------------------------------------------------------------------------------------
-- What is left after a simplification
-----------------------------------------------------------------------------------------

/-- A needed node of the changed graph is a new one without inputs, or it was needed before and some
output of it is not retired.
-/
theorem Retires.needed_cases (retires : Retires graph changed retired) (before : graph.WellFormed)
    (after : changed.WellFormed) {id : NodeId} (needed : changed.Needed id)
    : (∃ node, changed.nodes[id]? = some node ∧ node.inputs = [])
      ∨ id < graph.nodes.length ∧ graph.Needed id ∧ ¬ graph.AllRetired retired id := by
  rcases Nat.lt_or_ge id graph.nodes.length with old | new
  · exact .inr ⟨old, retires.of_needed before needed old⟩
  · have found := List.getElem?_eq_getElem (after.inside_of_needed needed)
    exact .inl ⟨_, found, retires.added new found⟩

/-- If the nodes that reduce nothing have been retired, no needed node is left that does. -/
theorem Retires.noneReduces (retires : Retires graph changed retired) (before : graph.WellFormed)
    (after : changed.WellFormed)
    (settled
      : ∀ id,
          graph.Needed id
          → graph.reducesNothing id = .ok false ∨ graph.AllRetired retired id)
    : changed.NoneReduces := by
  intro id needed
  rcases retires.needed_cases before after needed with ⟨node, found, unfed⟩ | ⟨old, earlier, free⟩
  · simp [Graph.reducesNothing, Graph.node, found, unfed, orFailure, Except.mapError, bind,
      Except.bind]
  · rw [retires.reducesNothing before old]
    exact (settled id earlier).resolve_right free

/-- If the nodes that can be folded have been retired, no needed node is left that can be. -/
theorem Retires.noneFolds (retires : Retires graph changed retired) (before : graph.WellFormed)
    (after : changed.WellFormed)
    (settled
      : ∀ id,
          graph.Needed id
          → changed.foldedOutputs id = .ok none ∨ graph.AllRetired retired id)
    : changed.NoneFolds := by
  intro id needed
  rcases retires.needed_cases before after needed with ⟨node, found, unfed⟩ | ⟨-, earlier, free⟩
  · simp [Graph.foldedOutputs, Graph.node, found, unfed]
  · exact (settled id earlier).resolve_right free

theorem WellFormed.eliminateEmpty_noneReduces (before : graph.WellFormed) {count : Nat}
    (success : graph.eliminateEmpty.outcome = .ok count)
    : graph.eliminateEmpty.graph.WellFormed ∧ graph.eliminateEmpty.graph.NoneReduces := by
  obtain ⟨after, retired, retires, settled⟩ :=
    before.eliminateNodes_retires before.inside_of_ordered success
  refine ⟨after, retires.noneReduces before after ?_⟩
  intro id needed
  exact settled id (before.mem_topologicalOrder_iff.mpr needed)

theorem WellFormed.foldConstants_noneFolds (before : graph.WellFormed) {count : Nat}
    (success : graph.foldConstants.outcome = .ok count)
    : graph.foldConstants.graph.WellFormed
      ∧ graph.foldConstants.graph.NoneFolds
      ∧ (graph.NoneReduces → graph.foldConstants.graph.NoneReduces) := by
  obtain ⟨after, retired, retires, -, settled⟩ :=
    before.foldNodes_retires before.inside_of_ordered before.arranged.1.backward success
  refine ⟨after, retires.noneFolds before after ?_, ?_⟩
  · intro id needed
    exact settled id (before.mem_topologicalOrder_iff.mpr needed)
  · intro idle
    exact retires.noneReduces before after fun id needed => .inl (idle id needed)

-----------------------------------------------------------------------------------------
-- Preparations
-----------------------------------------------------------------------------------------

/-- Two simplifications in a row succeed only if both do. -/
theorem Simplification.andThen_eq_ok {first : Simplification} {next : Graph → Simplification}
    {count : Nat} (success : (first.andThen next).outcome = .ok count)
    : ∃ earlier later,
        first.outcome = .ok earlier
        ∧ (next first.graph).outcome = .ok later
        ∧ (first.andThen next).graph = (next first.graph).graph := by
  unfold andThen at success ⊢
  split at success
  next failed =>
    rw [failed] at success
    cases success
  next earlier done =>
    obtain ⟨later, nextDone, -⟩ := map_eq_ok_iff.mp success
    exact ⟨earlier, later, done, nextDone, rfl⟩

/-- What a preparation that succeeds leaves: a well-formed graph, and nothing to do for the
simplifications that it makes.
-/
theorem WellFormed.prepare_settled (before : graph.WellFormed) {config : Config} {count : Nat}
    (success : (graph.prepare config).outcome = .ok count)
    : (graph.prepare config).graph.WellFormed
      ∧ (config.eliminateEmpty → (graph.prepare config).graph.NoneReduces)
      ∧ (config.foldConstants → (graph.prepare config).graph.NoneFolds) := by
  obtain ⟨folding, eliminating⟩ := config
  obtain ⟨_, _, eliminated, folded, same⟩ := Simplification.andThen_eq_ok success
  rw [prepare, same]
  have first
      : (simplifyIf eliminating eliminateEmpty graph).graph.WellFormed
        ∧ (eliminating → (simplifyIf eliminating eliminateEmpty graph).graph.NoneReduces) := by
    cases eliminating with
    | false => exact ⟨before, nofun⟩
    | true => exact (before.eliminateEmpty_noneReduces eliminated).imp_right fun idle _ => idle
  obtain ⟨between, idle⟩ := first
  cases folding with
  | false => exact ⟨between, idle, nofun⟩
  | true =>
      obtain ⟨after, settled, kept⟩ := between.foldConstants_noneFolds folded
      exact ⟨after, fun enabled => kept (idle enabled), fun _ => settled⟩

/-- A preparation leaves a graph as it is if there is nothing to do for the simplifications that it
makes.
-/
theorem WellFormed.prepare_eq_self (wellFormed : graph.WellFormed) {config : Config}
    (noneReduces : config.eliminateEmpty → graph.NoneReduces)
    (noneFolds : config.foldConstants → graph.NoneFolds)
    : graph.prepare config = ⟨graph, .ok 0⟩ := by
  obtain ⟨folding, eliminating⟩ := config
  have eliminated : simplifyIf eliminating eliminateEmpty graph = ⟨graph, .ok 0⟩ := by
    cases eliminating with
    | false => rfl
    | true => exact wellFormed.eliminateEmpty_eq_self (noneReduces rfl)
  have folded : simplifyIf folding foldConstants graph = ⟨graph, .ok 0⟩ := by
    cases folding with
    | false => rfl
    | true => exact wellFormed.foldConstants_eq_self (noneFolds rfl)
  rw [prepare, eliminated, Simplification.andThen]
  simp only [folded]
  rfl

/-- If a preparation succeeds, the same preparation made once more finds nothing to replace and
leaves the whole graph as it is. After folding no needed node can be folded, and after the
elimination no needed node reduces data without elements.
-/
theorem Reachable.prepare_again (reachable : graph.Reachable)
    : (∀ config count,
        (graph.prepare config).outcome = .ok count
        → (graph.prepare config).graph.prepare config = ⟨(graph.prepare config).graph, .ok 0⟩
          ∧ ∀ id,
              (graph.prepare config).graph.Needed id
              → (config.foldConstants → ¬ (graph.prepare config).graph.Foldable id)
                ∧ (config.eliminateEmpty → ¬ (graph.prepare config).graph.ReducesEmpty id))
      ∧ (∀ count,
          graph.foldConstants.outcome = .ok count
          → ∀ id,
              graph.foldConstants.graph.Needed id → ¬ graph.foldConstants.graph.Foldable id)
      ∧ ∀ count,
          graph.eliminateEmpty.outcome = .ok count
          → ∀ id,
              graph.eliminateEmpty.graph.Needed id
              → ¬ graph.eliminateEmpty.graph.ReducesEmpty id := by
  have before := reachable.wellFormed
  refine ⟨?_, ?_, ?_⟩
  · intro config count success
    obtain ⟨after, noneReduces, noneFolds⟩ := before.prepare_settled success
    refine ⟨after.prepare_eq_self noneReduces noneFolds, ?_⟩
    intro id needed
    exact ⟨fun enabled => (noneFolds enabled).not_foldable needed,
      fun enabled => (noneReduces enabled).not_reducesEmpty needed⟩
  · intro count success id needed
    exact (before.foldConstants_noneFolds success).2.1.not_foldable needed
  · intro count success id needed
    exact (before.eliminateEmpty_noneReduces success).2.not_reducesEmpty needed

/-- The total of the sums of the columns of a table without rows. -/
def emptyTotal : Graph :=
  empty.performAll
    [
      .constant noRows,
      .constant (axisList 0),
      .add (.reduction ⟨.sum, false, .empty⟩) [⟨0, 0⟩, ⟨1, 0⟩],
      .add (.reduction ⟨.sum, false, .empty⟩) [⟨2, 0⟩, ⟨1, 0⟩],
      .addResult ⟨3, 0⟩
    ]

/-- The integer 0. -/
def scalarZero : Tensor :=
  ⟨⟨.i32, [0]⟩, some .scalar, rfl⟩

/-- The total of two zeros in the place of the sums. -/
def zeroTotal : Graph :=
  (emptyTotal.perform (.constant twoZeros)).graph.redirected ⟨2, 0⟩ ⟨4, 0⟩

theorem emptyTotal_topologicalOrder : emptyTotal.topologicalOrder = [0, 1, 2, 3] :=
  calc emptyTotal.topologicalOrder
    _ = emptyTotal.visit [] [.enter 3] := rfl
    _ = emptyTotal.visit [3] [.enter 2, .enter 1, .leave 3] := by
        rw [visit_some List.not_mem_nil rfl]
        rfl
    _ = emptyTotal.visit [2, 3] [.enter 0, .enter 1, .leave 2, .enter 1, .leave 3] := by
        rw [visit_some (by decide) rfl]
        rfl
    _ = 0 :: emptyTotal.visit [0, 2, 3] [.enter 1, .leave 2, .enter 1, .leave 3] :=
        visit_source (by decide) rfl rfl _
    _ = 0 :: 1 :: emptyTotal.visit [1, 0, 2, 3] [.leave 2, .enter 1, .leave 3] := by
        rw [visit_source (by decide) rfl rfl]
    _ = [0, 1, 2, 3] := by
        rw [visit_leave, visit_known (by decide), visit_leave, visit]

theorem emptyTotal_eliminateEmpty : emptyTotal.eliminateEmpty = ⟨zeroTotal, .ok 1⟩ := by
  have added
      : emptyTotal.addDefault 2 = .ok ((emptyTotal.perform (.constant twoZeros)).graph, 4) :=
    rfl
  obtain ⟨count, relinked⟩
      : ∃ count,
          (emptyTotal.perform (.constant twoZeros)).graph.replaceUses (.first 2) (.first 4)
          = .ok (zeroTotal, count) :=
    replaceUses_of_unfed rfl rfl rfl rfl
  have skipped
      : emptyTotal.eliminateNodes 0 [0, 1, 2, 3] = emptyTotal.eliminateNodes 0 [2, 3] :=
    rfl
  have reduces : emptyTotal.reducesNothing 2 = .ok true := rfl
  have keeps : zeroTotal.reducesNothing 3 = .ok false := rfl
  rw [eliminateEmpty, emptyTotal_topologicalOrder, skipped, eliminateNodes]
  simp only [reduces, added, relinked, eliminateNodes, keeps]

theorem zeroTotal_foldConstants : zeroTotal.foldConstants.outcome = .ok 1 := by
  have order : zeroTotal.topologicalOrder = [4, 1, 3] :=
    topologicalOrder_of_sources ⟨4, 0⟩ ⟨1, 0⟩ ⟨3, 0⟩ rfl rfl rfl rfl rfl rfl rfl (by decide)
  have folded : zeroTotal.foldedOutputs 3 = .ok (some [scalarZero]) := rfl
  have added
      : zeroTotal.addConstant scalarZero
        = .ok ((zeroTotal.perform (.constant scalarZero)).graph, 5) :=
    rfl
  obtain ⟨count, relinked⟩
      : ∃ count,
          (zeroTotal.perform (.constant scalarZero)).graph.replaceUses ⟨3, 0⟩ (.first 5)
          = .ok
              ((zeroTotal.perform (.constant scalarZero)).graph.redirected ⟨3, 0⟩ (.first 5),
                count) :=
    replaceUses_of_unfed rfl rfl rfl rfl
  have skipped : zeroTotal.foldNodes 0 [4, 1, 3] = zeroTotal.foldNodes 0 [3] := rfl
  rw [foldConstants, order, skipped, foldNodes, folded]
  simp only [replaceOutputs, added, relinked, foldNodes]

/-- A preparation that replaces the sums of no rows and then their total finds nothing to replace
when it is made again.
-/
theorem emptyTotal_prepare_again
    : emptyTotal.Reachable
      ∧ emptyTotal.ReducesEmpty 2
      ∧ (emptyTotal.prepare ⟨true, true⟩).outcome = .ok 2
      ∧ (emptyTotal.prepare ⟨true, true⟩).graph.prepare ⟨true, true⟩
        = ⟨(emptyTotal.prepare ⟨true, true⟩).graph, .ok 0⟩
      ∧ emptyTotal.eliminateEmpty.outcome = .ok 1
      ∧ ∀ id,
          emptyTotal.eliminateEmpty.graph.Needed id
          → ¬ emptyTotal.eliminateEmpty.graph.ReducesEmpty id := by
  have reachable : emptyTotal.Reachable := ⟨_, rfl⟩
  have prepared : (emptyTotal.prepare ⟨true, true⟩).outcome = .ok 2 := by
    simp only [prepare, simplifyIf, if_true, emptyTotal_eliminateEmpty, Simplification.andThen,
      zeroTotal_foldConstants]
    rfl
  have eliminated : emptyTotal.eliminateEmpty.outcome = .ok 1 := by
    rw [emptyTotal_eliminateEmpty]
  obtain ⟨settles, -, reduces⟩ := Reachable.prepare_again reachable
  exact ⟨reachable, reducesEmpty_iff.mpr rfl, prepared, (settles _ 2 prepared).1, eliminated,
    reduces 1 eliminated⟩

end TensorGraph.Graph
