import TensorGraph.Proofs.Graph.ConstantFolding
import TensorGraph.Proofs.Graph.Cutting

/-! Redirecting the uses of an output to one that evaluates to the same changes no execution that
succeeds.

The readers of the old output read the same tensor from the new one, and the node of the new output
reads what it read before. So every node that denoted tensors still denotes them, in whatever order
the nodes are evaluated now.
-/

namespace TensorGraph.Graph

variable {graph changed : Graph} {bindings : Bindings}

/-- The graph with other results. -/
def withResults (graph : Graph) (results : List Output) : Graph :=
  { graph with results := results }

theorem WellFormed.withResults (wellFormed : graph.WellFormed) {results : List Output}
    (owned : ∀ result ∈ results, graph.HasOutput result)
    : (graph.withResults results).WellFormed where
  placed := wellFormed.placed
  settled := wellFormed.settled
  edges := wellFormed.edges
  results := owned
  acyclic := wellFormed.acyclic

/-- What the nodes denote does not depend on the results. -/
theorem WellFormed.denote_withResults (wellFormed : graph.WellFormed) {results : List Output}
    (others : (graph.withResults results).WellFormed)
    : others.denote bindings = wellFormed.denote bindings := by
  funext id
  refine (eq_denote_of_solves others.acyclic (fun _ => True) (fun _ _ => trivial) ?_
    trivial).symm
  intro id _
  exact wellFormed.denote_eq_unfolded id

/-- A run that has the output as its only result succeeds and gives the tensor. Such a run evaluates
the node of the output and every node that this depends on.
-/
def Computes (graph : Graph) (bindings : Bindings) (output : Output) (tensor : Tensor) : Prop :=
  ((graph.withResults [output]).execute [] bindings).outcome = .ok [tensor]

theorem WellFormed.computes_iff (wellFormed : graph.WellFormed) {output : Output}
    (owned : graph.HasOutput output) {tensor : Tensor}
    : graph.Computes bindings output tensor
      ↔ graph.BindsParameters bindings
        ∧ (wellFormed.denote bindings).tensor output = .ok tensor := by
  have single : (graph.withResults [output]).WellFormed :=
    wellFormed.withResults fun result member => List.mem_singleton.mp member ▸ owned
  rw [Computes, single.execute_eq_ok_iff, wellFormed.denote_withResults single, mapM_eq_ok_iff]
  simp [BindsParameters, Graph.withResults]

/-- A redirection that succeeds changes no execution that succeeds, if the new output evaluates to
what the old one evaluates to. It may read the old output itself, and its node and those that it
depends on need not have been needed before.
-/
theorem Reachable.execute_replaceUses (reachable : graph.Reachable) {old new : Output} {count : Nat}
    (replaced : graph.replaceUses old new = .ok (changed, count))
    (same
      : ∀ tensor, graph.Computes bindings old tensor → graph.Computes bindings new tensor)
    {results : List Tensor} (success : (graph.execute [] bindings).outcome = .ok results)
    : (changed.execute [] bindings).outcome = .ok results := by
  have before := reachable.wellFormed
  have after : changed.WellFormed := before.replaceUses replaced
  obtain ⟨⟨desc, oldDescribed, newDescribed⟩, -, rfl, -⟩ := replaceUses_eq_ok replaced
  have oldOwned := hasOutput_iff_outputDesc.mpr ⟨desc, oldDescribed⟩
  have newOwned := hasOutput_iff_outputDesc.mpr ⟨desc, newDescribed⟩
  obtain ⟨binds, -⟩ := before.execute_eq_ok_iff.mp success
  have denotes (tensor : Tensor) (denoted : (before.denote bindings).tensor old = .ok tensor)
      : (before.denote bindings).tensor new = .ok tensor := by
    have computed := same tensor ((before.computes_iff oldOwned).mpr ⟨binds, denoted⟩)
    exact ((before.computes_iff newOwned).mp computed).2
  have cuts : Cuts before after bindings fun _ => True :=
    redirected_cuts before after trivial oldDescribed newDescribed denotes
  exact cuts.execute success

/-- The list of no axes. -/
def noAxes : Tensor :=
  ⟨⟨.i64, []⟩, some ⟨[0]⟩, rfl⟩

/-- A parameter as the result, and its sum over no axes, which nothing reads. -/
def plainSum : Graph :=
  empty.performAll
    [
      .parameter ⟨.i32, ⟨[3]⟩⟩,
      .constant noAxes,
      .add (.reduction ⟨.sum, false, .empty⟩) [⟨0, 0⟩, ⟨1, 0⟩],
      .addResult ⟨0, 0⟩
    ]

/-- The sum reads the parameter itself, but neither of the nodes that it depends on does. -/
theorem plainSum_ancestors : (plainSum.ancestors 2).find? (plainSum.reads ⟨0, 0⟩) = none := by
  have source {id : NodeId} (unfed : id = 0 ∨ id = 1) (stack : List NodeId)
      : plainSum.searchInputs [0, 1] (id :: stack) = plainSum.searchInputs [0, 1] stack := by
    rw [searchInputs]
    split
    · rfl
    next new => rcases unfed with rfl | rfl <;> cases new
  have both : plainSum.newlyFound [] ((plainSum.nodes[2]?.map Node.inputs).getD []) = [0, 1] :=
    rfl
  have found : plainSum.ancestors 2 = [0, 1] := by
    rw [ancestors, searchInputs]
    split
    next new =>
      rw [both] at new
      cases new
    next first more new =>
      rw [both] at new
      cases new
      simp [source, searchInputs]
  rw [found]
  rfl

/-- The sum of a list over no axes takes the place of the list. -/
theorem plainSum_execute_replaceUses
    : plainSum.Reachable
      ∧ plainSum.replaceUses ⟨0, 0⟩ ⟨2, 0⟩ = .ok (plainSum.redirected ⟨0, 0⟩ ⟨2, 0⟩, 1)
      ∧ (∀ tensor,
          plainSum.Computes [(0, oneTwoThree)] ⟨0, 0⟩ tensor
          → plainSum.Computes [(0, oneTwoThree)] ⟨2, 0⟩ tensor)
      ∧ (plainSum.execute [] [(0, oneTwoThree)]).outcome = .ok [oneTwoThree]
      ∧ ((plainSum.redirected ⟨0, 0⟩ ⟨2, 0⟩).execute [] [(0, oneTwoThree)]).outcome
        = .ok [oneTwoThree] := by
  have reachable : plainSum.Reachable := ⟨_, rfl⟩
  have replaced
      : plainSum.replaceUses ⟨0, 0⟩ ⟨2, 0⟩ = .ok (plainSum.redirected ⟨0, 0⟩ ⟨2, 0⟩, 1) :=
    replaceUses_of_unread rfl rfl plainSum_ancestors
  have computesList : plainSum.Computes [(0, oneTwoThree)] ⟨0, 0⟩ oneTwoThree := by
    have order : (plainSum.withResults [⟨0, 0⟩]).topologicalOrder = [0] :=
      topologicalOrder_of_source ⟨0, 0⟩ rfl rfl rfl
    rw [Computes, execute, order]
    rfl
  have computesSum : plainSum.Computes [(0, oneTwoThree)] ⟨2, 0⟩ oneTwoThree := by
    have order : (plainSum.withResults [⟨2, 0⟩]).topologicalOrder = [0, 1, 2] :=
      topologicalOrder_of_sources ⟨0, 0⟩ ⟨1, 0⟩ ⟨2, 0⟩ rfl rfl rfl rfl rfl rfl rfl (by decide)
    rw [Computes, execute, order]
    rfl
  have same (tensor : Tensor) (computed : plainSum.Computes [(0, oneTwoThree)] ⟨0, 0⟩ tensor)
      : plainSum.Computes [(0, oneTwoThree)] ⟨2, 0⟩ tensor := by
    cases computesList.symm.trans computed
    exact computesSum
  exact ⟨reachable, replaced, same, computesList,
    Reachable.execute_replaceUses reachable replaced same computesList⟩

end TensorGraph.Graph
