import Mathlib.Logic.Relation
import TensorGraph.Graph.Relink
import TensorGraph.Proofs.Graph.WellFormed

/-! A redirection that is not refused keeps a graph well-formed.

The search for the nodes that the new output depends on misses none of them. If no such node reads
the old output, the redirected edges lead to a part of the graph that has kept its edges, and so
they close no cycle.
-/

namespace TensorGraph.Graph

open Relation

-----------------------------------------------------------------------------------------
-- The search for ancestors
-----------------------------------------------------------------------------------------

/-- The nodes that `id` reads from are all in `found`. -/
def Covered (graph : Graph) (found : List NodeId) (id : NodeId) : Prop :=
  ∀ source, graph.Feeds source id → source < graph.nodes.length → source ∈ found

theorem Covered.mono {graph : Graph} {found more : List NodeId} {id : NodeId}
    (covered : graph.Covered found id) (subset : found ⊆ more)
    : graph.Covered more id :=
  fun source edge inside => subset (covered source edge inside)

theorem mem_newlyFound_of_mem {graph : Graph} (found : List NodeId) {inputs : List Output}
    {input : Output} (member : input ∈ inputs) (inside : input.node < graph.nodes.length)
    : input.node ∈ found ++ graph.newlyFound found inputs := by
  induction inputs generalizing found with
  | nil => exact absurd member List.not_mem_nil
  | cons head rest ih =>
      simp only [newlyFound]
      split
      next skipped =>
        rcases List.mem_cons.mp member with rfl | later
        · exact List.mem_append_left _ (skipped.resolve_right (Nat.not_le.mpr inside))
        · exact ih found later
      · rcases List.mem_cons.mp member with rfl | later
        · simp
        · have known := ih (head.node :: found) later
          simp only [List.mem_append, List.mem_cons] at known ⊢
          tauto

/-- One step of the search covers the node that it takes from the stack. -/
theorem covered_newlyFound (graph : Graph) (found : List NodeId) (id : NodeId)
    : graph.Covered
        (found
        ++ graph.newlyFound found ((graph.nodes[id]?.map Node.inputs).getD [])) id := by
  rintro source ⟨node, stored, input, member, rfl⟩ inside
  simpa [stored] using mem_newlyFound_of_mem found member inside

/-- The search keeps what it found, and in the end covers every node that it found or that it
started from, by induction on the search. Nodes that wait on the stack need not be covered yet.
-/
theorem searchInputs_covers {graph : Graph} {root : NodeId} {found stack : List NodeId}
    (progress : ∀ id, id = root ∨ id ∈ found → id ∈ stack ∨ graph.Covered found id)
    : found ⊆ graph.searchInputs found stack
      ∧ ∀ id,
          id = root ∨ id ∈ graph.searchInputs found stack
          → graph.Covered (graph.searchInputs found stack) id := by
  fun_induction searchInputs graph found stack with
  | case1 found =>
      exact ⟨List.Subset.refl _, fun id known => (progress id known).resolve_left (by simp)⟩
  | case2 found current stack inputs new ih =>
      apply ih
      intro id known
      have step := covered_newlyFound graph found current
      rw [new, List.append_nil] at step
      rcases progress id known with waiting | covered
      · rcases List.mem_cons.mp waiting with rfl | later
        · exact .inr step
        · exact .inl later
      · exact .inr covered
  | case3 found current stack inputs first more new ih =>
      have step := covered_newlyFound graph found current
      rw [new] at step
      have grown : found ⊆ found ++ first :: more := List.subset_append_left _ _
      obtain ⟨kept, covered⟩ := ih (by
        intro id known
        have origin : (id = root ∨ id ∈ found) ∨ id ∈ first :: more := by
          rw [List.mem_append] at known
          tauto
        rcases origin with old | new
        · rcases progress id old with waiting | covered
          · rcases List.mem_cons.mp waiting with rfl | later
            · exact .inr step
            · exact .inl (List.mem_append_right _ later)
          · exact .inr (covered.mono grown)
        · exact .inl (List.mem_append_left _ (List.mem_reverse.mpr new)))
      exact ⟨fun _ member => kept (grown member), covered⟩

/-- The search finds every node from which a path leads to the node that it started from, by
induction on the path.
-/
theorem mem_ancestors {graph : Graph} (wellFormed : graph.WellFormed) {source id : NodeId}
    (path : TransGen graph.Feeds source id)
    : source ∈ graph.ancestors id := by
  have start (other : NodeId) (known : other = id ∨ other ∈ [])
      : other ∈ [id] ∨ graph.Covered [] other :=
    .inl (by simpa using known)
  have covered := (searchInputs_covers start).2
  induction path using TransGen.head_induction_on with
  | single edge => exact covered id (.inl rfl) _ edge (wellFormed.inside_of_feeds edge)
  | head edge _ ih => exact covered _ (.inr ih) _ edge (wellFormed.inside_of_feeds edge)

-----------------------------------------------------------------------------------------
-- Redirected edges
-----------------------------------------------------------------------------------------

/-- A redirection that is not refused has two outputs of the same descriptor, and no node that the
new output depends on reads the old one.
-/
theorem replaceUses_eq_ok {graph changed : Graph} {old new : Output} {count : Nat}
    (success : graph.replaceUses old new = .ok (changed, count))
    : (∃ desc, graph.outputDesc old = .ok desc ∧ graph.outputDesc new = .ok desc)
      ∧ (∀ reader ∈ graph.ancestors new.node, ¬ graph.reads old reader)
      ∧ changed = graph.redirected old new
      ∧ count = (graph.redirectable new).count old := by
  simp only [replaceUses, bind_eq_ok_iff] at success
  obtain ⟨oldDesc, oldDescribed, newDesc, newDescribed, success⟩ := success
  split at success
  · exact absurd success (by simp)
  next same =>
    rw [not_not] at same
    subst same
    split at success
    · exact absurd success (by simp)
    next clear =>
      simp only [Except.ok.injEq, Prod.mk.injEq] at success
      obtain ⟨rfl, rfl⟩ := success
      exact ⟨⟨_, oldDescribed, newDescribed⟩, List.find?_eq_none.mp clear, rfl, rfl⟩

/-- The uses of an output are redirected to another output of the same descriptor, if no node that
the other one depends on reads the first.
-/
theorem replaceUses_of_unread {graph : Graph} {old new : Output} {desc : TensorDesc}
    (owned : graph.outputDesc old = .ok desc) (described : graph.outputDesc new = .ok desc)
    (unread : (graph.ancestors new.node).find? (graph.reads old) = none)
    : graph.replaceUses old new
      = .ok (graph.redirected old new, (graph.redirectable new).count old) := by
  simp only [replaceUses, owned, described, bind, Except.bind, ne_eq, not_true_eq_false,
    if_false, unread]

theorem redirected_nodes (graph : Graph) (old new : Output) (id : NodeId)
    : (graph.redirected old new).nodes[id]? = graph.nodes[id]?.map (redirectNode old new) :=
  List.getElem?_map

theorem redirected_found_iff {graph : Graph} {old new : Output} {id : NodeId} {changed : Node}
    : (graph.redirected old new).nodes[id]? = some changed
      ↔ ∃ node, graph.nodes[id]? = some node ∧ redirectNode old new node = changed := by
  rw [redirected_nodes, Option.map_eq_some_iff]

section RedirectNode

variable (old new : Output) (node : Node)

@[simp]
theorem redirectNode_id : (redirectNode old new node).id = node.id := by
  unfold redirectNode
  split <;> rfl

@[simp]
theorem redirectNode_op : (redirectNode old new node).op = node.op := by
  unfold redirectNode
  split <;> rfl

@[simp]
theorem redirectNode_outputs : (redirectNode old new node).outputs = node.outputs := by
  unfold redirectNode
  split <;> rfl

theorem redirectNode_inputs_of_ne {old new : Output} {node : Node} (other : node.id ≠ new.node)
    : (redirectNode old new node).inputs = redirect old new node.inputs := by
  rw [redirectNode, if_neg other]

theorem length_redirectNode_inputs
    : (redirectNode old new node).inputs.length = node.inputs.length := by
  unfold redirectNode redirect
  split <;> simp

end RedirectNode

/-- An input of a redirected node is an input that it had, or `new` in the place of `old`. -/
theorem mem_redirect {old new output : Output} {references : List Output}
    (member : output ∈ redirect old new references)
    : output ∈ references ∨ output = new ∧ old ∈ references := by
  obtain ⟨reference, inside, rfl⟩ := List.mem_map.mp member
  split
  next same => exact .inr ⟨rfl, same ▸ inside⟩
  · exact .inl inside

theorem mem_redirectNode_inputs {old new output : Output} {node : Node}
    (member : output ∈ (redirectNode old new node).inputs)
    : output ∈ node.inputs ∨ output = new ∧ old ∈ node.inputs ∧ node.id ≠ new.node := by
  unfold redirectNode at member
  split at member
  · exact .inl member
  next other =>
    rcases mem_redirect member with kept | ⟨same, read⟩
    · exact .inl kept
    · exact .inr ⟨same, read, other⟩

theorem redirected_hasOutput_iff {graph : Graph} {old new output : Output}
    : (graph.redirected old new).HasOutput output ↔ graph.HasOutput output := by
  simp only [HasOutput, redirected_found_iff]
  constructor
  · rintro ⟨_, ⟨node, found, rfl⟩, index⟩
    exact ⟨node, found, by simpa using index⟩
  · rintro ⟨node, found, index⟩
    exact ⟨_, ⟨node, found, rfl⟩, by simpa using index⟩

/-- An edge after a redirection is an edge from before, or it leads from the node of `new` to
another node that read `old`.
-/
theorem redirected_feeds_cases {graph : Graph} (wellFormed : graph.WellFormed)
    {old new : Output} {source reader : NodeId}
    (edge : (graph.redirected old new).Feeds source reader)
    : graph.Feeds source reader
      ∨ source = new.node ∧ reader ≠ new.node ∧ graph.reads old reader := by
  obtain ⟨changed, found, input, member, rfl⟩ := edge
  obtain ⟨node, stored, rfl⟩ := redirected_found_iff.mp found
  rcases mem_redirectNode_inputs member with kept | ⟨rfl, read, other⟩
  · exact .inl ⟨node, stored, input, kept, rfl⟩
  · rw [wellFormed.placed stored] at other
    exact .inr ⟨rfl, other, by simp [reads, stored, read]⟩

/-- If no node that `new` depends on reads `old`, a redirection closes no cycle. Those nodes and the
node of `new` keep their edges, so they are accessible as before. A new edge leads from the node of
`new`, so the others are accessible as well.
-/
theorem redirected_acyclic {graph : Graph} (wellFormed : graph.WellFormed) {old new : Output}
    (clear : ∀ reader ∈ graph.ancestors new.node, ¬ graph.reads old reader)
    : WellFounded (graph.redirected old new).Feeds := by
  -- First the part of the graph that new edges lead from: no edge in it is new.
  have upstream (id : NodeId) (path : ReflTransGen graph.Feeds id new.node)
      : Acc (graph.redirected old new).Feeds id := by
    induction id using wellFormed.acyclic.induction with
    | _ id ih =>
        refine ⟨id, ?_⟩
        intro source edge
        rcases redirected_feeds_cases wellFormed edge with before | ⟨-, other, read⟩
        · exact ih source before (path.head before)
        · have proper := (reflTransGen_iff_eq_or_transGen.mp path).resolve_left other.symm
          exact absurd read (clear id (mem_ancestors wellFormed proper))
  refine ⟨fun id => ?_⟩
  induction id using wellFormed.acyclic.induction with
  | _ id ih =>
      refine ⟨id, ?_⟩
      intro source edge
      rcases redirected_feeds_cases wellFormed edge with before | ⟨rfl, -, -⟩
      · exact ih source before
      · exact upstream _ .refl

theorem redirectNode_settled {old new : Output} {node : Node} (settled : node.Settled)
    : (redirectNode old new node).Settled := by
  have none : node.inputs = [] → (redirectNode old new node).inputs = [] := by
    intro empty
    apply List.eq_nil_of_length_eq_zero
    rw [length_redirectNode_inputs, empty, List.length_nil]
  unfold Node.Settled at settled ⊢
  rw [redirectNode_op, redirectNode_outputs]
  cases op : node.op with
  | parameter | constant =>
      simp only [op] at settled ⊢
      exact settled.imp_left none
  | reduction | selection =>
      simp only [op] at settled ⊢
      rw [length_redirectNode_inputs]
      exact settled

/-- A redirection that is not refused keeps a graph well-formed. -/
theorem WellFormed.replaceUses {graph changed : Graph} (wellFormed : graph.WellFormed)
    {old new : Output} {count : Nat}
    (success : graph.replaceUses old new = .ok (changed, count))
    : changed.WellFormed := by
  obtain ⟨⟨desc, -, described⟩, clear, rfl, -⟩ := replaceUses_eq_ok success
  have newOwned : graph.HasOutput new := hasOutput_iff_outputDesc.mpr ⟨desc, described⟩
  refine {
    placed := ?_
    settled := ?_
    edges := ?_
    results := ?_
    acyclic := redirected_acyclic wellFormed clear
  }
  · intro id changed found
    obtain ⟨node, stored, rfl⟩ := redirected_found_iff.mp found
    exact (redirectNode_id old new node).trans (wellFormed.placed stored)
  · intro id changed found
    obtain ⟨node, stored, rfl⟩ := redirected_found_iff.mp found
    exact redirectNode_settled (wellFormed.settled stored)
  · intro id changed found input member
    obtain ⟨node, stored, rfl⟩ := redirected_found_iff.mp found
    rw [redirected_hasOutput_iff]
    rcases mem_redirectNode_inputs member with kept | ⟨rfl, -, -⟩
    · exact wellFormed.edges stored input kept
    · exact newOwned
  · intro result member
    rw [redirected_hasOutput_iff]
    rcases mem_redirect member with kept | ⟨rfl, -⟩
    · exact wellFormed.results result kept
    · exact newOwned

end TensorGraph.Graph
