import Mathlib.Algebra.GroupWithZero.Nat
import TensorGraph.Proofs.Graph.Names
import TensorGraph.Proofs.Graph.Substitution

/-! A redirection is refused if and only if it would close a cycle, and otherwise it changes the
edges and results that it is meant to change and nothing else.

The refusal looks at the graph as it is, for a node that reads the old output and feeds the new one.
On the way from this node to the new output the redirection may change edges as well. The last edge
that it changes leads from the new output, and from there on the way is kept: it is a cycle.
-/

namespace TensorGraph.Graph

open Relation

variable {graph : Graph} {old new : Output}

-----------------------------------------------------------------------------------------
-- What a redirection is meant to do
-----------------------------------------------------------------------------------------

/-- What a node reads instead of an output. The node of `new` itself keeps what it reads. -/
def redirection (old new : Output) (reader : NodeId) (input : Output) : Output :=
  if input = old ∧ reader ≠ new.node then new else input

/-- After the redirection `reader` would read an output of the node `source`. -/
def WouldFeed (graph : Graph) (old new : Output) (source reader : NodeId) : Prop :=
  ∃ node,
    graph.nodes[reader]? = some node
    ∧ ∃ input ∈ node.inputs, (redirection old new reader input).node = source

/-- After the redirection some node would depend on itself. -/
def ClosesCycle (graph : Graph) (old new : Output) : Prop :=
  ∃ id, TransGen (graph.WouldFeed old new) id id

/-- The number of edges that read an output, save for those of the node of `new`, and of results
that name it.
-/
def useCount (graph : Graph) (old new : Output) : Nat :=
  (graph.nodes.map fun node => if node.id = new.node then 0 else node.inputs.count old).sum
    + graph.results.count old

/-- Every node reads the redirected outputs and is otherwise the same, in the same place, and the
results are the redirected ones.
-/
structure Redirects (graph : Graph) (old new : Output) (changed : Graph) : Prop where
  size : changed.nodes.length = graph.nodes.length
  nodes
    : ∀ {id : NodeId} {node : Node},
        graph.nodes[id]? = some node
        → changed.nodes[id]?
          = some { node with inputs := node.inputs.map (redirection old new id) }
  results
    : changed.results = graph.results.map fun result => if result = old then new else result
  names : changed.names = graph.names

/-- No result is `old`, and no node reads it except possibly the node of `new`. -/
def Unused (graph : Graph) (old new : Output) : Prop :=
  old ∉ graph.results
  ∧ ∀ {id : NodeId} {node : Node},
      graph.nodes[id]? = some node → id ≠ new.node → old ∉ node.inputs

-----------------------------------------------------------------------------------------
-- A refusal closes a cycle
-----------------------------------------------------------------------------------------

theorem exists_of_mem_newlyFound {found : List NodeId} {inputs : List Output} {id : NodeId}
    (member : id ∈ graph.newlyFound found inputs)
    : ∃ input ∈ inputs, input.node = id := by
  induction inputs generalizing found with
  | nil => exact absurd member List.not_mem_nil
  | cons input rest ih =>
      have later {found : List NodeId} (member : id ∈ graph.newlyFound found rest)
          : ∃ other ∈ input :: rest, other.node = id := by
        obtain ⟨other, inside, same⟩ := ih member
        exact ⟨other, List.mem_cons_of_mem _ inside, same⟩
      simp only [newlyFound] at member
      split at member
      · exact later member
      · rcases List.mem_cons.mp member with rfl | member
        · exact ⟨input, List.mem_cons_self, rfl⟩
        · exact later member

/-- What a step of the search finds feeds the node that the step takes from the stack. -/
theorem feeds_of_mem_newlyFound {found : List NodeId} {id current : NodeId}
    (member
      : id ∈ graph.newlyFound found ((graph.nodes[current]?.map Node.inputs).getD []))
    : graph.Feeds id current := by
  obtain ⟨input, inside, same⟩ := exists_of_mem_newlyFound member
  cases stored : graph.nodes[current]? with
  | none =>
      rw [stored] at inside
      exact absurd inside List.not_mem_nil
  | some node =>
      rw [stored] at inside
      exact ⟨node, stored, input, inside, same⟩

/-- The search finds no node from which no path leads to the node that it started from, by induction
on the search. What waits on the stack leads there too.
-/
theorem path_of_mem_searchInputs {root : NodeId} {found stack : List NodeId}
    (below : ∀ id ∈ found, TransGen graph.Feeds id root)
    (waiting : ∀ id ∈ stack, ReflTransGen graph.Feeds id root)
    : ∀ id ∈ graph.searchInputs found stack, TransGen graph.Feeds id root := by
  fun_induction searchInputs graph found stack with
  | case1 found => exact below
  | case2 found current stack inputs new ih =>
      exact ih below fun id member => waiting id (List.mem_cons_of_mem _ member)
  | case3 found current stack inputs first more new ih =>
      have path (id : NodeId) (member : id ∈ first :: more) : TransGen graph.Feeds id root :=
        .head' (feeds_of_mem_newlyFound (new ▸ member)) (waiting current List.mem_cons_self)
      apply ih
      · intro id member
        rcases List.mem_append.mp member with before | now
        · exact below id before
        · exact path id now
      · intro id member
        rcases List.mem_append.mp member with now | later
        · exact (path id (List.mem_reverse.mp now)).to_reflTransGen
        · exact waiting id (List.mem_cons_of_mem _ later)

theorem path_of_mem_ancestors {source id : NodeId} (member : source ∈ graph.ancestors id)
    : TransGen graph.Feeds source id := by
  refine path_of_mem_searchInputs ?_ ?_ source member
  · exact fun _ none => absurd none List.not_mem_nil
  · exact fun _ only => List.mem_singleton.mp only ▸ .refl

/-- An edge to the node of `new` is not redirected. An edge to another node is not, or this node
would read `new`.
-/
theorem Feeds.wouldFeed {source reader : NodeId} (edge : graph.Feeds source reader)
    : graph.WouldFeed old new source reader
      ∨ reader ≠ new.node ∧ graph.WouldFeed old new new.node reader := by
  obtain ⟨node, stored, input, member, rfl⟩ := edge
  by_cases redirected : input = old ∧ reader ≠ new.node
  · exact .inr ⟨redirected.2, node, stored, input, member, by rw [redirection, if_pos redirected]⟩
  · exact .inl ⟨node, stored, input, member, by rw [redirection, if_neg redirected]⟩

/-- A path to the node of `new` is a path after the redirection too, unless that closes a cycle, by
induction on the path from its end.
-/
theorem wouldFeed_of_path {source : NodeId} (path : TransGen graph.Feeds source new.node)
    : TransGen (graph.WouldFeed old new) source new.node ∨ graph.ClosesCycle old new := by
  induction path using TransGen.head_induction_on with
  | single edge =>
      rcases edge.wouldFeed with kept | ⟨other, -⟩
      · exact .inl (.single kept)
      · exact absurd rfl other
  | head edge _ ih =>
      rcases ih with rest | cycle
      · rcases edge.wouldFeed with kept | ⟨-, redirected⟩
        · exact .inl (.head kept rest)
        · exact .inr ⟨new.node, .head redirected rest⟩
      · exact .inr cycle

/-- A node that reads `old` and on which `new` depends closes a cycle. -/
theorem WellFormed.closesCycle (wellFormed : graph.WellFormed) {reader : NodeId}
    (reads : graph.reads old reader) (path : TransGen graph.Feeds reader new.node)
    : graph.ClosesCycle old new := by
  have other : reader ≠ new.node := by
    rintro rfl
    exact wellFormed.acyclic.transGen.irrefl.irrefl _ path
  have redirected : graph.WouldFeed old new new.node reader := by
    unfold Graph.reads at reads
    split at reads
    next node stored =>
      refine ⟨node, stored, old, by simpa using reads, ?_⟩
      rw [redirection, if_pos ⟨rfl, other⟩]
    · cases reads
  rcases wouldFeed_of_path path with rest | cycle
  · exact ⟨new.node, .head redirected rest⟩
  · exact cycle

-----------------------------------------------------------------------------------------
-- What an accepted redirection changes
-----------------------------------------------------------------------------------------

theorem redirectNode_eq (old new : Output) (node : Node)
    : redirectNode old new node
      = { node with inputs := node.inputs.map (redirection old new node.id) } := by
  unfold redirectNode redirect
  split
  next own =>
    rw [List.map_id'' fun input => by simp [redirection, own]]
  next other => simp [redirection, other]

theorem WellFormed.redirects (wellFormed : graph.WellFormed) (old new : Output)
    : graph.Redirects old new (graph.redirected old new) := by
  refine ⟨List.length_map _, ?_, rfl, rfl⟩
  intro id node stored
  rw [redirected_nodes, stored, Option.map_some, redirectNode_eq, wellFormed.placed stored]

theorem WellFormed.wouldFeed_iff (wellFormed : graph.WellFormed) {source reader : NodeId}
    : graph.WouldFeed old new source reader ↔ (graph.redirected old new).Feeds source reader := by
  have redirects := wellFormed.redirects old new
  constructor
  · rintro ⟨node, stored, input, member, same⟩
    exact ⟨_, redirects.nodes stored, _, List.mem_map_of_mem member, same⟩
  · rintro ⟨changed, found, _, member, same⟩
    obtain ⟨node, stored, -⟩ := redirected_found_iff.mp found
    rw [redirects.nodes stored] at found
    cases found
    obtain ⟨input, inside, rfl⟩ := List.mem_map.mp member
    exact ⟨node, stored, input, inside, same⟩

theorem WellFormed.not_closesCycle (wellFormed : graph.WellFormed)
    (clear : ∀ reader ∈ graph.ancestors new.node, ¬ graph.reads old reader)
    : ¬ graph.ClosesCycle old new := by
  rintro ⟨id, cycle⟩
  have after : TransGen (graph.redirected old new).Feeds id id :=
    cycle.lift (fun id => id) fun _ _ => wellFormed.wouldFeed_iff.mp
  exact (redirected_acyclic wellFormed clear).transGen.irrefl.irrefl id after

theorem count_redirectable (graph : Graph) (old new : Output)
    : (graph.redirectable new).count old = graph.useCount old new := by
  rw [redirectable, useCount, List.count_append, List.count_flatMap]
  congr 2
  apply List.map_congr_left
  intro node _
  by_cases own : node.id = new.node <;> simp [own]

theorem Redirects.unused {changed : Graph} (redirects : graph.Redirects old new changed)
    (different : old ≠ new)
    : changed.Unused old new := by
  constructor
  · rw [redirects.results]
    intro member
    obtain ⟨result, -, same⟩ := List.mem_map.mp member
    split at same
    · exact different same.symm
    next kept => exact kept same
  · intro id node found other member
    have inside : id < graph.nodes.length := by
      rw [← redirects.size]
      exact (List.getElem?_eq_some_iff.mp found).1
    rw [redirects.nodes (List.getElem?_eq_getElem inside)] at found
    cases found
    obtain ⟨input, -, same⟩ := List.mem_map.mp member
    unfold redirection at same
    split at same
    · exact different same.symm
    next kept => exact kept ⟨same, other⟩

-----------------------------------------------------------------------------------------
-- Which redirections are refused
-----------------------------------------------------------------------------------------

/-- Between outputs of one descriptor a redirection is refused, if a node on which `new` depends
reads `old`, and the reason names this node.
-/
theorem replaceUses_of_reader {desc : TensorDesc} (owned : graph.outputDesc old = .ok desc)
    (described : graph.outputDesc new = .ok desc) {reader : NodeId}
    (found : (graph.ancestors new.node).find? (graph.reads old) = some reader)
    : graph.replaceUses old new = .error (cycleThrough old new reader) := by
  simp only [replaceUses, owned, described, bind, Except.bind, ne_eq, not_true_eq_false,
    if_false, found]

/-- Between outputs of one descriptor a redirection is refused if and only if it would close a
cycle, and then the graph is left as it is. The reason names a node that reads `old` and on which
`new` depends. Otherwise the uses are redirected and counted, and nothing else changes: then `old`
has no more uses but those by the node of `new`, unless the two are the same output.
-/
theorem Reachable.replaceUses_exactly (reachable : graph.Reachable) {desc : TensorDesc}
    (owned : graph.outputDesc old = .ok desc) (described : graph.outputDesc new = .ok desc)
    : ((∃ cause, graph.replaceUses old new = .error cause) ↔ graph.ClosesCycle old new)
      ∧ (graph.ClosesCycle old new
        → ∃ reader,
            graph.reads old reader
            ∧ TransGen graph.Feeds reader new.node
            ∧ graph.perform (.replaceUses old new)
              = ⟨graph, .error (.error (cycleThrough old new reader))⟩)
      ∧ (¬ graph.ClosesCycle old new
        → ∃ changed,
            graph.replaceUses old new = .ok (changed, graph.useCount old new)
            ∧ graph.perform (.replaceUses old new)
              = ⟨changed, .ok (.count (graph.useCount old new))⟩
            ∧ graph.Redirects old new changed
            ∧ (old ≠ new → changed.Unused old new)) := by
  have wellFormed := reachable.wellFormed
  cases search : (graph.ancestors new.node).find? (graph.reads old) with
  | some reader =>
      have refused := replaceUses_of_reader owned described search
      have path := path_of_mem_ancestors (List.mem_of_find?_eq_some search)
      have reads := List.find?_some search
      have cycle := wellFormed.closesCycle reads path
      refine ⟨iff_of_true ⟨_, refused⟩ cycle, ?_, fun none => absurd cycle none⟩
      intro _
      refine ⟨reader, reads, path, ?_⟩
      rw [perform_eq, performAtOnce, refused]
      rfl
  | none =>
      have accepted := replaceUses_of_unread owned described search
      have acyclic := wellFormed.not_closesCycle (List.find?_eq_none.mp search)
      have redirects := wellFormed.redirects old new
      rw [count_redirectable] at accepted
      refine ⟨iff_of_false ?_ acyclic, fun cycle => absurd cycle acyclic, ?_⟩
      · rintro ⟨cause, refused⟩
        rw [accepted] at refused
        cases refused
      · intro _
        refine ⟨_, accepted, ?_, redirects, redirects.unused⟩
        rw [perform_eq, performAtOnce, accepted]
        rfl

/-- Two sums of a parameter over no axes, and a sum of the second one. -/
def threeSums : Graph :=
  empty.performAll
    [
      .parameter ⟨.i32, ⟨[3]⟩⟩,
      .constant noAxes,
      .add (.reduction ⟨.sum, false, .empty⟩) [⟨0, 0⟩, ⟨1, 0⟩],
      .add (.reduction ⟨.sum, false, .empty⟩) [⟨0, 0⟩, ⟨1, 0⟩],
      .add (.reduction ⟨.sum, false, .empty⟩) [⟨3, 0⟩, ⟨1, 0⟩],
      .addResult ⟨0, 0⟩
    ]

/-- The third sum cannot take the place of the parameter, since it depends on the second sum, which
reads the parameter. The first sum can, though it reads the parameter itself: the second sum and the
result are redirected to it.
-/
theorem threeSums_replaceUses_exactly
    : threeSums.Reachable
      ∧ threeSums.ClosesCycle ⟨0, 0⟩ ⟨4, 0⟩
      ∧ (∃ reader,
          threeSums.perform (.replaceUses ⟨0, 0⟩ ⟨4, 0⟩)
          = ⟨threeSums, .error (.error (cycleThrough ⟨0, 0⟩ ⟨4, 0⟩ reader))⟩)
      ∧ ¬ threeSums.ClosesCycle ⟨0, 0⟩ ⟨2, 0⟩
      ∧ ∃ changed,
          threeSums.replaceUses ⟨0, 0⟩ ⟨2, 0⟩ = .ok (changed, 2)
          ∧ threeSums.Redirects ⟨0, 0⟩ ⟨2, 0⟩ changed
          ∧ changed.Unused ⟨0, 0⟩ ⟨2, 0⟩ := by
  have reachable : threeSums.Reachable := ⟨_, rfl⟩
  have cyclic : threeSums.ClosesCycle ⟨0, 0⟩ ⟨4, 0⟩ := by
    have back : threeSums.WouldFeed ⟨0, 0⟩ ⟨4, 0⟩ 4 3 :=
      ⟨_, rfl, ⟨0, 0⟩, List.mem_cons_self, rfl⟩
    have forth : threeSums.WouldFeed ⟨0, 0⟩ ⟨4, 0⟩ 3 4 :=
      ⟨_, rfl, ⟨3, 0⟩, List.mem_cons_self, rfl⟩
    exact ⟨3, .head forth (.single back)⟩
  -- The edges of the other graph lead to higher places only.
  have rising {source reader : NodeId}
      (edge : threeSums.WouldFeed ⟨0, 0⟩ ⟨2, 0⟩ source reader)
      : source < reader := by
    obtain ⟨node, stored, input, member, rfl⟩ := edge
    have checked
        : ∀ place : Fin threeSums.nodes.length,
            ∀ input ∈ threeSums.nodes[place].inputs,
              (redirection ⟨0, 0⟩ ⟨2, 0⟩ place input).node < place := by
      decide
    obtain ⟨inside, rfl⟩ := List.getElem?_eq_some_iff.mp stored
    exact checked ⟨reader, inside⟩ input member
  have acyclic : ¬ threeSums.ClosesCycle ⟨0, 0⟩ ⟨2, 0⟩ := by
    rintro ⟨id, cycle⟩
    exact (Subrelation.wf rising Nat.lt_wfRel.wf).transGen.irrefl.irrefl id cycle
  have described (sum : NodeId) (one : sum = 0 ∨ sum = 2 ∨ sum = 4)
      : threeSums.outputDesc ⟨sum, 0⟩ = .ok ⟨.i32, ⟨[3]⟩⟩ := by
    rcases one with rfl | rfl | rfl <;> rfl
  obtain ⟨-, refused, -⟩ :=
    reachable.replaceUses_exactly (described 0 (by decide)) (described 4 (by decide))
  obtain ⟨-, -, accepted⟩ :=
    reachable.replaceUses_exactly (described 0 (by decide)) (described 2 (by decide))
  obtain ⟨reader, -, -, unchanged⟩ := refused cyclic
  obtain ⟨changed, replaced, -, redirects, unused⟩ := accepted acyclic
  exact ⟨reachable, cyclic, ⟨reader, unchanged⟩, acyclic, changed, replaced, redirects,
    unused (by decide)⟩

end TensorGraph.Graph
