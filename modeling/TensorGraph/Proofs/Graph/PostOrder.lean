import Mathlib.Order.WellFounded
import TensorGraph.Proofs.Graph.Mutation

/-! The order of evaluation is the recursive depth-first post-order.

The visit keeps a stack and a set of visited nodes. In an acyclic graph a node that is visited but
not reported yet is never met again, so the visit reports what a recursion over the inputs reports.
-/

namespace TensorGraph.Graph

open Relation

-----------------------------------------------------------------------------------------
-- The recursive order
-----------------------------------------------------------------------------------------

set_option linter.unusedVariables false in
/-- Places a node after its inputs, these from left to right, behind the nodes that are placed
already; a node is placed only once.
-/
def place (graph : Graph) (acyclic : WellFounded graph.Feeds) (order : List NodeId)
    (id : NodeId)
    : List NodeId :=
  if id ∈ order then order
  else
    match found : graph.nodes[id]? with
    | none => order
    | some node =>
        node.inputs.foldl (fun placed input => graph.place acyclic placed input.node) order
          ++ [id]
termination_by acyclic.wrap id
decreasing_by exact ⟨node, found, input, by assumption, rfl⟩

/-- Places the nodes of references from left to right. -/
def placeAll (graph : Graph) (acyclic : WellFounded graph.Feeds) (order : List NodeId)
    (references : List Output)
    : List NodeId :=
  references.foldl (fun placed reference => graph.place acyclic placed reference.node) order

/-- The depth-first post-order of the nodes that the results need. -/
def postOrder (graph : Graph) (acyclic : WellFounded graph.Feeds) : List NodeId :=
  graph.placeAll acyclic [] graph.results

variable {graph : Graph} (acyclic : WellFounded graph.Feeds)

theorem place_of_mem {order : List NodeId} {id : NodeId} (placed : id ∈ order)
    : graph.place acyclic order id = order := by
  rw [place, if_pos placed]

theorem place_of_none {order : List NodeId} {id : NodeId} (outside : graph.nodes[id]? = none)
    : graph.place acyclic order id = order := by
  rw [place]
  split
  · rfl
  · split
    · rfl
    next found => rw [outside] at found; cases found

theorem place_of_some {order : List NodeId} {id : NodeId} {node : Node} (new : id ∉ order)
    (found : graph.nodes[id]? = some node)
    : graph.place acyclic order id = graph.placeAll acyclic order node.inputs ++ [id] := by
  rw [place, if_neg new]
  split
  next outside => rw [found] at outside; cases outside
  next other same =>
    rw [found] at same
    cases same
    rfl

theorem placeAll_cons (order : List NodeId) (reference : Output) (rest : List Output)
    : graph.placeAll acyclic order (reference :: rest)
      = graph.placeAll acyclic (graph.place acyclic order reference.node) rest :=
  rfl

-----------------------------------------------------------------------------------------
-- The visit reports the recursive order
-----------------------------------------------------------------------------------------

/-- The visit depends on the visited nodes as a set only, by induction on the visit. -/
theorem visit_congr {visited other : List NodeId} (same : ∀ id, id ∈ visited ↔ id ∈ other)
    (stack : List Visit)
    : graph.visit visited stack = graph.visit other stack := by
  fun_induction visit graph visited stack generalizing other with
  | case1 => simp [visit]
  | case2 visited id stack ih => rw [visit, ih same]
  | case3 visited id stack known ih =>
      rw [visit, dif_pos ((same id).mp known)]
      exact ih same
  | case4 visited id stack known found ih =>
      rw [visit, dif_neg fun seen => known ((same id).mpr seen)]
      split
      · exact ih same
      next node stored => rw [found] at stored; cases stored
  | case5 visited id stack known node found ih =>
      rw [visit, dif_neg fun seen => known ((same id).mpr seen)]
      split
      next outside => rw [found] at outside; cases outside
      next other stored =>
        rw [found] at stored
        cases stored
        simpa using @ih (id :: other) (by simp [same])

theorem visit_known {visited : List NodeId} {id : NodeId} (known : id ∈ visited)
    (stack : List Visit)
    : graph.visit visited (.enter id :: stack) = graph.visit visited stack := by
  rw [visit, dif_pos known]

theorem visit_none {visited : List NodeId} {id : NodeId} (outside : graph.nodes[id]? = none)
    (stack : List Visit)
    : graph.visit visited (.enter id :: stack) = graph.visit visited stack := by
  rw [visit]
  split
  · rfl
  · split
    · rfl
    next found => rw [outside] at found; cases found

theorem visit_some {visited : List NodeId} {id : NodeId} {node : Node} (new : id ∉ visited)
    (found : graph.nodes[id]? = some node) (stack : List Visit)
    : graph.visit visited (.enter id :: stack)
      = graph.visit (id :: visited)
          (node.inputs.map (fun input => .enter input.node) ++ .leave id :: stack) := by
  rw [visit, dif_neg new]
  split
  next outside => rw [found] at outside; cases outside
  next other same =>
    rw [found] at same
    cases same
    rfl

theorem visit_leave (visited : List NodeId) (id : NodeId) (stack : List Visit)
    : graph.visit visited (.leave id :: stack) = id :: graph.visit visited stack := by
  rw [visit]

/-- A node without inputs is reported as soon as it is visited. -/
theorem visit_source {visited : List NodeId} {id : NodeId} {node : Node} (new : id ∉ visited)
    (found : graph.nodes[id]? = some node) (unfed : node.inputs = []) (stack : List Visit)
    : graph.visit visited (.enter id :: stack) = id :: graph.visit (id :: visited) stack := by
  rw [visit_some new found, unfed, List.map_nil, List.nil_append, visit_leave]

omit acyclic in
/-- A result whose node has no inputs needs no other node. -/
theorem topologicalOrder_of_source (result : Output) (only : graph.results = [result])
    {node : Node} (found : graph.nodes[result.node]? = some node) (unfed : node.inputs = [])
    : graph.topologicalOrder = [result.node] := by
  rw [topologicalOrder, only, List.map_singleton, visit_source List.not_mem_nil found unfed, visit]

omit acyclic in
/-- A result whose node reads two nodes without inputs needs these, in the order of its inputs. -/
theorem topologicalOrder_of_sources (first second result : Output)
    (only : graph.results = [result]) {node source other : Node}
    (found : graph.nodes[result.node]? = some node) (inputs : node.inputs = [first, second])
    (foundFirst : graph.nodes[first.node]? = some source) (unfedFirst : source.inputs = [])
    (foundSecond : graph.nodes[second.node]? = some other) (unfedSecond : other.inputs = [])
    (different : first.node ≠ second.node)
    : graph.topologicalOrder = [first.node, second.node, result.node] := by
  have fed {id : NodeId} {unread : Node} (stored : graph.nodes[id]? = some unread)
      (unfed : unread.inputs = [])
      : id ≠ result.node := by
    rintro rfl
    cases found.symm.trans stored
    cases inputs.symm.trans unfed
  have newFirst : first.node ∉ [result.node] := by
    simpa using fed foundFirst unfedFirst
  have newSecond : second.node ∉ [first.node, result.node] := by
    simpa using ⟨different.symm, fed foundSecond unfedSecond⟩
  rw [topologicalOrder, only, List.map_singleton, visit_some List.not_mem_nil found, inputs,
    List.map_cons, List.map_singleton, List.cons_append, List.cons_append, List.nil_append,
    visit_source newFirst foundFirst unfedFirst, visit_source newSecond foundSecond unfedSecond,
    visit_leave, visit]

/-- `source` is `id` or feeds it, directly or through others. -/
abbrev Upstream (graph : Graph) : NodeId → NodeId → Prop :=
  ReflTransGen graph.Feeds

/-- The nodes that satisfy `region` are visited exactly if they are placed. -/
def Agree (region : NodeId → Prop) (visited order : List NodeId) : Prop :=
  ∀ id, region id → (id ∈ visited ↔ id ∈ order)

theorem Agree.append {region smaller : NodeId → Prop} {visited order : List NodeId}
    (agree : Agree region visited order) (subset : ∀ id, smaller id → region id)
    (new : List NodeId)
    : Agree smaller (new ++ visited) (order ++ new) := by
  intro id inside
  rw [List.mem_append, List.mem_append, agree id (subset id inside), or_comm]

/-- Placing adds nodes behind the placed ones, each of them upstream. From a visited set that agrees
with the placed nodes upstream, the visit reports exactly the added nodes.
-/
structure Reports (graph : Graph) (region : NodeId → Prop) (order placed : List NodeId)
    (pending : List Visit) (new : List NodeId)
    : Prop where
  placed : placed = order ++ new
  upstream : ∀ id ∈ new, region id
  visit
    : ∀ {visited : List NodeId} (stack : List Visit),
        Agree region visited order
        → graph.visit visited (pending ++ stack)
          = new ++ graph.visit (new ++ visited) stack

/-- If entering each reference reports what is placed for it, so does entering all of them, by
induction on the references.
-/
theorem reports_placeAll {references : List Output}
    (each
      : ∀ reference ∈ references,
          ∀ order,
            ∃ new,
              graph.Reports (graph.Upstream · reference.node) order
                (graph.place acyclic order reference.node) [.enter reference.node] new)
    (order : List NodeId)
    : ∃ new,
        graph.Reports (fun id => ∃ reference ∈ references, graph.Upstream id reference.node)
          order (graph.placeAll acyclic order references)
          (references.map fun reference => .enter reference.node) new := by
  induction references generalizing order with
  | nil => exact ⟨[], (List.append_nil order).symm, by simp, fun stack _ => rfl⟩
  | cons reference rest ih =>
      obtain ⟨first, head⟩ := each reference List.mem_cons_self order
      obtain ⟨others, tail⟩ := ih
        (fun other member => each other (List.mem_cons_of_mem _ member)) (order ++ first)
      refine ⟨first ++ others, ?_, ?_, ?_⟩
      · rw [placeAll_cons, head.placed, tail.placed, List.append_assoc]
      · intro id member
        rcases List.mem_append.mp member with inFirst | inOthers
        · exact ⟨reference, List.mem_cons_self, head.upstream id inFirst⟩
        · obtain ⟨other, later, path⟩ := tail.upstream id inOthers
          exact ⟨other, List.mem_cons_of_mem _ later, path⟩
      · intro visited stack agree
        have headAgree : Agree (graph.Upstream · reference.node) visited order :=
          fun id path => agree id ⟨reference, List.mem_cons_self, path⟩
        have tailAgree
            : Agree (fun id => ∃ other ∈ rest, graph.Upstream id other.node)
                (first ++ visited) (order ++ first) :=
          agree.append
            (fun id ⟨other, later, path⟩ => ⟨other, List.mem_cons_of_mem _ later, path⟩) first
        calc graph.visit visited (.enter reference.node :: (rest.map _ ++ stack))
          _ = first ++ graph.visit (first ++ visited) (rest.map _ ++ stack) :=
              head.visit _ headAgree
          _ = first ++ (others ++ graph.visit (others ++ (first ++ visited)) stack) :=
              congrArg _ (tail.visit stack tailAgree)
          _ = (first ++ others) ++ graph.visit ((first ++ others) ++ visited) stack := by
              rw [List.append_assoc, visit_congr fun id => ?_]
              simp only [List.mem_append]
              tauto

/-- Entering a node reports what is placed for it, by induction on what feeds it. While its inputs
are visited the node itself is marked already, but it is not upstream of them.
-/
theorem reports_place (id : NodeId) (order : List NodeId)
    : ∃ new,
        graph.Reports (graph.Upstream · id) order (graph.place acyclic order id)
          [.enter id] new := by
  induction id using acyclic.induction generalizing order with
  | _ id ih =>
      by_cases placed : id ∈ order
      · refine ⟨[], ?_, by simp, ?_⟩
        · rw [place_of_mem acyclic placed, List.append_nil]
        · intro visited stack agree
          exact visit_known ((agree id .refl).mpr placed) stack
      · cases found : graph.nodes[id]? with
        | none =>
            refine ⟨[], ?_, by simp, fun stack _ => visit_none found stack⟩
            rw [place_of_none acyclic found, List.append_nil]
        | some node =>
            have feeds (input : Output) (member : input ∈ node.inputs)
                : graph.Feeds input.node id :=
              ⟨node, found, input, member, rfl⟩
            obtain ⟨new, inner⟩ := reports_placeAll acyclic
              (fun input member order => ih input.node (feeds input member) order) order
            refine ⟨new ++ [id], ?_, ?_, ?_⟩
            · rw [place_of_some acyclic placed found, inner.placed, List.append_assoc]
            · intro other member
              rcases List.mem_append.mp member with inNew | last
              · obtain ⟨input, read, path⟩ := inner.upstream other inNew
                exact path.tail (feeds input read)
              · exact List.mem_singleton.mp last ▸ .refl
            · intro visited stack agree
              have unvisited : id ∉ visited := fun seen => placed ((agree id .refl).mp seen)
              have innerAgree
                  : Agree (fun other => ∃ input ∈ node.inputs, graph.Upstream other input.node)
                      (id :: visited) order := by
                -- The node is marked but not placed: it must not be upstream of its inputs.
                rintro other ⟨input, read, path⟩
                have below := TransGen.tail' path (feeds input read)
                have different : other ≠ id := by
                  rintro rfl
                  exact acyclic.transGen.irrefl.irrefl _ below
                rw [List.mem_cons, or_iff_right different]
                exact agree other below.to_reflTransGen
              rw [List.singleton_append, visit_some unvisited found, inner.visit _ innerAgree,
                visit, List.append_assoc, List.singleton_append, visit_congr fun id => ?_]
              simp only [List.mem_append, List.mem_cons]
              tauto

theorem reports_references (references : List Output) (order : List NodeId)
    : ∃ new,
        graph.Reports (fun id => ∃ reference ∈ references, graph.Upstream id reference.node)
          order (graph.placeAll acyclic order references)
          (references.map fun reference => .enter reference.node) new := by
  refine reports_placeAll acyclic ?_ order
  intro reference _ order
  exact reports_place acyclic reference.node order

/-- In an acyclic graph the order of evaluation is the depth-first post-order. -/
theorem topologicalOrder_eq_postOrder : graph.topologicalOrder = graph.postOrder acyclic := by
  obtain ⟨new, reports⟩ := reports_references acyclic graph.results []
  have visited := reports.visit [] fun _ _ => Iff.rfl
  rw [List.append_nil, visit, List.append_nil] at visited
  exact visited.trans reports.placed.symm

-----------------------------------------------------------------------------------------
-- Each node once and after its inputs
-----------------------------------------------------------------------------------------

/-- Every node stands in the order once and behind the nodes that feed it. -/
structure Arranged (graph : Graph) (order : List NodeId) : Prop where
  once : order.Nodup
  fed
    : ∀ before id after,
        order = before ++ id :: after → ∀ source, graph.Feeds source id → source ∈ before

omit acyclic in
/-- A new node whose inputs are placed can stand last. -/
theorem Arranged.snoc {order : List NodeId} (arranged : graph.Arranged order) {id : NodeId}
    (new : id ∉ order) (ready : ∀ source, graph.Feeds source id → source ∈ order)
    : graph.Arranged (order ++ [id]) := by
  refine ⟨?_, ?_⟩
  · rw [List.nodup_append]
    refine ⟨arranged.once, by simp, ?_⟩
    rintro other member last isLast rfl
    exact new (List.mem_singleton.mp isLast ▸ member)
  · intro before other after split source edge
    rcases List.append_eq_append_iff.mp split with ⟨between, rfl, rest⟩ | ⟨between, rfl, rest⟩
    · rcases List.cons_eq_append_iff.mp rest with ⟨rfl, same⟩ | ⟨_, -, impossible⟩
      · rw [List.append_nil]
        cases same
        exact ready source edge
      · exact absurd impossible (by simp)
    · rcases List.cons_eq_append_iff.mp rest with ⟨rfl, same⟩ | ⟨_, rfl, -⟩
      · cases same
        simpa using ready source edge
      · exact arranged.fed before other _ rfl source edge

omit acyclic in
/-- A node of the order does not feed those that stand before it. -/
theorem Arranged.backward {order : List NodeId} (arranged : graph.Arranged order)
    : order.Pairwise fun earlier later => ¬ graph.Feeds later earlier := by
  rw [List.pairwise_iff_forall_sublist]
  intro earlier later inOrder edge
  obtain ⟨front, back, rfl, inFront, inBack⟩ := List.cons_sublist_iff.mp inOrder
  obtain ⟨before, after, rfl⟩ := List.append_of_mem inFront
  have fed : later ∈ before := arranged.fed before earlier (after ++ back) (by simp) later edge
  obtain ⟨-, -, apart⟩ := List.nodup_append.mp arranged.once
  exact apart later (List.mem_append_left _ fed) later (List.singleton_sublist.mp inBack) rfl

/-- Placing references keeps the nodes arranged and places each of them, if placing any one does. -/
theorem arranged_placeAll {references : List Output}
    (each
      : ∀ reference ∈ references,
          ∀ order,
            graph.Arranged order
            → graph.Arranged (graph.place acyclic order reference.node)
              ∧ reference.node ∈ graph.place acyclic order reference.node)
    {order : List NodeId} (arranged : graph.Arranged order)
    : graph.Arranged (graph.placeAll acyclic order references)
      ∧ ∀ reference ∈ references,
          reference.node ∈ graph.placeAll acyclic order references := by
  induction references generalizing order with
  | nil => exact ⟨arranged, by simp⟩
  | cons reference rest ih =>
      obtain ⟨headArranged, headPlaced⟩ := each reference List.mem_cons_self order arranged
      obtain ⟨allArranged, restPlaced⟩ :=
        ih (fun other member => each other (List.mem_cons_of_mem _ member)) headArranged
      rw [placeAll_cons]
      refine ⟨allArranged, ?_⟩
      intro other member
      rcases List.mem_cons.mp member with rfl | later
      · obtain ⟨new, reports⟩ :=
          reports_references acyclic rest (graph.place acyclic order other.node)
        rw [reports.placed]
        exact List.mem_append_left new headPlaced
      · exact restPlaced other later

/-- Placing a node of a well-formed graph keeps the nodes arranged, by induction on what feeds it.
-/
theorem arranged_place (wellFormed : graph.WellFormed) {id : NodeId}
    (inside : id < graph.nodes.length) {order : List NodeId} (arranged : graph.Arranged order)
    : graph.Arranged (graph.place acyclic order id) ∧ id ∈ graph.place acyclic order id := by
  induction id using acyclic.induction generalizing order with
  | _ id ih =>
      by_cases placed : id ∈ order
      · rw [place_of_mem acyclic placed]
        exact ⟨arranged, placed⟩
      · have found := List.getElem?_eq_getElem inside
        rw [place_of_some acyclic placed found]
        have feeds (input : Output) (member : input ∈ graph.nodes[id].inputs)
            : graph.Feeds input.node id :=
          ⟨_, found, input, member, rfl⟩
        obtain ⟨inputsArranged, inputsPlaced⟩ := arranged_placeAll acyclic
          (fun input member _ arranged => ih input.node (feeds input member)
            (wellFormed.edges found input member).inside arranged) arranged
        obtain ⟨new, reports⟩ := reports_references acyclic graph.nodes[id].inputs order
        refine ⟨inputsArranged.snoc ?_ ?_, by simp⟩
        · rw [reports.placed, List.mem_append]
          rintro (old | added)
          · exact placed old
          · obtain ⟨input, member, path⟩ := reports.upstream id added
            exact acyclic.transGen.irrefl.irrefl _ (TransGen.tail' path (feeds input member))
        · rintro source ⟨node, stored, input, member, rfl⟩
          rw [found] at stored
          cases stored
          exact inputsPlaced input member

/-- The node `id` or one that it feeds, directly or through others, has a result. -/
def Needed (graph : Graph) (id : NodeId) : Prop :=
  ∃ result ∈ graph.results, graph.Upstream id result.node

omit acyclic in
theorem WellFormed.inside_of_needed (wellFormed : graph.WellFormed) {id : NodeId}
    (needed : graph.Needed id)
    : id < graph.nodes.length := by
  obtain ⟨result, member, path⟩ := needed
  rcases path.cases_head with rfl | ⟨reader, edge, -⟩
  · exact (wellFormed.results result member).inside
  · exact wellFormed.inside_of_feeds edge

omit acyclic in
theorem WellFormed.arranged (wellFormed : graph.WellFormed)
    : graph.Arranged graph.topologicalOrder
      ∧ ∀ result ∈ graph.results, result.node ∈ graph.topologicalOrder := by
  rw [topologicalOrder_eq_postOrder wellFormed.acyclic]
  refine arranged_placeAll wellFormed.acyclic ?_ ⟨List.nodup_nil, by simp⟩
  intro result member order arranged
  exact arranged_place wellFormed.acyclic wellFormed (wellFormed.results result member).inside
    arranged

omit acyclic in
/-- The order holds exactly the nodes that the results need: it holds the results' nodes, and with
a node also the nodes that feed it.
-/
theorem WellFormed.mem_topologicalOrder_iff (wellFormed : graph.WellFormed) {id : NodeId}
    : id ∈ graph.topologicalOrder ↔ graph.Needed id := by
  constructor
  · rw [topologicalOrder_eq_postOrder wellFormed.acyclic]
    intro member
    obtain ⟨new, reports⟩ := reports_references wellFormed.acyclic graph.results []
    rw [postOrder, reports.placed] at member
    exact reports.upstream id member
  · rintro ⟨result, member, path⟩
    obtain ⟨arranged, placed⟩ := wellFormed.arranged
    induction path using ReflTransGen.head_induction_on with
    | refl => exact placed result member
    | head edge _ ih =>
        obtain ⟨before, after, split⟩ := List.append_of_mem ih
        rw [split]
        exact List.mem_append_left _ (arranged.fed before _ after split _ edge)

omit acyclic in
theorem WellFormed.inside_of_ordered (wellFormed : graph.WellFormed) (id : NodeId)
    (member : id ∈ graph.topologicalOrder)
    : id < graph.nodes.length :=
  wellFormed.inside_of_needed (wellFormed.mem_topologicalOrder_iff.mp member)

omit acyclic in
/-- In a reachable graph every node is known by its place, every reference names an output that
exists, and no node feeds itself. The order of evaluation holds exactly the nodes that the results
need, each once and behind the nodes that feed it, as the depth-first post-order does.
-/
theorem Reachable.dag_in_postOrder (reachable : graph.Reachable)
    : (∀ (id : NodeId) (node : Node), graph.nodes[id]? = some node → node.id = id)
      ∧ (∀ (id : NodeId) (node : Node),
          graph.nodes[id]? = some node → ∀ input ∈ node.inputs, graph.HasOutput input)
      ∧ (∀ result ∈ graph.results, graph.HasOutput result)
      ∧ (∀ id : NodeId, ¬ TransGen graph.Feeds id id)
      ∧ (∀ id : NodeId, id ∈ graph.topologicalOrder ↔ graph.Needed id)
      ∧ graph.Arranged graph.topologicalOrder
      ∧ ∃ acyclic : WellFounded graph.Feeds,
          graph.topologicalOrder = graph.postOrder acyclic := by
  have wellFormed := reachable.wellFormed
  refine ⟨fun _ _ found => wellFormed.placed found, fun _ _ found => wellFormed.edges found,
    wellFormed.results, fun id => wellFormed.acyclic.transGen.irrefl.irrefl id,
    fun _ => wellFormed.mem_topologicalOrder_iff, wellFormed.arranged.1, wellFormed.acyclic,
    topologicalOrder_eq_postOrder wellFormed.acyclic⟩

/-- The list of one axis. -/
def axisList (axis : Int64) : Tensor :=
  ⟨⟨.i64, [axis]⟩, some ⟨[1]⟩, rfl⟩

/-- A sum over the last axis that reads a node behind it: its list of axes was replaced later. -/
def relinkedSum : Graph :=
  empty.performAll
    [
      .parameter ⟨.f32, ⟨[2, 3]⟩⟩,
      .constant (axisList 1),
      .add (.reduction ⟨.sum, false, .empty⟩) [⟨0, 0⟩, ⟨1, 0⟩],
      .addResult ⟨2, 0⟩,
      .constant (axisList (-1)),
      .replaceUses ⟨1, 0⟩ ⟨3, 0⟩
    ]

theorem relinkedSum_dag_in_postOrder
    : relinkedSum.Reachable
      ∧ (∀ id : NodeId, ¬ TransGen relinkedSum.Feeds id id)
      ∧ (∀ id : NodeId, id ∈ relinkedSum.topologicalOrder ↔ relinkedSum.Needed id)
      ∧ relinkedSum.Arranged relinkedSum.topologicalOrder
      ∧ ∃ acyclic : WellFounded relinkedSum.Feeds,
          relinkedSum.topologicalOrder = relinkedSum.postOrder acyclic := by
  have reachable : relinkedSum.Reachable := ⟨_, rfl⟩
  obtain ⟨-, -, -, acyclic, needed, arranged, same⟩ := Reachable.dag_in_postOrder reachable
  exact ⟨reachable, acyclic, needed, arranged, same⟩

end TensorGraph.Graph
