import TensorGraph.Proofs.Graph.ConstantFolding
import TensorGraph.Proofs.Graph.Interceptors

/-! Executions with interceptors.

The walk over the order offers each needed node that is no parameter to the interceptors, up to the
first node that fails. Interceptors that leave every node and the element types of its outputs do
not change how an execution ends.
-/

namespace TensorGraph

namespace Graph

variable {graph : Graph} {interceptors : List Interceptor} {bindings : Bindings}

-----------------------------------------------------------------------------------------
-- The walk over the nodes
-----------------------------------------------------------------------------------------

/-- What happens at a node when the tensors of the nodes that feed it are known: the offers made,
whether its own operation is run, and how it ends. A parameter is offered to nobody and takes the
tensor that is bound to it.
-/
inductive Conducted (graph : Graph) (interceptors : List Interceptor) (bindings : Bindings)
    (values : Values) (id : NodeId)
    : List Offer → (own : Bool) → Except (Failure GraphError) (List Tensor) → Prop
  | parameter {node : Node} {declared : TensorDesc} (found : graph.nodes[id]? = some node)
    (declares : node.op.parameterDesc? = some declared)
    : Conducted graph interceptors bindings values id [] false
        (orFailure ((bound bindings id declared).map fun value => [value]))
  | offered {node : Node} {inputs : List Tensor} {asked : List Interceptor} {own : Bool}
    {outcome : Except (Failure GraphError) (List Tensor)}
    (found : graph.nodes[id]? = some node) (computed : node.op.parameterDesc? = none)
    (read : node.inputs.mapM values.get = .ok inputs)
    (handled : node.Handled interceptors inputs asked own outcome)
    : Conducted graph interceptors bindings values id
        (asked.map (Interceptor.offered node inputs)) own outcome

/-- What happens at a node depends on the nodes that feed it only. -/
theorem nodeValues_congr {values other : Values} {id : NodeId}
    (same : ∀ source, graph.Feeds source id → values source = other source)
    : graph.nodeValues interceptors bindings values id
      = graph.nodeValues interceptors bindings other id := by
  unfold nodeValues Graph.node
  cases found : graph.nodes[id]? with
  | none => rfl
  | some node =>
      have read : node.inputs.mapM values.get = node.inputs.mapM other.get := by
        apply mapM_congr
        intro input member
        unfold Values.get
        rw [same input.node ⟨node, found, input, member, rfl⟩]
      simp only [read]

/-- The offers made at a node. -/
def offersAt (graph : Graph) (interceptors : List Interceptor) (bindings : Bindings)
    (values : Values) (id : NodeId)
    : List Offer :=
  (graph.nodeValues interceptors bindings values id).offers

/-- The walk evaluates the nodes of the order up to the first that fails, and its offers are those
made at these nodes. What it stored at the end is what each node saw, since a node stands behind
those that feed it. By induction on the order.
-/
theorem evaluateAll_unrolled (interceptors : List Interceptor) (bindings : Bindings)
    {before rest : List NodeId} (arranged : graph.Arranged (before ++ rest)) (values : Values)
    : ∃ done later final,
        rest = done ++ later
        ∧ (∀ id, id ∉ done → final id = values id)
        ∧ (∀ id ∈ done,
            ∃ tensors,
              final id = some tensors
              ∧ (graph.nodeValues interceptors bindings final id).outcome = .ok tensors)
        ∧ (later = []
            ∧ graph.evaluateAll interceptors bindings rest values
              = ⟨done.flatMap (graph.offersAt interceptors bindings final), .ok final⟩
          ∨ ∃ id others failure,
              later = id :: others
              ∧ (graph.nodeValues interceptors bindings final id).outcome = .error failure
              ∧ graph.evaluateAll interceptors bindings rest values
                = ⟨(done ++ [id]).flatMap (graph.offersAt interceptors bindings final),
                    .error failure⟩) := by
  induction rest generalizing before values with
  | nil => exact ⟨[], [], values, rfl, by simp, by simp, .inl ⟨rfl, rfl⟩⟩
  | cons id rest ih =>
      rw [evaluateAll]
      cases outcome : (graph.nodeValues interceptors bindings values id).outcome with
      | error failure =>
          refine ⟨[], id :: rest, values, rfl, by simp, by simp, .inr ⟨id, rest, failure, rfl,
            outcome, ?_⟩⟩
          simp [offersAt]
      | ok tensors =>
          have once := arranged.once
          have fed := arranged.fed before id rest rfl
          rw [List.append_cons] at arranged
          obtain ⟨done, later, final, rfl, kept, evaluated, ended⟩ :=
            ih arranged (values.set id tensors)
          simp only [List.nodup_append, List.nodup_cons, List.mem_append] at once
          obtain ⟨-, ⟨new, -⟩, apart⟩ := once
          have here : final id = some tensors := by
            rw [kept id fun member => new (.inl member)]
            exact if_pos rfl
          have unchanged (source : NodeId) (feeds : graph.Feeds source id)
              : final source = values source := by
            have earlier := fed source feeds
            have different : source ≠ id := apart source earlier id List.mem_cons_self
            have notDone : source ∉ done := fun member =>
              apart source earlier source
                (List.mem_cons_of_mem _ (List.mem_append_left _ member)) rfl
            rw [kept source notDone]
            exact if_neg different
          have same : graph.nodeValues interceptors bindings final id
              = graph.nodeValues interceptors bindings values id :=
            nodeValues_congr unchanged
          have offers : graph.offersAt interceptors bindings final id
              = (graph.nodeValues interceptors bindings values id).offers :=
            congrArg Run.offers same
          refine ⟨id :: done, later, final, rfl, ?_, ?_, ?_⟩
          · intro other absent
            rw [List.mem_cons, not_or] at absent
            rw [kept other absent.2]
            exact if_neg absent.1
          · intro other member
            rcases List.mem_cons.mp member with rfl | isDone
            · exact ⟨tensors, here, by rw [same, outcome]⟩
            · exact evaluated other isDone
          · rcases ended with ⟨rfl, walked⟩ | ⟨next, others, failure, rfl, failed, walked⟩
            · exact .inl ⟨rfl, by simp only [walked, offers, List.flatMap_cons]⟩
            · refine .inr ⟨next, others, failure, rfl, failed, ?_⟩
              simp only [walked, offers, List.cons_append, List.flatMap_cons]

/-- A node that is evaluated has as many tensors as outputs. -/
theorem WellFormed.length_nodeValues (wellFormed : graph.WellFormed)
    (inPlace : ∀ interceptor ∈ interceptors, interceptor.InPlace) {values : Values}
    {id : NodeId} {tensors : List Tensor}
    (evaluated : (graph.nodeValues interceptors bindings values id).outcome = .ok tensors)
    : ∃ node, graph.nodes[id]? = some node ∧ tensors.length = node.outputs.length := by
  unfold nodeValues Graph.node at evaluated
  cases found : graph.nodes[id]? with
  | none => simp [found] at evaluated
  | some node =>
      refine ⟨node, rfl, ?_⟩
      have settled := wellFormed.settled found
      simp only [found] at evaluated
      cases declared : node.op.parameterDesc? with
      | some desc =>
          simp only [declared, orFailure_eq_ok_iff, map_eq_ok_iff] at evaluated
          obtain ⟨value, -, rfl⟩ := evaluated
          rw [(settled.of_parameter declared).2]
          rfl
      | none =>
          simp only [declared] at evaluated
          cases read : node.inputs.mapM values.get with
          | error cause => simp [read] at evaluated
          | ok inputs =>
              simp only [read] at evaluated
              obtain ⟨asked, own, -, handled⟩ := settled.handled_of interceptors inputs
              rw [evaluated] at handled
              exact handled.length inPlace

/-- Outputs that exist can be read if their nodes are evaluated. -/
theorem WellFormed.readable (wellFormed : graph.WellFormed)
    (inPlace : ∀ interceptor ∈ interceptors, interceptor.InPlace) {values : Values}
    {references : List Output} (owned : ∀ reference ∈ references, graph.HasOutput reference)
    (ready
      : ∀ reference ∈ references,
          ∃ tensors,
            values reference.node = some tensors
            ∧ (graph.nodeValues interceptors bindings values reference.node).outcome
              = .ok tensors)
    : ∃ tensors, references.mapM values.get = .ok tensors := by
  apply failure?_eq_none_iff.mp
  rw [failure?_mapM, List.findSome?_eq_none_iff]
  intro reference member
  obtain ⟨tensors, stored, evaluated⟩ := ready reference member
  obtain ⟨node, found, count⟩ := wellFormed.length_nodeValues inPlace evaluated
  obtain ⟨owner, ownerFound, index⟩ := owned reference member
  rw [found] at ownerFound
  cases ownerFound
  rw [← count] at index
  simp [Values.get, stored, List.getElem?_eq_getElem index]

/-- A node keeps to the protocol if the nodes that feed it are evaluated. -/
theorem WellFormed.conducted_of (wellFormed : graph.WellFormed)
    (inPlace : ∀ interceptor ∈ interceptors, interceptor.InPlace) {values : Values}
    {id : NodeId} (inside : id < graph.nodes.length)
    (ready
      : ∀ source,
          graph.Feeds source id
          → ∃ tensors,
              values source = some tensors
              ∧ (graph.nodeValues interceptors bindings values source).outcome = .ok tensors)
    : ∃ own,
        graph.Conducted interceptors bindings values id
          (graph.offersAt interceptors bindings values id) own
          (graph.nodeValues interceptors bindings values id).outcome := by
  have found := List.getElem?_eq_getElem inside
  unfold offersAt nodeValues Graph.node
  simp only [found]
  cases declared : graph.nodes[id].op.parameterDesc? with
  | some desc => exact ⟨false, .parameter found declared⟩
  | none =>
      obtain ⟨inputs, read⟩ := wellFormed.readable inPlace (wellFormed.edges found)
        fun input member => ready input.node ⟨_, found, input, member, rfl⟩
      obtain ⟨asked, own, offers, handled⟩ :=
        (wellFormed.settled found).handled_of interceptors inputs
      refine ⟨own, ?_⟩
      simp only [read]
      rw [offers]
      exact .offered found declared read handled

-----------------------------------------------------------------------------------------
-- Interceptors that leave every node
-----------------------------------------------------------------------------------------

/-- An execution asks an interceptor for a node, with the outputs as they stand then: the nodes
before it have been evaluated and the interceptors before it have left the node.
-/
structure Asks (graph : Graph) (interceptors : List Interceptor) (bindings : Bindings)
    (interceptor : Interceptor) (node : Node) (outputs inputs : List Tensor)
    : Prop where
  binds : graph.BindsParameters bindings
  computed : node.op.parameterDesc? = none
  reached
    : ∃ before id after values,
        graph.topologicalOrder = before ++ id :: after
        ∧ (graph.evaluateAll interceptors bindings before .none).outcome = .ok values
        ∧ graph.nodes[id]? = some node
        ∧ node.inputs.mapM values.get = .ok inputs
  registered
    : ∃ left rest,
        interceptors = left ++ interceptor :: rest
        ∧ Interceptor.AllLeave node inputs left (unshapedOutputs node) outputs

/-- What the interceptors wrote before all of them left a node does not change how it ends, if the
element types of the outputs stayed.
-/
theorem evaluateNode_of_allLeave {node : Node} (settled : node.Settled)
    {inputs seen : List Tensor}
    (all : Interceptor.AllLeave node inputs interceptors (unshapedOutputs node) seen)
    (types : seen.map Tensor.dtype = (unshapedOutputs node).map Tensor.dtype)
    : (evaluateNode interceptors node inputs).outcome = (evaluateNode [] node inputs).outcome := by
  have count : seen.length = node.outputs.length := by
    simpa [unshapedOutputs] using congrArg List.length types
  have same := settled.evaluate_congr count types inputs
  unfold evaluateNode
  rw [all.offer]
  simp only [Interceptor.offer]
  cases left : node.op.evaluate seen inputs with
  | error fault =>
      cases right : node.op.evaluate (unshapedOutputs node) inputs with
      | error other =>
          rw [left, right] at same
          cases same
          rfl
      | ok evaluation => simp [left, right, Except.map] at same
  | ok evaluation =>
      cases right : node.op.evaluate (unshapedOutputs node) inputs with
      | error other => simp [left, right, Except.map] at same
      | ok other =>
          obtain ⟨handled, outputs⟩ := evaluation
          obtain ⟨otherHandled, otherOutputs⟩ := other
          rw [left, right] at same
          cases handled <;> cases otherHandled <;>
            simp_all [Except.map, Evaluation.filled?]

/-- A walk over two orders in turn is the walk over both, by induction on the first. -/
theorem evaluateAll_append (first second : List NodeId) (values : Values)
    : (graph.evaluateAll interceptors bindings (first ++ second) values).outcome
      = (graph.evaluateAll interceptors bindings first values).outcome
        >>= fun between =>
          (graph.evaluateAll interceptors bindings second between).outcome := by
  induction first generalizing values with
  | nil => rfl
  | cons id rest ih =>
      rw [List.cons_append, evaluateAll, evaluateAll]
      cases (graph.nodeValues interceptors bindings values id).outcome with
      | error failure => rfl
      | ok tensors => exact ih (values.set id tensors)

/-- A node ends as it does without interceptors, if all that are asked for it spare it. -/
theorem WellFormed.nodeValues_of_spares (wellFormed : graph.WellFormed)
    (binds : graph.BindsParameters bindings)
    (spared
      : ∀ interceptor node outputs inputs,
          graph.Asks interceptors bindings interceptor node outputs inputs
          → interceptor.Spares node outputs inputs)
    {before after : List NodeId} {id : NodeId} {values : Values}
    (split : graph.topologicalOrder = before ++ id :: after)
    (walked : (graph.evaluateAll interceptors bindings before .none).outcome = .ok values)
    : (graph.nodeValues interceptors bindings values id).outcome
      = (graph.nodeValues [] bindings values id).outcome := by
  unfold nodeValues Graph.node
  cases found : graph.nodes[id]? with
  | none => rfl
  | some node =>
      cases declared : node.op.parameterDesc? with
      | some desc => simp only [declared]
      | none =>
          cases read : node.inputs.mapM values.get with
          | error cause => simp only [declared, read]
          | ok inputs =>
              simp only [declared, read]
              obtain ⟨seen, all, types⟩ :=
                Interceptor.allLeave_of_spares (unshapedOutputs node)
                  fun left interceptor rest seen registered leave =>
                    spared interceptor node seen inputs
                      ⟨binds, declared, ⟨before, id, after, values, split, walked, found, read⟩,
                        ⟨left, rest, registered, leave⟩⟩
              exact evaluateNode_of_allLeave (wellFormed.settled found) all types

/-- The rest of a walk ends as it does without interceptors, if all that are asked spare the nodes.
By induction on the rest of the order.
-/
theorem WellFormed.evaluateAll_of_spares (wellFormed : graph.WellFormed)
    (binds : graph.BindsParameters bindings)
    (spared
      : ∀ interceptor node outputs inputs,
          graph.Asks interceptors bindings interceptor node outputs inputs
          → interceptor.Spares node outputs inputs)
    {before rest : List NodeId} {values : Values}
    (split : graph.topologicalOrder = before ++ rest)
    (walked : (graph.evaluateAll interceptors bindings before .none).outcome = .ok values)
    : (graph.evaluateAll interceptors bindings rest values).outcome
      = (graph.evaluateAll [] bindings rest values).outcome := by
  induction rest generalizing before values with
  | nil => rfl
  | cons id rest ih =>
      have same := wellFormed.nodeValues_of_spares binds spared split walked
      rw [evaluateAll, evaluateAll, ← same]
      cases outcome : (graph.nodeValues interceptors bindings values id).outcome with
      | error failure => rfl
      | ok tensors =>
          rw [List.append_cons] at split
          apply ih split
          rw [evaluateAll_append, walked]
          simp only [bind, Except.bind, evaluateAll, outcome]

-----------------------------------------------------------------------------------------
-- The execution of a graph
-----------------------------------------------------------------------------------------

/-- If only parameters are bound, the execution of a graph conducts the nodes of the order up to the
first that fails. Its offers are those made at these nodes, and it fails as that node does; if none
fails, the results are read from what the nodes gave.
-/
theorem WellFormed.execute_conducted (wellFormed : graph.WellFormed)
    (inPlace : ∀ interceptor ∈ interceptors, interceptor.InPlace)
    (binds : graph.BindsParameters bindings)
    : ∃ done later values offers,
        graph.topologicalOrder = done ++ later
        ∧ (∀ id ∈ done,
            ∃ tensors own,
              values id = some tensors
              ∧ graph.Conducted interceptors bindings values id (offers id) own (.ok tensors))
        ∧ (later = []
            ∧ (graph.execute interceptors bindings).offers = done.flatMap offers
            ∧ (∃ results,
                (graph.execute interceptors bindings).outcome = .ok results
                ∧ List.Forall₂ (fun result tensor => values.get result = .ok tensor)
                    graph.results results)
          ∨ ∃ id others own failure,
              later = id :: others
              ∧ graph.Conducted interceptors bindings values id (offers id) own (.error failure)
              ∧ (graph.execute interceptors bindings).offers = (done ++ [id]).flatMap offers
              ∧ (graph.execute interceptors bindings).outcome = .error failure) := by
  have checked : graph.checkBindings bindings = .ok () := by
    rcases graph.checkBindings_cases bindings with ⟨checked, -⟩ | ⟨unbound, -⟩
    · exact checked
    · exact absurd binds unbound
  obtain ⟨arranged, placed⟩ := wellFormed.arranged
  rw [← List.nil_append graph.topologicalOrder] at arranged
  obtain ⟨done, later, values, split, -, evaluated, ended⟩ :=
    evaluateAll_unrolled interceptors bindings arranged .none
  rw [List.nil_append] at arranged
  -- The nodes that feed a node stand before it, and what stands before the end of `done` is in it.
  have conducted {before after : List NodeId} {id : NodeId}
      (position : graph.topologicalOrder = before ++ id :: after)
      (earlier : ∀ source ∈ before, source ∈ done)
      : ∃ own,
          graph.Conducted interceptors bindings values id
            (graph.offersAt interceptors bindings values id) own
            (graph.nodeValues interceptors bindings values id).outcome := by
    have inside : id < graph.nodes.length :=
      wellFormed.inside_of_ordered id (by simp [position])
    refine wellFormed.conducted_of inPlace inside fun source feeds => ?_
    exact evaluated source (earlier source (arranged.fed before id after position source feeds))
  refine ⟨done, later, values, graph.offersAt interceptors bindings values, split, ?_, ?_⟩
  · intro id member
    obtain ⟨tensors, stored, outcome⟩ := evaluated id member
    obtain ⟨before, after, rfl⟩ := List.append_of_mem member
    rw [List.append_assoc] at split
    obtain ⟨own, here⟩ := conducted split fun source sourceMember =>
      List.mem_append_left _ sourceMember
    rw [outcome] at here
    exact ⟨tensors, own, stored, here⟩
  · simp only [execute, checked]
    rcases ended with ⟨rfl, walked⟩ | ⟨id, others, failure, rfl, failed, walked⟩
    · left
      rw [walked]
      refine ⟨rfl, rfl, ?_⟩
      rw [List.append_nil] at split
      obtain ⟨results, read⟩ := wellFormed.readable inPlace wellFormed.results
        fun result member => evaluated result.node (split ▸ placed result member)
      exact ⟨results, by simp only [read]; rfl, mapM_eq_ok_iff.mp read⟩
    · right
      rw [walked]
      obtain ⟨own, here⟩ := conducted split fun source member => member
      rw [failed] at here
      exact ⟨id, others, own, failure, rfl, here, rfl, rfl⟩

/-- Interceptors that spare every node that they are asked for do not change how a graph ends. -/
theorem WellFormed.execute_of_spares (wellFormed : graph.WellFormed)
    (spared
      : ∀ interceptor node outputs inputs,
          graph.Asks interceptors bindings interceptor node outputs inputs
          → interceptor.Spares node outputs inputs)
    : (graph.execute interceptors bindings).outcome = (graph.execute [] bindings).outcome := by
  unfold execute
  rcases graph.checkBindings_cases bindings with ⟨checked, binds⟩ | ⟨-, refused⟩
  · have same := wellFormed.evaluateAll_of_spares binds spared (List.nil_append _).symm rfl
    simp only [checked, same]
  · rcases refused with ⟨id, refused⟩ | ⟨reason, refused⟩ <;> simp only [refused]

/-- If a node that is no parameter is bound, an execution fails before it offers any node. Otherwise
it conducts the nodes of the order up to the first that fails: each node that is no parameter is
offered to the interceptors in order, up to the first that claims it, and its own operation is run
exactly if none does; a claim that nobody can evaluate the node, or an operation that declines, ends
the execution with an unsupported type. Interceptors that spare every node for which they are asked
do not change how the execution ends.
-/
theorem Reachable.execute_intercepted (reachable : graph.Reachable)
    (inPlace : ∀ interceptor ∈ interceptors, interceptor.InPlace) (bindings : Bindings)
    : (¬ graph.BindsParameters bindings
        → (graph.execute interceptors bindings).offers = []
          ∧ ((∃ id,
                (graph.execute interceptors bindings).outcome = .error (.error (.invalidNode id)))
            ∨ ∃ reason,
                (graph.execute interceptors bindings).outcome = .error (.error (.other reason))))
      ∧ (graph.BindsParameters bindings
        → ∃ done later values offers,
            graph.topologicalOrder = done ++ later
            ∧ (∀ id ∈ done,
                ∃ tensors own,
                  values id = some tensors
                  ∧ graph.Conducted interceptors bindings values id (offers id) own
                      (.ok tensors))
            ∧ (later = []
                ∧ (graph.execute interceptors bindings).offers = done.flatMap offers
                ∧ (∃ results,
                    (graph.execute interceptors bindings).outcome = .ok results
                    ∧ List.Forall₂ (fun result tensor => values.get result = .ok tensor)
                        graph.results results)
              ∨ ∃ id others own failure,
                  later = id :: others
                  ∧ graph.Conducted interceptors bindings values id (offers id) own
                      (.error failure)
                  ∧ (graph.execute interceptors bindings).offers = (done ++ [id]).flatMap offers
                  ∧ (graph.execute interceptors bindings).outcome = .error failure))
      ∧ (∀ (node : Node) (inputs : List Tensor) (asked : List Interceptor) (own : Bool)
            (outcome : Except (Failure GraphError) (List Tensor)),
          node.Handled interceptors inputs asked own outcome
          → (own = true
            ↔ ∃ seen, Interceptor.AllLeave node inputs interceptors (unshapedOutputs node) seen))
      ∧ ((∀ interceptor node outputs inputs,
            graph.Asks interceptors bindings interceptor node outputs inputs
            → interceptor.Spares node outputs inputs)
        → (graph.execute interceptors bindings).outcome
          = (graph.execute [] bindings).outcome) := by
  have wellFormed := reachable.wellFormed
  refine ⟨?_, wellFormed.execute_conducted inPlace, fun _ _ _ _ _ => Node.Handled.own_iff,
    wellFormed.execute_of_spares⟩
  intro unbound
  unfold execute
  rcases graph.checkBindings_cases bindings with ⟨-, binds⟩ | ⟨-, refused⟩
  · exact absurd binds unbound
  · rcases refused with ⟨id, refused⟩ | ⟨reason, refused⟩
    · simp only [refused]
      exact ⟨trivial, .inl ⟨id, rfl⟩⟩
    · simp only [refused]
      exact ⟨trivial, .inr ⟨reason, rfl⟩⟩

/-- An interceptor that leaves every node. -/
def idle : Interceptor :=
  ⟨"idle", fun _ outputs _ => .ok ⟨outputs, none⟩⟩

/-- A constant that is a result. -/
def oneConstant : Graph :=
  empty.performAll [.constant (axisList 0), .addResult ⟨0, 0⟩]

/-- A needed constant that comes first in the order is offered to nobody if it is bound. -/
theorem exists_first_unoffered
    : oneConstant.Reachable
      ∧ idle.InPlace
      ∧ oneConstant.topologicalOrder = [0]
      ∧ (∃ node, oneConstant.nodes[0]? = some node ∧ node.op.parameterDesc? = none)
      ∧ (oneConstant.execute [idle] [(0, axisList 0)]).offers = []
      ∧ (oneConstant.execute [idle] [(0, axisList 0)]).outcome
        = .error (.error (.other "node #0 is not a parameter")) := by
  have order : oneConstant.topologicalOrder = [0] :=
    topologicalOrder_of_source ⟨0, 0⟩ rfl rfl rfl
  refine ⟨⟨_, rfl⟩, ?_, order, ⟨_, rfl, rfl⟩, rfl, rfl⟩
  rintro node outputs inputs _ - ⟨⟩
  rfl

/-- An interceptor that makes every output a scalar and then leaves the node. -/
def wiper : Interceptor :=
  ⟨"wiper", fun _ outputs _ =>
    .ok ⟨outputs.map fun output => .scalar output.dtype output.dtype.zeroElement, none⟩⟩

theorem wiper_inPlace : wiper.InPlace := by
  rintro node outputs inputs _ - ⟨⟩
  exact List.length_map _

theorem wiper_spares (node : Node) (outputs inputs : List Tensor)
    : wiper.Spares node outputs inputs := by
  refine ⟨_, rfl, ?_⟩
  rw [List.map_map]
  exact List.map_congr_left fun output _ => rfl

/-- A run whose four operations are each offered once, and that ends as if nobody had been asked. -/
theorem twoSums_execute_intercepted
    : twoSums.Reachable
      ∧ (∀ interceptor ∈ [wiper], interceptor.InPlace)
      ∧ twoSums.BindsParameters [(0, oneTwoThree)]
      ∧ (∃ (done later : List NodeId) (values : Values) (offers : NodeId → List Offer),
          twoSums.topologicalOrder = done ++ later
          ∧ ∀ id ∈ done,
              ∃ tensors own,
                values id = some tensors
                ∧ twoSums.Conducted [wiper] [(0, oneTwoThree)] values id (offers id) own
                    (.ok tensors))
      ∧ (∀ interceptor node outputs inputs,
          twoSums.Asks [wiper] [(0, oneTwoThree)] interceptor node outputs inputs
          → interceptor.Spares node outputs inputs)
      ∧ (twoSums.execute [wiper] [(0, oneTwoThree)]).outcome
        = (twoSums.execute [] [(0, oneTwoThree)]).outcome := by
  have reachable : twoSums.Reachable := ⟨_, rfl⟩
  have inPlace (interceptor : Interceptor) (member : interceptor ∈ [wiper])
      : interceptor.InPlace := by
    cases List.mem_singleton.mp member
    exact wiper_inPlace
  have binds : twoSums.BindsParameters [(0, oneTwoThree)] := by
    intro binding member
    cases List.mem_singleton.mp member
    exact ⟨_, _, rfl, rfl⟩
  have spared (interceptor : Interceptor) (node : Node) (outputs inputs : List Tensor)
      (asks : twoSums.Asks [wiper] [(0, oneTwoThree)] interceptor node outputs inputs)
      : interceptor.Spares node outputs inputs := by
    obtain ⟨left, rest, registered, -⟩ := asks.registered
    have member : interceptor ∈ [wiper] := by simp [registered]
    cases List.mem_singleton.mp member
    exact wiper_spares node outputs inputs
  obtain ⟨-, conducted, -, transparent⟩ :=
    Reachable.execute_intercepted reachable inPlace [(0, oneTwoThree)]
  obtain ⟨done, later, values, offers, split, nodes, -⟩ := conducted binds
  exact ⟨reachable, inPlace, binds, ⟨done, later, values, offers, split, nodes⟩, spared,
    transparent spared⟩

end Graph

end TensorGraph
