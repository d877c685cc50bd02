import TensorGraph.Proofs.Graph.Meaning
import TensorGraph.Proofs.Graph.PostOrder

/-! Execution gives what the results denote.

The walk over the post-order evaluates each node when the nodes that feed it have been evaluated,
and so the first node at which it fails is the one at which the recursion from the results, inputs
from left to right, fails first.
-/

namespace TensorGraph

/-- An evaluation leaves as many outputs as it was given, by cases on the operation. -/
theorem Op.length_evaluate {op : Op} {outputs inputs : List Tensor} {evaluation : Evaluation}
    (evaluated : op.evaluate outputs inputs = .ok evaluation)
    : evaluation.outputs.length = outputs.length := by
  cases op with
  | parameter desc =>
      cases evaluated
      rfl
  | constant value =>
      simp only [Op.evaluate] at evaluated
      split at evaluated
      · split at evaluated <;> cases evaluated <;> rfl
      · cases evaluated
        rfl
  | reduction op =>
      simp only [Op.evaluate, ReductionOp.evaluate] at evaluated
      split at evaluated
      · split at evaluated
        · cases evaluated
          rfl
        · split at evaluated <;> cases evaluated <;> rfl
      · cases evaluated
        rfl
  | selection op =>
      simp only [Op.evaluate, SelectionOp.evaluate] at evaluated
      split at evaluated
      · split at evaluated
        · cases evaluated
          rfl
        · split at evaluated <;> cases evaluated <;> rfl
      · cases evaluated
        rfl

theorem Node.length_attempt {bindings : Graph.Bindings} {node : Node} (settled : node.Settled)
    {inputs tensors : List Tensor} (attempted : node.attempt bindings inputs = .ok tensors)
    : tensors.length = node.outputs.length := by
  cases declared : node.op.parameterDesc? with
  | some desc =>
      obtain ⟨value, -, rfl⟩ := (attempt_parameter_eq_ok_iff declared).mp attempted
      rw [(settled.of_parameter declared).2]
      rfl
  | none =>
      have evaluated := (attempt_eq_ok_iff declared).mp attempted
      simpa [Graph.unshapedOutputs] using Op.length_evaluate evaluated

-----------------------------------------------------------------------------------------
-- Why a node denotes nothing
-----------------------------------------------------------------------------------------

/-- Why a node has no tensors though its inputs have: nothing is bound to a parameter, or what is
bound first is not as declared; the operation declines to evaluate, or it stops.
-/
inductive Node.Refuses (bindings : Graph.Bindings) (node : Node) (inputs : List Tensor)
    : Failure GraphError → Prop
  | missing {declared : TensorDesc} (parameter : node.op.parameterDesc? = some declared)
    (unbound : bindings.find? (fun binding => binding.1 = node.id) = none)
    : Refuses bindings node inputs (.error (.missingParameter node.id))
  | mismatch {declared : TensorDesc} {id : NodeId} {value : Tensor}
    (parameter : node.op.parameterDesc? = some declared)
    (bound : bindings.find? (fun binding => binding.1 = node.id) = some (id, value))
    (different : value.desc? ≠ some declared)
    : Refuses bindings node inputs
        (.error (.parameterMismatch node.id declared.render (Graph.describe value)))
  | declined {outputs : List Tensor} {dtype : DType} (computed : node.op.parameterDesc? = none)
    (declined : node.op.evaluate (Graph.unshapedOutputs node) inputs = .ok ⟨false, outputs⟩)
    (type : (inputs.head?.map Tensor.dtype <|> node.outputs.head?.map TensorDesc.dtype)
      = some dtype)
    : Refuses bindings node inputs (.error (.unsupportedType node.op.opType.render dtype))
  | stopped {fault : Fault} (computed : node.op.parameterDesc? = none)
    (stopped : node.op.evaluate (Graph.unshapedOutputs node) inputs = .error fault)
    : Refuses bindings node inputs (.fault fault)

theorem Node.Settled.outputs_ne_nil {node : Node} (settled : node.Settled)
    : node.outputs ≠ [] := by
  intro none
  unfold Node.Settled at settled
  cases op : node.op <;> simp [op, none] at settled

/-- The error for a node that no one could evaluate names an element type, as the node has outputs.
-/
theorem Node.Settled.unevaluated_eq {node : Node} (settled : node.Settled) (inputs : List Tensor)
    : ∃ dtype,
        (inputs.head?.map Tensor.dtype <|> node.outputs.head?.map TensorDesc.dtype) = some dtype
        ∧ Graph.unevaluated node inputs = .unsupportedType node.op.opType.render dtype := by
  unfold Graph.unevaluated
  cases type : inputs.head?.map Tensor.dtype <|> node.outputs.head?.map TensorDesc.dtype with
  | some dtype => exact ⟨dtype, rfl, rfl⟩
  | none =>
      have none : node.outputs.head?.map TensorDesc.dtype = none := by
        cases first : inputs.head?.map Tensor.dtype <;> simp_all
      exact absurd none (by simp [settled.outputs_ne_nil])

/-- An attempt that fails is refused for one of the four reasons, by cases on the attempt. -/
theorem Node.refuses_of_attempt {bindings : Graph.Bindings} {node : Node}
    (settled : node.Settled) {inputs : List Tensor} {failure : Failure GraphError}
    (failed : node.attempt bindings inputs = .error failure)
    : node.Refuses bindings inputs failure := by
  unfold Node.attempt at failed
  split at failed
  next declared parameter =>
    unfold Graph.bound at failed
    split at failed
    next unbound =>
      cases failed
      exact .missing parameter unbound
    next id value bound =>
      split at failed
      · cases failed
      next different =>
        cases failed
        exact .mismatch parameter bound different
  next computed =>
    split at failed
    · cases failed
    next outputs declined =>
      obtain ⟨dtype, type, unevaluated⟩ := settled.unevaluated_eq inputs
      rw [unevaluated] at failed
      cases failed
      exact .declined computed declined type
    next fault stopped =>
      cases failed
      exact .stopped computed stopped

namespace Graph

variable {graph : Graph} (wellFormed : graph.WellFormed) {bindings : Bindings}

namespace WellFormed

theorem length_denote {id : NodeId} {node : Node} (found : graph.nodes[id]? = some node)
    {tensors : List Tensor} (denoted : wellFormed.denote bindings id = .ok tensors)
    : tensors.length = node.outputs.length := by
  obtain ⟨inputs, -, attempted⟩ := (wellFormed.denote_eq_ok_iff found).mp denoted
  exact Node.length_attempt (wellFormed.settled found) attempted

/-- An output that exists denotes a tensor if its node denotes tensors. -/
theorem tensor_eq_ok {output : Output} (owned : graph.HasOutput output) {tensors : List Tensor}
    (denoted : wellFormed.denote bindings output.node = .ok tensors)
    : ∃ tensor,
        tensors[output.index]? = some tensor
        ∧ (wellFormed.denote bindings).tensor output = .ok tensor := by
  obtain ⟨node, found, index⟩ := owned
  rw [← wellFormed.length_denote found denoted] at index
  have present := List.getElem?_eq_getElem index
  exact ⟨_, present, Meaning.tensor_eq_ok_iff.mpr ⟨tensors, denoted, present⟩⟩

/-- An output that exists fails to denote a tensor exactly as its node fails. -/
theorem failure?_tensor {output : Output} (owned : graph.HasOutput output)
    : failure? ((wellFormed.denote bindings).tensor output)
      = failure? (wellFormed.denote bindings output.node) := by
  cases denoted : wellFormed.denote bindings output.node with
  | error failure => simp [Meaning.tensor, denoted, bind, Except.bind]
  | ok tensors =>
      obtain ⟨tensor, -, picked⟩ := wellFormed.tensor_eq_ok owned denoted
      rw [picked, failure?_ok, failure?_ok]

/-- Outputs that exist fail to denote tensors as the first of their nodes that fails. -/
theorem failure?_tensors {references : List Output}
    (owned : ∀ reference ∈ references, graph.HasOutput reference)
    : failure? (references.mapM (wellFormed.denote bindings).tensor)
      = references.findSome? fun reference =>
          failure? (wellFormed.denote bindings reference.node) := by
  rw [failure?_mapM]
  induction references with
  | nil => rfl
  | cons reference rest ih =>
      rw [List.findSome?_cons, List.findSome?_cons,
        wellFormed.failure?_tensor (owned reference List.mem_cons_self),
        ih fun other member => owned other (List.mem_cons_of_mem _ member)]

-----------------------------------------------------------------------------------------
-- The first failure in the order of evaluation
-----------------------------------------------------------------------------------------

/-- If placing any reference fails first as its node does, so does placing all of them, by induction
on the references.
-/
theorem findSome?_placeAll {references : List Output}
    (each
      : ∀ reference ∈ references,
          ∀ order : List NodeId,
            order.findSome? (fun id => failure? (wellFormed.denote bindings id)) = none
            → (graph.place wellFormed.acyclic order reference.node).findSome?
                (fun id => failure? (wellFormed.denote bindings id))
              = failure? (wellFormed.denote bindings reference.node))
    {order : List NodeId}
    (evaluated : order.findSome? (fun id => failure? (wellFormed.denote bindings id)) = none)
    : (graph.placeAll wellFormed.acyclic order references).findSome?
        (fun id => failure? (wellFormed.denote bindings id))
      = references.findSome? fun reference =>
          failure? (wellFormed.denote bindings reference.node) := by
  induction references generalizing order with
  | nil => exact evaluated
  | cons reference rest ih =>
      have head := each reference List.mem_cons_self order evaluated
      rw [placeAll_cons, List.findSome?_cons]
      cases refused : failure? (wellFormed.denote bindings reference.node) with
      | some failure =>
          obtain ⟨new, reports⟩ := reports_references wellFormed.acyclic rest
            (graph.place wellFormed.acyclic order reference.node)
          rw [reports.placed, List.findSome?_append, head, refused, Option.some_or]
      | none =>
          exact ih (fun other member => each other (List.mem_cons_of_mem _ member))
            (head.trans refused)

/-- Placing a node behind nodes that denote tensors fails first as the node itself does, by
induction on what feeds it: a node fails as the first of its inputs that fails.
-/
theorem findSome?_place {id : NodeId} (inside : id < graph.nodes.length) {order : List NodeId}
    (evaluated : order.findSome? (fun id => failure? (wellFormed.denote bindings id)) = none)
    : (graph.place wellFormed.acyclic order id).findSome?
        (fun id => failure? (wellFormed.denote bindings id))
      = failure? (wellFormed.denote bindings id) := by
  induction id using wellFormed.acyclic.induction generalizing order with
  | _ id ih =>
      by_cases placed : id ∈ order
      · rw [place_of_mem _ placed, evaluated]
        exact (List.findSome?_eq_none_iff.mp evaluated id placed).symm
      · have found := List.getElem?_eq_getElem inside
        have owned := wellFormed.edges found
        have inputs := wellFormed.findSome?_placeAll (fun input member order evaluated =>
          ih input.node ⟨_, found, input, member, rfl⟩ (owned input member).inside evaluated)
          evaluated
        rw [← wellFormed.failure?_tensors owned] at inputs
        rw [place_of_some _ placed found, List.findSome?_append, inputs]
        cases attempted : graph.nodes[id].inputs.mapM (wellFormed.denote bindings).tensor with
        | ok tensors => simp
        | error failure =>
            rw [wellFormed.denote_of_found found, attempted]
            rfl

/-- The order of evaluation fails first as the results do. -/
theorem findSome?_topologicalOrder
    : graph.topologicalOrder.findSome? (fun id => failure? (wellFormed.denote bindings id))
      = failure? (graph.results.mapM (wellFormed.denote bindings).tensor) := by
  rw [topologicalOrder_eq_postOrder wellFormed.acyclic, wellFormed.failure?_tensors
    wellFormed.results]
  refine wellFormed.findSome?_placeAll ?_ List.findSome?_nil
  intro result member order evaluated
  exact wellFormed.findSome?_place (wellFormed.results result member).inside evaluated

/-- The results denote tensors exactly if every node does that they need. -/
theorem results_eq_ok_iff
    : (∃ tensors, graph.results.mapM (wellFormed.denote bindings).tensor = .ok tensors)
      ↔ ∀ id, graph.Needed id → ∃ tensors, wellFormed.denote bindings id = .ok tensors := by
  rw [← failure?_eq_none_iff, ← wellFormed.findSome?_topologicalOrder,
    List.findSome?_eq_none_iff]
  simp only [wellFormed.mem_topologicalOrder_iff, failure?_eq_none_iff]

-----------------------------------------------------------------------------------------
-- The walk over the order of evaluation
-----------------------------------------------------------------------------------------

/-- Outputs that exist denote what was stored for their nodes, by induction on the outputs. -/
theorem mapM_get {references : List Output}
    (owned : ∀ reference ∈ references, graph.HasOutput reference) {values : Values}
    (stored
      : ∀ reference ∈ references,
          ∃ tensors,
            wellFormed.denote bindings reference.node = .ok tensors
            ∧ values reference.node = some tensors)
    : ∃ tensors,
        references.mapM values.get = .ok tensors
        ∧ references.mapM (wellFormed.denote bindings).tensor = .ok tensors := by
  induction references with
  | nil => exact ⟨[], rfl, rfl⟩
  | cons reference rest ih =>
      obtain ⟨outputs, denoted, kept⟩ := stored reference List.mem_cons_self
      obtain ⟨tensor, present, picked⟩ :=
        wellFormed.tensor_eq_ok (owned reference List.mem_cons_self) denoted
      have got : values.get reference = .ok tensor := by
        simp only [Values.get, kept, Option.bind_some, present]
      obtain ⟨tensors, later, laterPicked⟩ :=
        ih (fun other member => owned other (List.mem_cons_of_mem _ member))
          (fun other member => stored other (List.mem_cons_of_mem _ member))
      refine ⟨tensor :: tensors, ?_, ?_⟩
      · rw [List.mapM_cons, got, later]
        rfl
      · rw [List.mapM_cons, picked, laterPicked]
        rfl

omit wellFormed in
theorem evaluateNode_nil {node : Node} (computed : node.op.parameterDesc? = none)
    (inputs : List Tensor)
    : evaluateNode [] node inputs = ⟨[], node.attempt bindings inputs⟩ := by
  simp only [evaluateNode, Interceptor.offer, Node.attempt, computed]
  cases node.op.evaluate (unshapedOutputs node) inputs with
  | error fault => rfl
  | ok evaluation =>
      obtain ⟨handled, outputs⟩ := evaluation
      cases handled <;> rfl

/-- A node is evaluated to what it denotes if the nodes that feed it have been. -/
theorem nodeValues_eq {id : NodeId} (inside : id < graph.nodes.length) {values : Values}
    (stored
      : ∀ source,
          graph.Feeds source id
          → ∃ tensors,
              wellFormed.denote bindings source = .ok tensors
              ∧ values source = some tensors)
    : graph.nodeValues [] bindings values id = ⟨[], wellFormed.denote bindings id⟩ := by
  have found := List.getElem?_eq_getElem inside
  obtain ⟨inputs, got, picked⟩ := wellFormed.mapM_get (wellFormed.edges found)
    fun input member => stored input.node ⟨_, found, input, member, rfl⟩
  rw [wellFormed.denote_of_found found, picked, nodeValues, Graph.node, found]
  simp only [got]
  cases declared : graph.nodes[id].op.parameterDesc? with
  | some desc => simp [Node.attempt, declared, bind, Except.bind, wellFormed.placed found]
  | none => exact evaluateNode_nil declared inputs

/-- The walk behind nodes that have been evaluated fails first as a node of the order denotes
nothing. If it does not fail it has stored what every node denotes. By induction on the order.
-/
theorem evaluateAll_spec {before rest : List NodeId} (arranged : graph.Arranged (before ++ rest))
    (inside : ∀ id ∈ rest, id < graph.nodes.length) {values : Values}
    (stored
      : ∀ id ∈ before,
          ∃ tensors,
            wellFormed.denote bindings id = .ok tensors ∧ values id = some tensors)
    : (graph.evaluateAll [] bindings rest values).offers = []
      ∧ failure? (graph.evaluateAll [] bindings rest values).outcome
        = rest.findSome? (fun id => failure? (wellFormed.denote bindings id))
      ∧ ∀ final,
          (graph.evaluateAll [] bindings rest values).outcome = .ok final
          → ∀ id ∈ before ++ rest,
              ∃ tensors,
                wellFormed.denote bindings id = .ok tensors ∧ final id = some tensors := by
  induction rest generalizing before values with
  | nil =>
      refine ⟨rfl, rfl, ?_⟩
      rintro final ⟨⟩ id member
      exact stored id (by simpa using member)
  | cons id rest ih =>
      have evaluated := wellFormed.nodeValues_eq (inside id List.mem_cons_self)
        fun source edge => stored source (arranged.fed before id rest rfl source edge)
      rw [evaluateAll, evaluated, List.findSome?_cons]
      cases denoted : wellFormed.denote bindings id with
      | error failure => exact ⟨rfl, rfl, fun final impossible => by cases impossible⟩
      | ok tensors =>
          have storedNext (other : NodeId) (member : other ∈ before ++ [id])
              : ∃ tensors',
                  wellFormed.denote bindings other = .ok tensors'
                  ∧ values.set id tensors other = some tensors' := by
            by_cases same : other = id
            · subst same
              exact ⟨tensors, denoted, if_pos rfl⟩
            · have earlier : other ∈ before := by simpa [same] using member
              obtain ⟨outputs, known, kept⟩ := stored other earlier
              exact ⟨outputs, known, (if_neg same).trans kept⟩
          -- The node now counts as evaluated, so the split of the order moves behind it.
          rw [List.append_cons] at arranged ⊢
          obtain ⟨offers, outcome, final⟩ := ih arranged
            (fun other member => inside other (List.mem_cons_of_mem _ member)) storedNext
          exact ⟨offers, outcome, final⟩

end WellFormed

/-- Execution makes no offers without interceptors. After the check of the bindings it gives what
the results denote, or fails as the first of them that denotes nothing.
-/
theorem WellFormed.execute_eq (bindings : Bindings)
    : graph.execute [] bindings
      = ⟨[],
          orFailure (graph.checkBindings bindings)
            >>= fun _ => graph.results.mapM (wellFormed.denote bindings).tensor⟩ := by
  unfold execute
  cases graph.checkBindings bindings with
  | error cause => rfl
  | ok _ =>
      obtain ⟨arranged, placed⟩ := wellFormed.arranged
      have inside (id : NodeId) (member : id ∈ graph.topologicalOrder)
          : id < graph.nodes.length :=
        wellFormed.inside_of_needed (wellFormed.mem_topologicalOrder_iff.mp member)
      have start (id : NodeId) (member : id ∈ [])
          : ∃ tensors,
              wellFormed.denote bindings id = .ok tensors ∧ Values.none id = some tensors :=
        absurd member List.not_mem_nil
      rw [← List.nil_append graph.topologicalOrder] at arranged
      obtain ⟨offers, refused, stored⟩ := wellFormed.evaluateAll_spec arranged inside start
      rw [wellFormed.findSome?_topologicalOrder] at refused
      simp only [offers, orFailure, Except.mapError, bind, Except.bind]
      cases walked : (graph.evaluateAll [] bindings graph.topologicalOrder .none).outcome with
      | error failure =>
          rw [walked, failure?_error] at refused
          rw [failure?_eq_some_iff.mp refused.symm]
      | ok final =>
          obtain ⟨tensors, got, picked⟩ := wellFormed.mapM_get wellFormed.results
            fun result member => stored final walked result.node (placed result member)
          simp only [got, picked]

/-- Only parameters are bound. -/
def BindsParameters (graph : Graph) (bindings : Bindings) : Prop :=
  ∀ binding ∈ bindings,
    ∃ node declared,
      graph.nodes[binding.1]? = some node ∧ node.op.parameterDesc? = some declared

omit wellFormed in
/-- The check accepts bindings of parameters. It names the first node bound that does not exist, or
says that one is no parameter. By induction on the bindings.
-/
theorem checkBindings_cases (graph : Graph) (bindings : Bindings)
    : graph.checkBindings bindings = .ok () ∧ graph.BindsParameters bindings
      ∨ ¬ graph.BindsParameters bindings
        ∧ ((∃ id, graph.checkBindings bindings = .error (.invalidNode id))
          ∨ ∃ reason, graph.checkBindings bindings = .error (.other reason)) := by
  induction bindings with
  | nil => exact .inl ⟨rfl, by simp [BindsParameters]⟩
  | cons binding rest ih =>
      obtain ⟨id, value⟩ := binding
      unfold checkBindings Graph.node BindsParameters
      cases found : graph.nodes[id]? with
      | none => exact .inr ⟨by simp [found], .inl ⟨id, rfl⟩⟩
      | some node =>
          cases declared : node.op.parameterDesc? with
          | none =>
              refine .inr ⟨by simp [found, declared], .inr ?_⟩
              simp only [bind, Except.bind, declared, Option.isNone_none, if_true]
              exact ⟨_, rfl⟩
          | some desc =>
              simpa [found, declared, bind, Except.bind, BindsParameters] using ih

theorem WellFormed.execute_eq_ok_iff {tensors : List Tensor}
    : (graph.execute [] bindings).outcome = .ok tensors
      ↔ graph.BindsParameters bindings
        ∧ graph.results.mapM (wellFormed.denote bindings).tensor = .ok tensors := by
  rw [wellFormed.execute_eq]
  rcases graph.checkBindings_cases bindings with ⟨checked, binds⟩ | ⟨unbound, refused⟩
  · simp [checked, binds, orFailure, Except.mapError, bind, Except.bind]
  · rcases refused with ⟨_, refused⟩ | ⟨_, refused⟩ <;>
      simp [refused, unbound, orFailure, Except.mapError, bind, Except.bind]

/-- If only parameters are bound, an execution fails as the results do. -/
theorem WellFormed.execute_eq_error_iff (binds : graph.BindsParameters bindings)
    {failure : Failure GraphError}
    : (graph.execute [] bindings).outcome = .error failure
      ↔ graph.results.mapM (wellFormed.denote bindings).tensor = .error failure := by
  rw [wellFormed.execute_eq]
  rcases graph.checkBindings_cases bindings with ⟨checked, -⟩ | ⟨unbound, -⟩
  · simp [checked, orFailure, Except.mapError, bind, Except.bind]
  · exact absurd binds unbound

/-- If something fails, the order of evaluation has a first node that denotes nothing. Its inputs
denote tensors, since they stand before it, and it refuses them.
-/
theorem WellFormed.first_refusal {failure : Failure GraphError}
    (failed : graph.results.mapM (wellFormed.denote bindings).tensor = .error failure)
    : ∃ before id after node inputs,
        graph.topologicalOrder = before ++ id :: after
        ∧ (∀ other ∈ before, ∃ tensors, wellFormed.denote bindings other = .ok tensors)
        ∧ wellFormed.denote bindings id = .error failure
        ∧ graph.nodes[id]? = some node
        ∧ node.inputs.mapM (wellFormed.denote bindings).tensor = .ok inputs
        ∧ node.Refuses bindings inputs failure := by
  have refused
      : graph.topologicalOrder.findSome? (fun id => failure? (wellFormed.denote bindings id))
        = failure? (graph.results.mapM (wellFormed.denote bindings).tensor) :=
    wellFormed.findSome?_topologicalOrder
  rw [failed, failure?_error, List.findSome?_eq_some_iff] at refused
  obtain ⟨before, id, after, split, first, evaluated⟩ := refused
  have denoted := failure?_eq_some_iff.mp first
  have earlier (other : NodeId) (member : other ∈ before)
      : ∃ tensors, wellFormed.denote bindings other = .ok tensors :=
    failure?_eq_none_iff.mp (evaluated other member)
  have inside : id < graph.nodes.length := by
    have member : id ∈ graph.topologicalOrder := by simp [split]
    exact wellFormed.inside_of_needed (wellFormed.mem_topologicalOrder_iff.mp member)
  have found := List.getElem?_eq_getElem inside
  have known : failure? (graph.nodes[id].inputs.mapM (wellFormed.denote bindings).tensor)
      = none := by
    rw [wellFormed.failure?_tensors (wellFormed.edges found), List.findSome?_eq_none_iff]
    intro input member
    exact evaluated input.node (wellFormed.arranged.1.fed before id after split input.node
      ⟨_, found, input, member, rfl⟩)
  obtain ⟨inputs, picked⟩ := failure?_eq_none_iff.mp known
  refine ⟨before, id, after, _, inputs, split, earlier, denoted, found, picked, ?_⟩
  rw [wellFormed.denote_of_found found, picked] at denoted
  exact Node.refuses_of_attempt (wellFormed.settled found) denoted

/-- Execution succeeds exactly if only parameters are bound and every node that the results need
denotes tensors, and then it gives what the results denote. If only parameters are bound it fails
as the first node in the order of evaluation that denotes nothing, which refuses the tensors of its
inputs. It never fails for an output that does not exist.
-/
theorem Reachable.execute_denotes (reachable : graph.Reachable) (bindings : Bindings)
    : ((∃ tensors, (graph.execute [] bindings).outcome = .ok tensors)
        ↔ graph.BindsParameters bindings
          ∧ ∀ id,
              graph.Needed id
              → ∃ tensors, reachable.wellFormed.denote bindings id = .ok tensors)
      ∧ (∀ tensors,
          (graph.execute [] bindings).outcome = .ok tensors
          → List.Forall₂
              (fun result tensor =>
                (reachable.wellFormed.denote bindings).tensor result = .ok tensor)
              graph.results tensors)
      ∧ (graph.BindsParameters bindings
        → ∀ failure,
            (graph.execute [] bindings).outcome = .error failure
            → ∃ before id after node inputs,
                graph.topologicalOrder = before ++ id :: after
                ∧ (∀ other ∈ before,
                    ∃ tensors, reachable.wellFormed.denote bindings other = .ok tensors)
                ∧ reachable.wellFormed.denote bindings id = .error failure
                ∧ graph.nodes[id]? = some node
                ∧ node.inputs.mapM (reachable.wellFormed.denote bindings).tensor = .ok inputs
                ∧ node.Refuses bindings inputs failure)
      ∧ ∀ output,
          (graph.execute [] bindings).outcome ≠ .error (.error (.invalidOutput output)) := by
  have wellFormed := reachable.wellFormed
  refine ⟨?_, ?_, ?_, ?_⟩
  · simp only [wellFormed.execute_eq_ok_iff, exists_and_left, wellFormed.results_eq_ok_iff]
  · intro tensors outcome
    exact mapM_eq_ok_iff.mp (wellFormed.execute_eq_ok_iff.mp outcome).2
  · intro binds failure outcome
    exact wellFormed.first_refusal ((wellFormed.execute_eq_error_iff binds).mp outcome)
  · intro output outcome
    rcases graph.checkBindings_cases bindings with ⟨-, binds⟩ | ⟨-, refused⟩
    · obtain ⟨_, _, _, _, _, -, -, -, -, -, refuses⟩ :=
        wellFormed.first_refusal ((wellFormed.execute_eq_error_iff binds).mp outcome)
      cases refuses
    · rw [wellFormed.execute_eq] at outcome
      rcases refused with ⟨_, refused⟩ | ⟨_, refused⟩ <;>
        simp [refused, orFailure, Except.mapError, bind, Except.bind] at outcome

/-- A run of a graph that reads a node behind its reader, with its parameter bound. -/
theorem relinkedSum_execute_denotes
    : relinkedSum.Reachable
      ∧ (∃ reachable : relinkedSum.Reachable,
          ((∃ tensors, (relinkedSum.execute [] [(0, axisList 1)]).outcome = .ok tensors)
            ↔ relinkedSum.BindsParameters [(0, axisList 1)]
              ∧ ∀ id,
                  relinkedSum.Needed id
                  → ∃ tensors,
                      reachable.wellFormed.denote [(0, axisList 1)] id = .ok tensors))
      ∧ ∀ output,
          (relinkedSum.execute [] [(0, axisList 1)]).outcome
          ≠ .error (.error (.invalidOutput output)) := by
  have reachable : relinkedSum.Reachable := ⟨_, rfl⟩
  obtain ⟨success, -, -, owned⟩ := Reachable.execute_denotes reachable [(0, axisList 1)]
  exact ⟨reachable, ⟨reachable, success⟩, owned⟩

end Graph
end TensorGraph
