import TensorGraph.Graph.Command
import TensorGraph.Proofs.Graph.Inference

/-! In place an operation on a graph does what the function of the graph gives.

Everything that an operation checks it checks before its first step on the graph, and inference in
place records its axes last. So an operation that fails has not changed anything yet.
-/

namespace TensorGraph

-----------------------------------------------------------------------------------------
-- Inference in place
-----------------------------------------------------------------------------------------

/-- In place an accepted reduction becomes the inferred one, and a refused one stays as it was. -/
theorem ReductionOp.inferInPlace_eq (op : ReductionOp) (inputs : List InferenceInput)
    : op.inferInPlace inputs
      = match op.infer inputs with
        | .ok (inferred, outputs) => (.ok outputs, inferred)
        | .error cause => (.error cause, op) := by
  rw [inferInPlace, recordAxes, run_get_bind]
  unfold infer
  cases op.opType.checkInputCount 2 2 inputs.length with
  | error cause => rfl
  | ok _ =>
      rcases inputs with _ | ⟨data, _ | ⟨axes, others⟩⟩
      · rfl
      · rfl
      · dsimp only
        cases op.checkData data.desc.dtype with
        | error cause => rfl
        | ok _ =>
            cases op.checkAxesInput axes.desc with
            | error cause => rfl
            | ok _ => cases op.resolveAxes axes.constant data.desc.shape.rank <;> rfl

/-- An operation that records nothing stays as it is, accepted or refused. -/
theorem Op.inferInPlace_of_unchanged {op : Op} {inputs : List InferenceInput}
    (unchanged
      : ∀ inferred outputs, op.infer inputs = .ok (inferred, outputs) → inferred = op)
    : ((op.infer inputs).map Prod.snd, op)
      = match op.infer inputs with
        | .ok (inferred, outputs) => (.ok outputs, inferred)
        | .error cause => (.error cause, op) := by
  cases given : op.infer inputs with
  | error cause => rfl
  | ok pair =>
      obtain ⟨inferred, outputs⟩ := pair
      cases unchanged inferred outputs given
      rfl

/-- In place an accepted operation becomes the inferred one, and a refused one stays as it was. By
cases on the operation, as only a reduction records anything.
-/
theorem Op.inferInPlace_eq (op : Op) (inputs : List InferenceInput)
    : op.inferInPlace inputs
      = match op.infer inputs with
        | .ok (inferred, outputs) => (.ok outputs, inferred)
        | .error cause => (.error cause, op) := by
  cases op with
  | parameter desc =>
      exact inferInPlace_of_unchanged fun _ _ accepted => (infer_parameter_eq_ok accepted).2.1
  | constant value =>
      exact inferInPlace_of_unchanged fun _ _ accepted => (infer_constant_eq_ok accepted).2.1
  | selection attributes =>
      refine inferInPlace_of_unchanged fun _ _ accepted => ?_
      obtain ⟨_, -, same⟩ := map_eq_ok_iff.mp accepted
      cases same
      rfl
  | reduction attributes =>
      simp only [inferInPlace, infer, ReductionOp.inferInPlace_eq]
      cases attributes.infer inputs <;> rfl

/-- Inference keeps the type of an operation, by cases on the operation. -/
theorem Op.opType_of_infer {op inferred : Op} {inputs : List InferenceInput}
    {outputs : List TensorDesc} (accepted : op.infer inputs = .ok (inferred, outputs))
    : inferred.opType = op.opType := by
  cases op with
  | parameter desc => rw [(infer_parameter_eq_ok accepted).2.1]
  | constant value => rw [(infer_constant_eq_ok accepted).2.1]
  | selection attributes =>
      obtain ⟨_, -, same⟩ := map_eq_ok_iff.mp accepted
      cases same
      rfl
  | reduction attributes =>
      obtain ⟨⟨recorded, _⟩, given, same⟩ := map_eq_ok_iff.mp accepted
      cases same
      obtain ⟨_, _, _, -, -, -, rfl, -⟩ := ReductionOp.infer_eq_ok_iff.mp given
      rfl

namespace Graph

/-- An operation is not added if inference cannot see its inputs. -/
theorem add_of_unseen {graph : Graph} {inputs : List Output} {cause : GraphError}
    (unseen : inputs.mapM graph.inferenceInput = .error cause) (op : Op)
    : graph.add op inputs = .error cause := by
  simp only [add, unseen, bind, Except.bind]

-----------------------------------------------------------------------------------------
-- Changes in place
-----------------------------------------------------------------------------------------

namespace Change

variable {α β : Type} {graph : Graph}

/-- The end of a change that leaves the graph alone unless a function of the graph succeeds. -/
def ended (graph : Graph)
    : Except (Failure GraphError) (Graph × α) → Except (Failure GraphError) α × Graph
  | .ok (changed, value) => (.ok value, changed)
  | .error failure => (.error failure, graph)

theorem apply_get_bind (next : Graph → Change α)
    : Change.apply (get >>= next) graph = (next graph).apply graph :=
  run_get_bind next graph

/-- A check that is refused ends a change before its next step. -/
theorem apply_check_bind (outcome : Except GraphError α) (next : α → Change β)
    : Change.apply (check outcome >>= next) graph
      = match outcome with
        | .ok value => (next value).apply graph
        | .error cause => (.error (.error cause), graph) := by
  cases outcome <;> rfl

/-- An operation enters the graph under a generated name once inference has accepted it. -/
theorem apply_add (op : Op) (inputs : List Output) (graph : Graph)
    : (Change.add op inputs).apply graph = ended graph (orFailure (graph.add op inputs)) := by
  rw [Change.add, apply_get_bind, apply_check_bind]
  cases known : inputs.mapM graph.inferenceInput with
  | error cause =>
      rw [add_of_unseen known op]
      rfl
  | ok seen =>
      dsimp only
      rw [Op.inferInPlace_eq]
      cases given : op.infer seen with
      | error cause =>
          have refused : graph.add op inputs = .error cause := by
            simp only [Graph.add, known, given, bind, Except.bind]
          rw [refused]
          rfl
      | ok pair =>
          obtain ⟨recorded, outputs⟩ := pair
          have accepted
              : graph.add op inputs
                = .ok
                    (⟨graph.nodes
                          ++ [⟨graph.nodes.length, (graph.names.fresh op.opType.name).2, recorded,
                            inputs, outputs⟩],
                        graph.results, (graph.names.fresh op.opType.name).1⟩,
                      graph.nodes.length) := by
            simp only [Graph.add, known, given, bind, Except.bind]
          simp only [accepted, Op.opType_of_infer given]
          rfl

theorem apply_clone (id : NodeId) (inputs : List Output) (graph : Graph)
    : (Change.clone id inputs).apply graph
      = ended graph (orFailure (graph.cloneNode id inputs)) := by
  rw [Change.clone, apply_get_bind, apply_check_bind]
  unfold Graph.cloneNode
  cases graph.node id with
  | error cause => rfl
  | ok node =>
      simp only [bind, Except.bind]
      by_cases same : inputs.length = node.inputs.length
      · simp only [same, ne_eq, not_true_eq_false, if_false]
        exact apply_add node.op.fresh inputs graph
      · simp only [same, ne_eq, not_false_eq_true, if_true]
        rfl

theorem apply_addDefault (id : NodeId) (graph : Graph)
    : (Change.addDefault id).apply graph = ended graph (graph.addDefault id) := by
  rw [Change.addDefault, apply_get_bind, apply_check_bind]
  unfold Graph.addDefault
  cases graph.node id with
  | error cause => rfl
  | ok node =>
      simp only [orFailure, Except.mapError, bind, Except.bind]
      cases node.outputs with
      | nil => rfl
      | cons desc others =>
          dsimp only
          cases node.op.defaultValue desc with
          | error fault => rfl
          | ok value? =>
              cases value? with
              | none => rfl
              | some value => exact apply_add (.constant value) [] graph

theorem apply_setName (id : NodeId) (name : String) (graph : Graph)
    : (Change.setName id name).apply graph
      = ended graph ((orFailure (graph.setName id name)).map fun changed => (changed, ())) := by
  rw [Change.setName, apply_get_bind, apply_check_bind]
  unfold Graph.setName
  cases graph.node id with
  | error cause => rfl
  | ok node =>
      simp only [bind, Except.bind]
      by_cases own : node.name = name
      · simp only [own, if_true]
        rfl
      · by_cases taken : name ∈ graph.names.used
        · simp only [own, taken, if_false, if_true]
          rfl
        · simp only [own, taken, if_false]
          rfl

theorem apply_addResult (output : Output) (graph : Graph)
    : (Change.addResult output).apply graph
      = ended graph ((orFailure (graph.addResult output)).map fun changed => (changed, ())) := by
  rw [Change.addResult, apply_get_bind, apply_check_bind]
  unfold Graph.addResult
  cases graph.outputDesc output <;> rfl

theorem apply_replaceUses (old new : Output) (graph : Graph)
    : (Change.replaceUses old new).apply graph
      = ended graph (orFailure (graph.replaceUses old new)) := by
  rw [Change.replaceUses, apply_get_bind, apply_check_bind]
  unfold Graph.replaceUses
  cases graph.outputDesc old with
  | error cause => rfl
  | ok oldDesc =>
      dsimp only
      rw [apply_check_bind]
      cases graph.outputDesc new with
      | error cause => rfl
      | ok newDesc =>
          simp only [bind, Except.bind]
          by_cases same : oldDesc = newDesc
          · simp only [same, ne_eq, not_true_eq_false, if_false]
            cases (graph.ancestors new.node).find? (graph.reads old) <;> rfl
          · simp only [same, ne_eq, not_false_eq_true, if_true]
            rfl

end Change

-----------------------------------------------------------------------------------------
-- Commands
-----------------------------------------------------------------------------------------

/-- A step that changes the graph only if a function of the graph succeeds. -/
def Step.ofExcept {α : Type} (graph : Graph) (reply : α → Reply)
    : Except (Failure GraphError) (Graph × α) → Step
  | .ok (changed, value) => ⟨changed, .ok (reply value)⟩
  | .error failure => ⟨graph, .error failure⟩

theorem Step.ofChange_eq {α : Type} {graph : Graph} {change : Change α}
    {outcome : Except (Failure GraphError) (Graph × α)}
    (ends : change.apply graph = Change.ended graph outcome) (reply : α → Reply)
    : Step.ofChange graph reply change = .ofExcept graph reply outcome := by
  rw [Step.ofChange, ends]
  cases outcome <;> rfl

/-- What a command does by the functions of the graph. -/
def performAtOnce (graph : Graph) : Command → Step
  | .parameter desc => .ofExcept graph .node (orFailure (graph.addParameter desc))
  | .constant value => .ofExcept graph .node (orFailure (graph.addConstant value))
  | .add op inputs => .ofExcept graph .node (orFailure (graph.add op inputs))
  | .clone id inputs => .ofExcept graph .node (orFailure (graph.cloneNode id inputs))
  | .addDefault id => .ofExcept graph .node (graph.addDefault id)
  | .replaceUses old new => .ofExcept graph .count (orFailure (graph.replaceUses old new))
  | .setName id name =>
      .ofExcept graph (fun () => .done)
        ((orFailure (graph.setName id name)).map fun changed => (changed, ()))
  | .addResult output =>
      .ofExcept graph (fun () => .done)
        ((orFailure (graph.addResult output)).map fun changed => (changed, ()))
  | .foldConstants => .ofSimplification graph.foldConstants
  | .eliminateEmpty => .ofSimplification graph.eliminateEmpty
  | .prepare config => .ofSimplification (graph.prepare config)

/-- A command that makes one change in place makes it as a whole, or fails and leaves the graph as
it was. By cases on the command.
-/
theorem perform_eq (graph : Graph) (command : Command)
    : graph.perform command = graph.performAtOnce command := by
  cases command with
  | parameter desc => exact Step.ofChange_eq (Change.apply_add (.parameter desc) [] graph) .node
  | constant value => exact Step.ofChange_eq (Change.apply_add (.constant value) [] graph) .node
  | add op inputs => exact Step.ofChange_eq (Change.apply_add op inputs graph) _
  | clone id inputs => exact Step.ofChange_eq (Change.apply_clone id inputs graph) _
  | addDefault id => exact Step.ofChange_eq (Change.apply_addDefault id graph) _
  | replaceUses old new => exact Step.ofChange_eq (Change.apply_replaceUses old new graph) _
  | setName id name => exact Step.ofChange_eq (Change.apply_setName id name graph) _
  | addResult output => exact Step.ofChange_eq (Change.apply_addResult output graph) _
  | foldConstants | eliminateEmpty | prepare => rfl

end Graph

end TensorGraph
