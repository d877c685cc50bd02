import TensorGraph.Proofs.Graph.InPlace
import TensorGraph.Proofs.Host.Arguments
import TensorGraph.Proofs.Host.Context

/-! The steps of a call, one by one: what each of them leaves in the frame. -/

namespace TensorGraph.Host.Body

variable {α β : Type} {frame : Frame}

theorem apply_get_bind (next : Frame → Body α)
    : Body.apply (get >>= next) frame = (next frame).apply frame :=
  rfl

/-- Steps that come to their end hand the frame over to the next ones. -/
theorem apply_bind (first : Body α) (next : α → Body β)
    : Body.apply (first >>= next) frame
      = match first.apply frame with
        | (.ok value, left) => (next value).apply left
        | (.error refusal, left) => (.error refusal, left) := by
  change (match first.apply frame with
    | (outcome, left) => (ExceptT.bindCont next outcome).run left) = _
  rcases first.apply frame with ⟨_ | _, left⟩ <;> rfl

/-- A check that is refused ends a call before its next step. -/
theorem apply_check_bind (outcome : Except Refusal α) (next : α → Body β)
    : Body.apply (check outcome >>= next) frame
      = match outcome with
        | .ok value => (next value).apply frame
        | .error refusal => (.error refusal, frame) := by
  cases outcome <;> rfl

/-- The end of steps that change the graph of the context only if a function of it succeeds. -/
def ended (frame : Frame)
    : Except (Failure GraphError) (Graph × α) → Except Refusal α × Frame
  | .ok (graph, value) =>
      (.ok value, { frame with context := { frame.context with graph := graph } })
  | .error failure => (.error (.ofFailure failure), frame)

theorem apply_onGraph {change : Graph.Change α}
    {outcome : Except (Failure GraphError) (Graph × α)}
    (ends : change.apply frame.context.graph = Graph.Change.ended frame.context.graph outcome)
    : (onGraph change).apply frame = ended frame outcome := by
  rw [onGraph, apply_get_bind, ends]
  cases outcome <;> rfl

/-- Extents are appended to those that were written before, by list induction. -/
theorem apply_writeDims (dims : List Nat) (frame : Frame)
    : (writeDims dims).apply frame
      = (.ok (),
          { frame with writes := { frame.writes with dims := frame.writes.dims ++ dims } }) := by
  induction dims generalizing frame with
  | nil => simp only [List.append_nil]; rfl
  | cons extent rest ih =>
      have first
          : (writeDims (extent :: rest)).apply frame
            = (writeDims rest).apply
                { frame with
                  writes := { frame.writes with dims := frame.writes.dims ++ [extent] } } :=
        rfl
      rw [first, ih]
      simp only [List.append_assoc, List.singleton_append]

-----------------------------------------------------------------------------------------
-- References
-----------------------------------------------------------------------------------------

/-- A check of a reference is refused just if the graph has no descriptor for it. -/
theorem apply_check_output_bind (node index : Nat) (next : Output → Body α)
    : Body.apply (check (graphRefusal (frame.context.output node index)) >>= next) frame
      = match frame.context.graph.outputDesc ⟨node, index⟩ with
        | .ok _ => (next ⟨node, index⟩).apply frame
        | .error cause => (.error (.graph cause), frame) := by
  rw [apply_check_bind, Context.output_eq]
  cases frame.context.graph.outputDesc ⟨node, index⟩ <;> rfl

/-- The references to two first outputs are checked before an operation on them is added, but the
graph would refuse it with the same errors.
-/
theorem apply_check_references (op : Op) (first second : Nat)
    : Body.apply
          (check (graphRefusal (frame.context.output first 0)) >>= fun x =>
            check (graphRefusal (frame.context.output second 0)) >>= fun y =>
              onGraph (.add op [x, y]) >>= writeNode)
          frame
      = Body.apply (onGraph (.add op [.first first, .first second]) >>= writeNode) frame := by
  have ends (cause : GraphError)
      (unseen
        : [.first first, .first second].mapM frame.context.graph.inferenceInput = .error cause)
      : Body.apply (onGraph (.add op [.first first, .first second]) >>= writeNode) frame
        = (.error (.graph cause), frame) := by
    rw [apply_bind, apply_onGraph (Graph.Change.apply_add op _ _), Graph.add_of_unseen unseen]
    rfl
  simp only [List.mapM_cons, Graph.inferenceInput, Output.first] at ends
  rw [apply_check_output_bind]
  cases known : frame.context.graph.outputDesc ⟨first, 0⟩ with
  | error cause =>
      rw [known] at ends
      exact (ends cause rfl).symm
  | ok desc =>
      dsimp only
      rw [apply_check_output_bind]
      cases others : frame.context.graph.outputDesc ⟨second, 0⟩ with
      | error cause =>
          rw [known, others] at ends
          exact (ends cause rfl).symm
      | ok axesDesc => rfl

end TensorGraph.Host.Body
