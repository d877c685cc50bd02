import TensorGraph.Proofs.Graph.Messages
import TensorGraph.Proofs.Host.Steps

/-! The messages of the calls of a host hold no NUL character, as no call passes a text. -/

namespace TensorGraph.Host

/-- The texts of a refusal hold no NUL character. -/
def Refusal.Clean : Refusal → Prop
  | argument reason => NulFree reason
  | graph cause => cause.Clean
  | fault _ => True

theorem Refusal.Clean.nulFree {refusal : Refusal} (clean : refusal.Clean)
    : NulFree refusal.message := by
  cases refusal with
  | argument reason => exact clean
  | graph cause => exact GraphError.Clean.nulFree clean
  | fault stop => exact .fixed rfl

-----------------------------------------------------------------------------------------
-- Arguments
-----------------------------------------------------------------------------------------

theorem required_clean (context : Address Context) (addressed : Bool)
    : ErrorsAre Refusal.Clean (required context addressed) := by
  intro refusal refused
  rw [required_eq_error refused]
  exact .fixed rfl

theorem slice_clean {α : Type} (address : Address (List α)) (count : Nat) {what : String}
    (named : NulFree what)
    : ErrorsAre Refusal.Clean (slice address count what) := by
  intro refusal refused
  rw [slice_eq_error refused]
  exact .append named (.fixed rfl)

theorem elementType_clean (tag : Nat) : ErrorsAre Refusal.Clean (elementType tag) := by
  intro refusal refused
  rw [elementType_eq_error refused]
  exact .append (.fixed rfl) (.natural tag)

theorem reductionKind_clean (tag : Nat) : ErrorsAre Refusal.Clean (reductionKind tag) := by
  intro refusal refused
  rw [reductionKind_eq_error refused]
  exact .append (.fixed rfl) (.natural tag)

theorem graphRefusal_clean {α : Type} {outcome : Except GraphError α}
    (clean : ErrorsAre GraphError.Clean outcome)
    : ErrorsAre Refusal.Clean (graphRefusal outcome) :=
  clean.mapError fun _ holds => holds

theorem ofFailure_clean {α : Type} {outcome : Except (Failure GraphError) α}
    (clean : ErrorsAre Failure.Clean outcome)
    : ErrorsAre Refusal.Clean (outcome.mapError .ofFailure) := by
  refine ErrorsAre.mapError clean ?_
  intro failure holds
  cases failure with
  | error cause => exact holds
  | fault stop => exact trivial

-----------------------------------------------------------------------------------------
-- Steps
-----------------------------------------------------------------------------------------

namespace Body

variable {α β : Type}

/-- The refusals of steps have clean texts, whatever the frame. -/
def Clean (body : Body α) : Prop :=
  ∀ frame, ErrorsAre Refusal.Clean (body.apply frame).1

theorem Clean.check {outcome : Except Refusal α} (clean : ErrorsAre Refusal.Clean outcome)
    : (Body.check outcome).Clean := by
  intro frame
  cases outcome with
  | error refusal => exact .error (clean refusal rfl)
  | ok value => exact .ok value

theorem Clean.pure (value : α) : Clean (Pure.pure value) :=
  fun _ => .ok value

theorem Clean.write (assign : Writes → Writes) : (Body.write assign).Clean :=
  fun _ => .ok ()

/-- Steps are refused as the first ones are, or as the next ones after them. -/
theorem Clean.bind {first : Body α} {next : α → Body β} (now : first.Clean)
    (later : ∀ value, (next value).Clean)
    : Clean (first >>= next) := by
  intro frame
  rw [apply_bind]
  have here := now frame
  generalize first.apply frame = ended at here
  rcases ended with ⟨refusal | value, left⟩
  · exact .error (here refusal rfl)
  · exact later value left

/-- Steps may look at the frame first. -/
theorem Clean.get {next : Frame → Body α} (later : ∀ frame, (next frame).Clean)
    : Clean (MonadState.get >>= next) :=
  fun frame => later frame frame

/-- A change is refused as the function of the graph that it does. -/
theorem Clean.onGraph {change : Graph.Change α}
    {outcome : Graph → Except (Failure GraphError) (Graph × α)}
    (ends : ∀ graph, change.apply graph = Graph.Change.ended graph (outcome graph))
    (clean : ∀ graph, ErrorsAre Failure.Clean (outcome graph))
    : (Body.onGraph change).Clean := by
  intro frame
  rw [apply_onGraph (ends frame.context.graph)]
  have here := ofFailure_clean (clean frame.context.graph)
  cases result : outcome frame.context.graph with
  | error failure =>
      rw [result] at here
      exact .error (here _ rfl)
  | ok pair => exact .ok pair.2

theorem Clean.add {op : Op} {inputs : List Output}
    (clean : ∀ graph : Graph, ErrorsAre GraphError.Clean (graph.add op inputs))
    : (Body.onGraph (.add op inputs)).Clean :=
  .onGraph (Graph.Change.apply_add op inputs) fun graph => orFailure_clean (clean graph)

theorem Clean.writeDims (dims : List Nat) : (Body.writeDims dims).Clean := by
  intro frame
  rw [apply_writeDims]
  exact .ok ()

end Body

-----------------------------------------------------------------------------------------
-- Calls
-----------------------------------------------------------------------------------------

theorem addParameter_clean (tag : Nat) (dims : Address (List Nat)) (rank : Nat)
    : (addParameter tag dims rank).Clean := by
  refine .bind (.check (elementType_clean tag)) fun dtype => ?_
  refine .bind (.check (slice_clean dims rank (.fixed rfl))) fun extents => ?_
  exact .bind (.add fun graph => graph.addParameter_clean _) fun id => .write _

theorem addConstant_clean (tag : Nat) (dims : Address (List Nat)) (rank : Nat)
    (data : Address Bytes) (length : Nat)
    : (addConstant tag dims rank data length).Clean := by
  refine .bind (.check (elementType_clean tag)) fun dtype => ?_
  refine .bind (.check ?_) ?_
  · intro refusal refused
    rcases slices_eq_error refused with refused | refused
    · exact slice_clean dims rank (.fixed rfl) refusal refused
    · exact slice_clean data length (.fixed rfl) refusal refused
  · rintro ⟨extents, bytes⟩
    have decoded :=
      graphRefusal_clean (tensorError_clean (Tensor.ofBytes_clean dtype ⟨extents⟩ bytes))
    refine .bind (.check decoded) fun value => ?_
    exact .bind (.add fun graph => graph.addConstant_clean value) fun id => .write _

theorem output_clean (context : Context) (node index : Nat)
    : ErrorsAre Refusal.Clean (graphRefusal (context.output node index)) := by
  rw [Context.output_eq]
  exact graphRefusal_clean ((context.graph.outputDesc_clean _).map _)

theorem addReduction_clean (tag data axes : Nat) (keepDims : Bool)
    : (addReduction tag data axes keepDims).Clean := by
  refine .bind (.check (reductionKind_clean tag)) fun kind => .get fun frame => ?_
  refine .bind (.check (output_clean frame.context data 0)) fun dataOutput => ?_
  refine .bind (.check (output_clean frame.context axes 0)) fun axesOutput => ?_
  exact .bind (.add fun graph => graph.addReduction_clean _ _) fun id => .write _

theorem addResult_clean (node index : Nat) : (addResult node index).Clean := by
  refine .get fun frame => .bind (.check (output_clean frame.context node index)) fun output => ?_
  exact .onGraph (Graph.Change.apply_addResult output) fun graph =>
    (orFailure_clean (graph.addResult_clean output)).map _

theorem outputShape_clean (node index : Nat) (dimsVariable : Bool) (capacity : Nat)
    : (outputShape node index dimsVariable capacity).Clean := by
  refine .get fun frame => ?_
  rw [Context.outputDesc_eq]
  refine .bind (.check (graphRefusal_clean (frame.context.graph.outputDesc_clean _))) fun desc => ?_
  split
  · exact fun _ => .error (.fixed rfl)
  · exact .bind (.write _) fun _ => .bind (.write _) fun _ => .writeDims _

theorem prepare_clean (countVariable : Bool) : (prepare countVariable).Clean := by
  refine .get fun frame => .bind (fun _ => .ok ()) fun _ => ?_
  refine .bind (.check (ofFailure_clean (frame.context.graph.prepare_clean _))) fun count => ?_
  split
  · exact .write _
  · exact .pure ()

/-- Inputs are refused as one of them, by list induction. -/
theorem bindAll_clean (context : Context) (inputs : List Input)
    : ErrorsAre Refusal.Clean (bindAll context inputs) := by
  induction inputs with
  | nil => exact .ok _
  | cons input rest ih =>
      refine .bind (slice_clean _ _ (.fixed rfl)) fun bytes => ?_
      refine .bind ?_ fun binding => .bind ih fun later => .ok _
      rw [Context.bind_eq]
      refine graphRefusal_clean (.bind (context.graph.outputDesc_clean _) fun desc => ?_)
      exact (tensorError_clean (Tensor.ofBytes_clean _ _ _)).map _

theorem evaluate_clean (context : Address Context) (inputs : Address (List Input))
    (inputCount : Nat) (outputs : Address (List OutputBuffer)) (outputCount : Nat)
    : ErrorsAre Refusal.Clean (evaluate context inputs inputCount outputs outputCount) := by
  refine .bind (required_clean context true) fun present => ?_
  refine .bind (slice_clean inputs inputCount (.fixed rfl)) fun listed => ?_
  dsimp only
  split
  · exact .error (.append (.append (.append (.append (.fixed rfl) (.natural _)) (.fixed rfl))
      (.natural outputCount)) (.fixed rfl))
  · split
    · exact .error (.fixed rfl)
    · refine .bind (bindAll_clean present listed) fun bindings => ?_
      exact ofFailure_clean (present.graph.execute_clean [] bindings)

/-- A delivery is refused for one of the buffers, by induction on the tensors. -/
theorem deliver_clean (index : Nat) (tensors : List Tensor) (buffers : List OutputBuffer)
    : ErrorsAre Refusal.Clean (deliver index tensors buffers).2 := by
  induction tensors generalizing index buffers with
  | nil => exact .ok _
  | cons tensor rest ih =>
      cases buffers with
      | nil => exact .ok _
      | cons buffer others =>
          rw [deliver]
          dsimp only
          split
          · exact ih (index + 1) others
          · exact .error (.append (.append (.append (.append (.append (.fixed rfl) (.natural index))
              (.fixed rfl)) (.natural _)) (.fixed rfl)) (.natural buffer.capacity))

theorem execute_clean (context : Address Context) (inputs : Address (List Input))
    (inputCount : Nat) (outputs : Address (List OutputBuffer)) (outputCount : Nat)
    : ErrorsAre Refusal.Clean (execute context inputs inputCount outputs outputCount).2 := by
  unfold execute
  split
  next refusal refused => exact .error (evaluate_clean _ _ _ _ _ refusal refused)
  · split
    · exact .ok _
    · exact deliver_clean 0 _ _

end TensorGraph.Host
