import TensorGraph.Graph.Command
import TensorGraph.Proofs.Encoding
import TensorGraph.Proofs.Graph.PostOrder
import TensorGraph.Proofs.Host.Arguments
import TensorGraph.Proofs.Host.Context

/-! The call that evaluates a graph and writes the results to the buffers of the caller.

The arguments are decoded and the graph evaluated before any buffer is written. The buffers are then
written in order, each with the image of its result, up to the first that does not suit its result.
-/

namespace TensorGraph.Host

-----------------------------------------------------------------------------------------
-- Evaluation of the decoded inputs
-----------------------------------------------------------------------------------------

/-- An input stands for a binding: its bytes are the image of a tensor as the first output of its
node is described.
-/
structure Input.Binds (graph : Graph) (input : Input) (binding : NodeId × Tensor) : Prop where
  node : binding.1 = input.node
  image
    : ∃ desc bytes,
        graph.outputDesc (.first input.node) = .ok desc
        ∧ Reads input.data input.length bytes
        ∧ Tensor.ofBytes desc.dtype desc.shape bytes = .ok binding.2

/-- The arguments fit the graph of the context, and under the bindings for which the inputs stand
the graph gives the tensors.
-/
structure Evaluates (context : Address Context) (inputs : Address (List Input)) (inputCount : Nat)
    (outputs : Address (List OutputBuffer)) (outputCount : Nat) (tensors : List Tensor)
    : Prop where
  evaluated
    : ∃ present listed bindings,
        context = some present
        ∧ Reads inputs inputCount listed
        ∧ List.Forall₂ (Input.Binds present.graph) listed bindings
        ∧ outputCount = present.graph.results.length
        ∧ (present.graph.execute [] bindings).outcome = .ok tensors
  addressed : 0 < outputCount → outputs ≠ none

/-- An execution gives one tensor for each result. -/
theorem length_of_execute {graph : Graph} {bindings : Graph.Bindings} {tensors : List Tensor}
    (executed : (graph.execute [] bindings).outcome = .ok tensors)
    : tensors.length = graph.results.length := by
  unfold Graph.execute at executed
  split at executed
  · cases executed
  · dsimp only at executed
    split at executed
    · cases executed
    · exact (mapM_eq_ok_iff.mp (orFailure_eq_ok_iff.mp executed)).length_eq.symm

variable {context : Context}

/-- An input is bound exactly if it stands for the binding. -/
theorem bindInput_eq_ok_iff {input : Input} {binding : NodeId × Tensor}
    : (slice input.data input.length "input data" >>= fun bytes =>
          graphRefusal (context.bind input.node bytes))
        = .ok binding
      ↔ input.Binds context.graph binding := by
  simp only [Context.bind_eq, bind_eq_ok_iff, slice_eq_ok_iff, graphRefusal_eq_ok_iff,
    map_eq_ok_iff, mapError_eq_ok_iff]
  constructor
  · rintro ⟨bytes, reads, desc, described, value, decoded, rfl⟩
    exact ⟨rfl, desc, bytes, described, reads, decoded⟩
  · obtain ⟨id, value⟩ := binding
    rintro ⟨rfl, desc, bytes, described, reads, decoded⟩
    exact ⟨bytes, reads, desc, described, value, decoded, rfl⟩

/-- The inputs are bound exactly if each of them stands for its binding, by list induction. -/
theorem bindAll_eq_ok_iff {inputs : List Input} {bindings : Graph.Bindings}
    : bindAll context inputs = .ok bindings
      ↔ List.Forall₂ (Input.Binds context.graph) inputs bindings := by
  induction inputs generalizing bindings with
  | nil =>
      rw [List.forall₂_nil_left_iff]
      exact ⟨fun bound => (Except.ok.inj bound).symm, fun none => congrArg Except.ok none.symm⟩
  | cons input rest ih =>
      rw [List.forall₂_cons_left_iff]
      simp only [bindAll, bind_eq_ok_iff, ← bindInput_eq_ok_iff, ih, Except.ok.injEq]
      constructor
      · rintro ⟨bytes, read, binding, bound, later, all, rfl⟩
        exact ⟨binding, later, ⟨bytes, read, bound⟩, all, rfl⟩
      · rintro ⟨binding, later, ⟨bytes, read, bound⟩, all, rfl⟩
        exact ⟨bytes, read, binding, bound, later, all, rfl⟩

/-- An evaluation gives tensors exactly if the arguments fit and the graph evaluates to them. -/
theorem evaluate_eq_ok_iff {context : Address Context} {inputs : Address (List Input)}
    {inputCount : Nat} {outputs : Address (List OutputBuffer)} {outputCount : Nat}
    {tensors : List Tensor}
    : evaluate context inputs inputCount outputs outputCount = .ok tensors
      ↔ Evaluates context inputs inputCount outputs outputCount tensors := by
  simp only [evaluate, bind_eq_ok_iff, required_eq_ok_iff, slice_eq_ok_iff]
  constructor
  · rintro ⟨present, ⟨given, -⟩, listed, reads, evaluated⟩
    split at evaluated
    · cases evaluated
    next counted =>
      split at evaluated
      · cases evaluated
      next addressed =>
        simp only [bind_eq_ok_iff, bindAll_eq_ok_iff, mapError_eq_ok_iff] at evaluated
        obtain ⟨bindings, bound, executed⟩ := evaluated
        refine ⟨⟨present, listed, bindings, given, reads, bound, not_not.mp counted, executed⟩, ?_⟩
        rintro needed rfl
        exact addressed ⟨needed, rfl⟩
  · rintro ⟨⟨present, listed, bindings, given, reads, bound, counted, executed⟩, addressed⟩
    refine ⟨present, ⟨given, trivial⟩, listed, reads, ?_⟩
    have unaddressed : ¬ (0 < outputCount ∧ outputs.isNone = true) := by
      rintro ⟨needed, null⟩
      exact addressed needed (Option.isNone_iff_eq_none.mp null)
    rw [if_neg (not_not.mpr counted), if_neg unaddressed]
    simp only [bind_eq_ok_iff, bindAll_eq_ok_iff, mapError_eq_ok_iff]
    exact ⟨bindings, bound, executed⟩

/-- What an evaluation gives depends on the arguments. -/
theorem Evaluates.unique {context : Address Context} {inputs : Address (List Input)}
    {inputCount : Nat} {outputs : Address (List OutputBuffer)} {outputCount : Nat}
    {tensors others : List Tensor}
    (evaluates : Evaluates context inputs inputCount outputs outputCount tensors)
    (again : Evaluates context inputs inputCount outputs outputCount others)
    : tensors = others :=
  Except.ok.inj ((evaluate_eq_ok_iff.mpr evaluates).symm.trans (evaluate_eq_ok_iff.mpr again))

/-- An evaluation gives one tensor for each result. -/
theorem Evaluates.length {context : Address Context} {inputs : Address (List Input)}
    {inputCount : Nat} {outputs : Address (List OutputBuffer)} {outputCount : Nat}
    {tensors : List Tensor}
    (evaluates : Evaluates context inputs inputCount outputs outputCount tensors)
    : tensors.length = outputCount := by
  obtain ⟨present, listed, bindings, -, -, -, rfl, executed⟩ := evaluates.evaluated
  exact length_of_execute executed

-----------------------------------------------------------------------------------------
-- Buffers
-----------------------------------------------------------------------------------------

namespace OutputBuffer

/-- A buffer can receive the image of a tensor: it is large enough, and there is memory unless the
image is empty.
-/
structure Suits (buffer : OutputBuffer) (tensor : Tensor) : Prop where
  room : tensor.toBytes.length ≤ buffer.capacity
  memory : tensor.toBytes ≠ [] → buffer.data ≠ none

/-- From a place on the bytes of a buffer are as before, and no memory came or went. -/
structure SameFrom (start : Nat) (before after : OutputBuffer) : Prop where
  capacity : after.capacity = before.capacity
  memory
    : List.Forall₂
        (fun old new =>
          new.length = old.length ∧ ∀ place, start ≤ place → new[place]? = old[place]?)
        before.data.toList after.data.toList

/-- A buffer receives a tensor: it starts with the image of the tensor, from which the elements can
be read back, and the number of these bytes is reported.
-/
structure Receives (tensor : Tensor) (before after : OutputBuffer) : Prop where
  kept : SameFrom tensor.toBytes.length before after
  written : after.written = tensor.toBytes.length
  image : ∀ memory, after.data = some memory → memory.take after.written = tensor.toBytes
  decodes
    : ∀ memory,
        after.data = some memory
        → Buffer.decode tensor.dtype (memory.take after.written) = tensor.buffer

variable {buffer before after : OutputBuffer} {tensor : Tensor}

theorem holds_iff : buffer.holds tensor.toBytes = true ↔ buffer.Suits tensor := by
  simp only [holds, Bool.and_eq_true, Bool.or_eq_true, decide_eq_true_eq, List.isEmpty_iff,
    Option.isSome_iff_ne_none]
  constructor
  · rintro ⟨room, memory⟩
    exact ⟨room, fun some => memory.resolve_left some⟩
  · rintro ⟨room, memory⟩
    exact ⟨room, Decidable.or_iff_not_imp_left.mpr memory⟩

theorem SameFrom.refl (start : Nat) (buffer : OutputBuffer) : SameFrom start buffer buffer :=
  ⟨rfl, List.forall₂_same.mpr fun _ _ => ⟨rfl, fun _ _ => rfl⟩⟩

theorem SameFrom.mono {first later : Nat} (same : SameFrom first before after)
    (le : first ≤ later)
    : SameFrom later before after :=
  ⟨same.capacity, same.memory.imp fun _ _ kept =>
    ⟨kept.1, fun place beyond => kept.2 place (Nat.le_trans le beyond)⟩⟩

end OutputBuffer

-----------------------------------------------------------------------------------------
-- The delivery of the results
-----------------------------------------------------------------------------------------

/-- Of a list of buffers the first ones suit their tensors and receive them, and the others are as
before.
-/
structure Delivered (tensors : List Tensor) (count : Nat) (before after : List OutputBuffer)
    : Prop where
  length : after.length = before.length
  received
    : ∀ place tensor,
        place < count
        → tensors[place]? = some tensor
        → ∃ old new,
            before[place]? = some old
            ∧ after[place]? = some new
            ∧ old.Suits tensor
            ∧ OutputBuffer.Receives tensor old new
  untouched : ∀ place, count ≤ place → after[place]? = before[place]?

theorem Delivered.none (tensors : List Tensor) (buffers : List OutputBuffer)
    : Delivered tensors 0 buffers buffers :=
  ⟨rfl, fun _ _ below => absurd below (Nat.not_lt_zero _), fun _ _ => rfl⟩

theorem Delivered.cons {tensor : Tensor} {tensors : List Tensor} {count : Nat}
    {buffer filled : OutputBuffer} {before after : List OutputBuffer}
    (suits : buffer.Suits tensor) (receives : OutputBuffer.Receives tensor buffer filled)
    (later : Delivered tensors count before after)
    : Delivered (tensor :: tensors) (count + 1) (buffer :: before) (filled :: after) := by
  refine ⟨by simp [later.length], ?_, ?_⟩
  · intro place other below found
    cases place with
    | zero =>
        cases found
        exact ⟨buffer, filled, rfl, rfl, suits, receives⟩
    | succ place => exact later.received place other (Nat.lt_of_succ_lt_succ below) found
  · intro place beyond
    cases place with
    | zero => cases beyond
    | succ place => exact later.untouched place (Nat.le_of_succ_le_succ beyond)

variable {context : Address Context} {inputs : Address (List Input)} {inputCount : Nat}
  {outputs : Address (List OutputBuffer)} {outputCount : Nat}

namespace Session

end Session

end TensorGraph.Host
