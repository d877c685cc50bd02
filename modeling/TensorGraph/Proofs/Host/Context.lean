import TensorGraph.Host.Context
import TensorGraph.Proofs.Traversal

/-! The operations by raw indices and bytes are those of the graph.

A raw index is looked up before it is used, but the graph refuses a reference with the same error.
-/

namespace TensorGraph

namespace Graph

variable {graph : Graph}

/-- A missing descriptor is the fault of the reference: it names no node, or no output of one. -/
theorem outputDesc_eq_error {output : Output} {cause : GraphError}
    (missing : graph.outputDesc output = .error cause)
    : cause = .invalidNode output.node ∨ cause = .invalidOutput output := by
  unfold outputDesc node at missing
  split at missing
  next absent =>
    split at absent
    · cases absent
    · cases absent
      cases missing
      exact .inl rfl
  · split at missing
    · cases missing
    · cases missing
      exact .inr rfl

/-- A node that is added gets the number of the nodes before it as its id. -/
theorem id_of_add {changed : Graph} {op : Op} {inputs : List Output} {id : NodeId}
    (added : graph.add op inputs = .ok (changed, id))
    : id = graph.size := by
  simp only [add, bind_eq_ok_iff, Except.ok.injEq, Prod.mk.injEq] at added
  obtain ⟨-, -, -, -, -, rfl⟩ := added
  rfl

end Graph

namespace Host.Context

variable {context : Context} {node index : Nat}

/-- A reference to an output can be made exactly if the graph has a descriptor for it. -/
theorem output_eq (context : Context) (node index : Nat)
    : context.output node index
      = (context.graph.outputDesc ⟨node, index⟩).map fun _ => ⟨node, index⟩ := by
  unfold output Graph.nodeId Graph.outputDesc
  cases found : context.graph.node node with
  | error cause => rfl
  | ok here =>
      simp only [Bind.bind, Except.bind, Except.map, found]

theorem outputDesc_eq (context : Context) (node index : Nat)
    : context.outputDesc node index = context.graph.outputDesc ⟨node, index⟩ := by
  unfold outputDesc
  rw [output_eq]
  cases found : context.graph.outputDesc ⟨node, index⟩ with
  | error cause => rfl
  | ok desc => exact found

/-- A node that has a descriptor exists. -/
theorem bind_eq (context : Context) (node : Nat) (bytes : Bytes)
    : context.bind node bytes
      = context.graph.outputDesc (.first node) >>= fun desc =>
          ((Tensor.ofBytes desc.dtype desc.shape bytes).mapError .tensor).map
            fun value => (node, value) := by
  unfold Context.bind Graph.nodeId Graph.outputDesc Output.first
  cases found : context.graph.node node with
  | error cause => rfl
  | ok here =>
      simp only [Bind.bind, Except.bind, Except.map, found]

end Host.Context

end TensorGraph
