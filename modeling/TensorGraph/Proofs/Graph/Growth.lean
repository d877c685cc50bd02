import TensorGraph.Proofs.Graph.Names

/-! A graph only grows.

A command that makes one change leaves the graph as it was if it fails. If it succeeds it appends at
most one node, and of the other nodes a renaming changes one name and a redirection changes inputs.
So a node keeps its place, its operation and its outputs for good.
-/

namespace TensorGraph.Graph

variable {graph changed : Graph} {command : Command}

-----------------------------------------------------------------------------------------
-- One command
-----------------------------------------------------------------------------------------

/-- The commands that make one change. The simplifications make a series of changes, and those made
before a failure stay.
-/
def Command.Single : Command → Prop
  | .foldConstants | .eliminateEmpty | .prepare _ => False
  | _ => True

/-- What a command leaves of the node at a place: all but the name, if the command renames the node
at this place, and the inputs, if it redirects uses.
-/
structure Command.Keeps (command : Command) (place : NodeId) (node later : Node) : Prop where
  id : later.id = node.id
  op : later.op = node.op
  outputs : later.outputs = node.outputs
  name : later.name = node.name ∨ ∃ name, command = .setName place name
  inputs : later.inputs = node.inputs ∨ ∃ old new, command = .replaceUses old new

/-- What a command that succeeds makes of a graph at most. It appends one node or none and reports
the place of a new node; only a new result and a redirection change the results.
-/
structure Command.Grows (command : Command) (graph changed : Graph) (reply : Reply) : Prop where
  kept
    : ∀ {id : NodeId} {node : Node},
        graph.nodes[id]? = some node
        → ∃ later, changed.nodes[id]? = some later ∧ command.Keeps id node later
  grown
    : changed.nodes.length = graph.nodes.length
      ∨ reply = .node graph.nodes.length
        ∧ ∃ node, node.id = graph.nodes.length ∧ changed.nodes = graph.nodes ++ [node]
  results
    : changed.results = graph.results
      ∨ (∃ output, command = .addResult output ∧ changed.results = graph.results ++ [output])
      ∨ ∃ old new, command = .replaceUses old new

theorem Command.Keeps.refl (command : Command) (place : NodeId) (node : Node)
    : command.Keeps place node node :=
  ⟨rfl, rfl, rfl, .inl rfl, .inl rfl⟩

/-- Adding a node grows a graph, whichever command does it. -/
theorem Command.grows_of_add (command : Command) {op : Op} {inputs : List Output} {id : NodeId}
    (success : graph.add op inputs = .ok (changed, id))
    : command.Grows graph changed (.node id) := by
  obtain ⟨rfl, _, inferred, outputs, name, -, -, extension⟩ := extends_of_add success
  refine ⟨?_, .inr ⟨rfl, ⟨_, name, inferred, inputs, outputs⟩, rfl, extension.nodes⟩,
    .inl extension.results⟩
  intro id node found
  exact ⟨node, extension.found_iff.mpr (.inl found), .refl command id node⟩

theorem Command.grows_of_replaceUses {old new : Output} {count : Nat}
    (success : graph.replaceUses old new = .ok (changed, count))
    : (Command.replaceUses old new).Grows graph changed (.count count) := by
  obtain ⟨-, -, rfl, -⟩ := replaceUses_eq_ok success
  refine ⟨?_, .inl (List.length_map _), .inr (.inr ⟨old, new, rfl⟩)⟩
  intro id node found
  exact ⟨_, redirected_found_iff.mpr ⟨node, found, rfl⟩, redirectNode_id .., redirectNode_op ..,
    redirectNode_outputs .., .inl (redirectNode_name ..), .inr ⟨old, new, rfl⟩⟩

theorem Command.grows_of_setName {id : NodeId} {name : String}
    (success : graph.setName id name = .ok changed)
    : (Command.setName id name).Grows graph changed .done := by
  obtain ⟨_, -, ⟨-, rfl⟩ | ⟨-, -, rfl⟩⟩ := setName_eq_ok_iff.mp success
  · exact ⟨fun found => ⟨_, found, .refl ..⟩, .inl rfl, .inl rfl⟩
  · refine ⟨?_, .inl (List.length_modify ..), .inl rfl⟩
    intro place node found
    simp only [List.getElem?_modify, found, Option.map_eq_map, Option.map_some,
      Option.some.injEq, exists_eq_left']
    split
    next same =>
      subst same
      exact ⟨rfl, rfl, rfl, .inr ⟨name, rfl⟩, .inl rfl⟩
    · exact .refl ..

theorem Command.grows_of_addResult {output : Output}
    (success : graph.addResult output = .ok changed)
    : (Command.addResult output).Grows graph changed .done := by
  obtain ⟨-, rfl⟩ := addResult_eq_ok success
  exact ⟨fun found => ⟨_, found, .refl ..⟩, .inl rfl, .inr (.inl ⟨output, rfl, rfl⟩)⟩

/-- A step that leaves the graph if it fails, and grows it as the command allows if it succeeds. -/
def Step.Fits (step : Step) (command : Command) (graph : Graph) : Prop :=
  (∀ failure, step.outcome = .error failure → step.graph = graph)
  ∧ ∀ reply, step.outcome = .ok reply → command.Grows graph step.graph reply

theorem Step.fits_of_success {α : Type} {reply : α → Reply}
    {outcome : Except (Failure GraphError) (Graph × α)}
    (success
      : ∀ {changed value},
          outcome = .ok (changed, value) → command.Grows graph changed (reply value))
    : (Step.ofExcept graph reply outcome).Fits command graph := by
  cases outcome with
  | error failure =>
      refine ⟨fun _ _ => rfl, ?_⟩
      intro reply impossible
      cases impossible
  | ok pair =>
      refine ⟨?_, ?_⟩
      · intro failure impossible
        cases impossible
      · rintro _ ⟨⟩
        exact success rfl

/-- A command that makes one change leaves the graph as it was if it fails. If it succeeds, every
node keeps its place, its operation and its outputs; only a renaming changes a name, that of one
node; only a redirection changes inputs or earlier results; and at most one node is appended, whose
place is reported. By cases on the command.
-/
theorem Command.Single.perform_fits (single : command.Single) (graph : Graph)
    : (graph.perform command).Fits command graph := by
  rw [perform_eq]
  cases command with
  | parameter | constant | add =>
      exact Step.fits_of_success fun success =>
        Command.grows_of_add _ (orFailure_eq_ok_iff.mp success)
  | clone id inputs =>
      apply Step.fits_of_success
      intro changed place success
      have cloned := orFailure_eq_ok_iff.mp success
      simp only [cloneNode, bind_eq_ok_iff] at cloned
      obtain ⟨node, -, cloned⟩ := cloned
      split at cloned
      · cases cloned
      · exact Command.grows_of_add _ cloned
  | addDefault id =>
      apply Step.fits_of_success
      intro changed place success
      obtain ⟨_, _, _, -, -, -, added⟩ := addDefault_eq_ok success
      exact Command.grows_of_add _ added
  | replaceUses old new =>
      exact Step.fits_of_success fun success =>
        Command.grows_of_replaceUses (orFailure_eq_ok_iff.mp success)
  | setName id name =>
      apply Step.fits_of_success
      intro changed _ success
      obtain ⟨renamed, done, same⟩ := map_eq_ok_iff.mp success
      cases same
      exact Command.grows_of_setName (orFailure_eq_ok_iff.mp done)
  | addResult output =>
      apply Step.fits_of_success
      intro changed _ success
      obtain ⟨extended, done, same⟩ := map_eq_ok_iff.mp success
      cases same
      exact Command.grows_of_addResult (orFailure_eq_ok_iff.mp done)
  | foldConstants | eliminateEmpty | prepare => exact single.elim

/-- A sum whose list of axes is a parameter is refused; a second parameter is appended. -/
theorem takenName_perform_fits
    : (Command.add (.reduction ⟨.sum, false, .empty⟩) [⟨0, 0⟩, ⟨0, 0⟩]).Single
      ∧ (Command.parameter ⟨.i64, ⟨[1]⟩⟩).Single
      ∧ (∃ failure,
          (takenName.perform (.add (.reduction ⟨.sum, false, .empty⟩) [⟨0, 0⟩, ⟨0, 0⟩])).outcome
          = .error failure)
      ∧ (takenName.perform (.add (.reduction ⟨.sum, false, .empty⟩) [⟨0, 0⟩, ⟨0, 0⟩])).graph
        = takenName
      ∧ (takenName.perform (.parameter ⟨.i64, ⟨[1]⟩⟩)).outcome = .ok (.node 1)
      ∧ (Command.parameter ⟨.i64, ⟨[1]⟩⟩).Grows takenName
          (takenName.perform (.parameter ⟨.i64, ⟨[1]⟩⟩)).graph (.node 1) := by
  have sum : (Command.add (.reduction ⟨.sum, false, .empty⟩) [⟨0, 0⟩, ⟨0, 0⟩]).Single := trivial
  have parameter : (Command.parameter ⟨.i64, ⟨[1]⟩⟩).Single := trivial
  obtain ⟨refused, -⟩ := Command.Single.perform_fits sum takenName
  obtain ⟨-, appended⟩ := Command.Single.perform_fits parameter takenName
  exact ⟨sum, parameter, ⟨_, rfl⟩, refused _ rfl, rfl, appended _ rfl⟩

-----------------------------------------------------------------------------------------
-- Every history
-----------------------------------------------------------------------------------------

/-- The nodes of a graph are in a later one at their places, with their operations and outputs. -/
def Remains (graph later : Graph) : Prop :=
  ∀ (id : NodeId) (node : Node),
    graph.nodes[id]? = some node
    → ∃ other,
        later.nodes[id]? = some other
        ∧ other.id = node.id
        ∧ other.op = node.op
        ∧ other.outputs = node.outputs

theorem Remains.refl (graph : Graph) : graph.Remains graph :=
  fun _ node found => ⟨node, found, rfl, rfl, rfl⟩

theorem Remains.trans {later last : Graph} (first : graph.Remains later)
    (second : later.Remains last)
    : graph.Remains last := by
  intro id node found
  obtain ⟨other, found, sameId, op, outputs⟩ := first id node found
  obtain ⟨final, found, finalId, finalOp, finalOutputs⟩ := second id other found
  exact ⟨final, found, finalId.trans sameId, finalOp.trans op, finalOutputs.trans outputs⟩

theorem Command.Grows.remains {reply : Reply} (grows : command.Grows graph changed reply)
    : graph.Remains changed := by
  intro id node found
  obtain ⟨later, stored, keeps⟩ := grows.kept found
  exact ⟨later, stored, keeps.id, keeps.op, keeps.outputs⟩

/-- The nodes remain through a mutation, which some command makes. -/
theorem Mutation.remains {replaceable : Replaceable} (mutation : Mutation replaceable graph changed)
    : graph.Remains changed := by
  cases mutation with
  | @add op inputs _ _ success => exact (Command.grows_of_add (.add op inputs) success).remains
  | replace _ success => exact (Command.grows_of_replaceUses success).remains
  | rename success => exact (Command.grows_of_setName success).remains
  | result success => exact (Command.grows_of_addResult success).remains

/-- The nodes remain through every command, the simplifications among them, by induction on the
commands.
-/
theorem Reachable.performAll_remains (reachable : graph.Reachable) (commands : List Command)
    : graph.Remains (graph.performAll commands) := by
  induction commands generalizing graph with
  | nil => exact .refl graph
  | cons command rest ih =>
      have mutations
          : Mutations (fun _ _ => True) graph (graph.perform command).graph :=
        perform_mutations (fun _ _ _ => trivial) reachable.wellFormed
          (command.admitted_of_all graph)
      have here : graph.Remains (graph.perform command).graph :=
        mutations.invariant (fun _ remains mutation => remains.trans mutation.remains)
          reachable.wellFormed (.refl graph)
      exact here.trans (ih (reachable.perform command))

end TensorGraph.Graph
