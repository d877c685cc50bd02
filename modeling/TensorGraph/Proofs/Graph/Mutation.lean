import TensorGraph.Proofs.Graph.InPlace
import TensorGraph.Proofs.Graph.Relinking

/-! Every command changes a graph by a series of four kinds of mutation: a node is added, an output
is replaced, a node is renamed, a result is added. What all mutations keep, every reachable graph
has.
-/

namespace TensorGraph.Graph

open Relation

/-- One change that a command makes. Outputs of constants and what else is not replaceable keep
their uses.
-/
inductive Mutation (replaceable : Replaceable) (graph : Graph) : Graph → Prop
  | add {op : Op} {inputs : List Output} {added : Graph} {id : NodeId}
    (success : graph.add op inputs = .ok (added, id))
    : Mutation replaceable graph added
  | replace {old new : Output} {changed : Graph} {count : Nat}
    (permitted : replaceable graph old)
    (success : graph.replaceUses old new = .ok (changed, count))
    : Mutation replaceable graph changed
  | rename {id : NodeId} {name : String} {renamed : Graph}
    (success : graph.setName id name = .ok renamed)
    : Mutation replaceable graph renamed
  | result {output : Output} {extended : Graph}
    (success : graph.addResult output = .ok extended)
    : Mutation replaceable graph extended

/-- A series of mutations. -/
abbrev Mutations (replaceable : Replaceable) : Graph → Graph → Prop :=
  ReflTransGen (Mutation replaceable)

/-- A renaming changes nothing but the name of a node. -/
theorem nodes_of_setName {graph renamed : Graph} {id : NodeId} {name : String}
    (success : graph.setName id name = .ok renamed)
    : renamed.results = graph.results
      ∧ ∀ place : NodeId,
          ∃ names : String → String,
            renamed.nodes[place]?
            = graph.nodes[place]?.map fun node => { node with name := names node.name } := by
  simp only [setName, bind_eq_ok_iff] at success
  obtain ⟨node, found, success⟩ := success
  split at success
  · cases success
    exact ⟨rfl, fun place => ⟨fun kept => kept, by simp⟩⟩
  · split at success
    · exact absurd success (by simp)
    · cases success
      refine ⟨rfl, ?_⟩
      intro place
      rw [List.getElem?_modify]
      by_cases same : id = place
      · exact ⟨fun _ => name, by simp [same]⟩
      · exact ⟨fun kept => kept, by simp [same]⟩

/-- A node of a renamed graph is a node from before under some name. -/
theorem renamed_of_found {graph renamed : Graph} {id : NodeId} {name : String}
    (success : graph.setName id name = .ok renamed) {place : NodeId} {node : Node}
    (found : renamed.nodes[place]? = some node)
    : ∃ before name, graph.nodes[place]? = some before ∧ node = { before with name := name } := by
  obtain ⟨-, nodes⟩ := nodes_of_setName success
  obtain ⟨names, same⟩ := nodes place
  rw [same, Option.map_eq_some_iff] at found
  obtain ⟨before, stored, rfl⟩ := found
  exact ⟨before, _, stored, rfl⟩

theorem found_of_setName {graph renamed : Graph} {id : NodeId} {name : String}
    (success : graph.setName id name = .ok renamed) {place : NodeId} {node : Node}
    (found : graph.nodes[place]? = some node)
    : ∃ name, renamed.nodes[place]? = some { node with name := name } := by
  obtain ⟨-, nodes⟩ := nodes_of_setName success
  obtain ⟨names, same⟩ := nodes place
  rw [found] at same
  exact ⟨_, same⟩

theorem WellFormed.setName {graph renamed : Graph} (wellFormed : graph.WellFormed)
    {id : NodeId} {name : String} (success : graph.setName id name = .ok renamed)
    : renamed.WellFormed := by
  obtain ⟨results, -⟩ := nodes_of_setName success
  have owned {output : Output} (before : graph.HasOutput output) : renamed.HasOutput output := by
    obtain ⟨node, found, index⟩ := before
    obtain ⟨_, stored⟩ := found_of_setName success found
    exact ⟨_, stored, index⟩
  refine {
    placed := ?_
    settled := ?_
    edges := ?_
    results := ?_
    acyclic := ?_
  }
  · intro place node found
    obtain ⟨before, _, kept, rfl⟩ := renamed_of_found success found
    have placed : before.id = place := wellFormed.placed kept
    exact placed
  · intro place node found
    obtain ⟨before, _, kept, rfl⟩ := renamed_of_found success found
    have settled : before.Settled := wellFormed.settled kept
    exact settled
  · intro place node found input member
    obtain ⟨before, _, kept, rfl⟩ := renamed_of_found success found
    exact owned (wellFormed.edges kept input member)
  · intro result member
    exact owned (wellFormed.results result (results ▸ member))
  · refine Subrelation.wf ?_ wellFormed.acyclic
    rintro source reader ⟨node, found, reading⟩
    obtain ⟨before, _, kept, rfl⟩ := renamed_of_found success found
    exact ⟨before, kept, reading⟩

theorem addResult_eq_ok {graph extended : Graph} {output : Output}
    (success : graph.addResult output = .ok extended)
    : graph.HasOutput output
      ∧ extended = { graph with results := graph.results ++ [output] } := by
  simp only [addResult, bind_eq_ok_iff, Except.ok.injEq] at success
  obtain ⟨desc, described, rfl⟩ := success
  exact ⟨hasOutput_iff_outputDesc.mpr ⟨desc, described⟩, rfl⟩

theorem WellFormed.addResult {graph extended : Graph} (wellFormed : graph.WellFormed)
    {output : Output} (success : graph.addResult output = .ok extended)
    : extended.WellFormed := by
  obtain ⟨owned, rfl⟩ := addResult_eq_ok success
  refine { wellFormed with results := ?_ }
  intro result member
  rcases List.mem_append.mp member with before | last
  · exact wellFormed.results result before
  · exact List.mem_singleton.mp last ▸ owned

-----------------------------------------------------------------------------------------
-- Mutations keep a graph well-formed
-----------------------------------------------------------------------------------------

theorem WellFormed.mutation {replaceable : Replaceable} {graph changed : Graph}
    (wellFormed : graph.WellFormed) (mutation : Mutation replaceable graph changed)
    : changed.WellFormed := by
  cases mutation with
  | add success => exact wellFormed.add success
  | replace _ success => exact wellFormed.replaceUses success
  | rename success => exact wellFormed.setName success
  | result success => exact wellFormed.addResult success

theorem WellFormed.mutations {replaceable : Replaceable} {graph changed : Graph}
    (wellFormed : graph.WellFormed) (mutations : Mutations replaceable graph changed)
    : changed.WellFormed := by
  induction mutations with
  | refl => exact wellFormed
  | tail _ last ih => exact ih.mutation last

-----------------------------------------------------------------------------------------
-- Simplifications as series of mutations
-----------------------------------------------------------------------------------------

/-- Outputs that are not those of constants are replaceable. -/
def Replaceable.Lenient (replaceable : Replaceable) : Prop :=
  ∀ graph old, graph.constantValue? old = none → replaceable graph old

/-- A place whose node, if there is one, is not a constant. -/
def Computed (graph : Graph) (id : NodeId) : Prop :=
  ∃ node, graph.nodes[id]? = some node ∧ node.op.constantValue? = none

theorem Computed.constantValue? {graph : Graph} {id : NodeId} (computed : graph.Computed id)
    (index : Nat)
    : graph.constantValue? ⟨id, index⟩ = none := by
  obtain ⟨node, found, free⟩ := computed
  apply Option.eq_none_iff_forall_ne_some.mpr
  intro value known
  obtain ⟨-, other, stored, constant⟩ := constantValue?_eq_some_iff.mp known
  rw [found] at stored
  cases stored
  rw [free] at constant
  cases constant

theorem Extends.computed {graph extended : Graph} {added : Node}
    (extension : graph.Extends extended added) {id : NodeId} (computed : graph.Computed id)
    : extended.Computed id := by
  obtain ⟨node, found, free⟩ := computed
  exact ⟨node, extension.found_iff.mpr (.inl found), free⟩

theorem Computed.redirected {graph : Graph} {id : NodeId} (computed : graph.Computed id)
    (old new : Output)
    : (graph.redirected old new).Computed id := by
  obtain ⟨node, found, free⟩ := computed
  refine ⟨_, redirected_found_iff.mpr ⟨node, found, rfl⟩, ?_⟩
  rw [redirectNode_op]
  exact free

/-- A new constant is a mutation and so is a redirection to it from an output of a node that is no
constant, and that node stays so.
-/
theorem Computed.replacement_mutations {replaceable : Replaceable}
    (lenient : replaceable.Lenient) {graph extended : Graph} {id replacement : NodeId}
    (computed : graph.Computed id) {value : Tensor}
    (added : graph.addConstant value = .ok (extended, replacement)) (index : Nat)
    : Mutations replaceable graph extended
      ∧ ∀ {relinked count},
          extended.replaceUses ⟨id, index⟩ (.first replacement) = .ok (relinked, count)
          → Mutations replaceable graph relinked ∧ relinked.Computed id := by
  obtain ⟨-, _, _, _, _, -, -, extension⟩ := extends_of_add added
  have extendedComputed := extension.computed computed
  have first : Mutation replaceable graph extended := .add added
  refine ⟨.single first, ?_⟩
  intro relinked count replaced
  have second : Mutation replaceable extended relinked :=
    .replace (lenient _ _ (extendedComputed.constantValue? index)) replaced
  obtain ⟨-, -, rfl, -⟩ := replaceUses_eq_ok replaced
  exact ⟨.head first (.single second), extendedComputed.redirected _ _⟩

/-- Replacing outputs of a node by constants is a series of mutations, by induction on the values.
-/
theorem replaceOutputs_mutations {replaceable : Replaceable} (lenient : replaceable.Lenient)
    {graph : Graph} {id : NodeId} (computed : graph.Computed id) (index : Nat)
    (values : List Tensor)
    : Mutations replaceable graph (graph.replaceOutputs id index values).1 := by
  induction values generalizing graph index with
  | nil => exact .refl
  | cons value rest ih =>
      unfold replaceOutputs
      cases added : graph.addConstant value with
      | error cause => exact .refl
      | ok pair =>
          obtain ⟨extended, replacement⟩ := pair
          obtain ⟨first, both⟩ := computed.replacement_mutations lenient added index
          simp only
          cases replaced : extended.replaceUses ⟨id, index⟩ (.first replacement) with
          | error cause => exact first
          | ok pair =>
              obtain ⟨relinked, count⟩ := pair
              obtain ⟨series, relinkedComputed⟩ := both replaced
              exact series.trans (ih relinkedComputed (index + 1))

/-- A node is folded if it has inputs, they are all constant, and it evaluates on their values to
tensors as inferred.
-/
theorem foldedOutputs_eq_some {graph : Graph} {id : NodeId} {outputs : List Tensor}
    (folded : graph.foldedOutputs id = .ok (some outputs))
    : ∃ node inputs,
        graph.nodes[id]? = some node
        ∧ node.inputs ≠ []
        ∧ node.inputs.mapM graph.constantValue? = some inputs
        ∧ node.op.evaluate (unshapedOutputs node) inputs = .ok ⟨true, outputs⟩
        ∧ ∀ pair ∈ outputs.zip node.outputs, pair.1.desc? = some pair.2 := by
  unfold foldedOutputs Graph.node at folded
  cases found : graph.nodes[id]? with
  | none => simp [found] at folded
  | some node =>
      simp only [found] at folded
      split at folded
      · simp at folded
      next fed =>
        cases known : node.inputs.mapM graph.constantValue? with
        | none => simp [known] at folded
        | some inputs =>
            simp only [known] at folded
            cases evaluated : node.op.evaluate (unshapedOutputs node) inputs with
            | error fault => simp [evaluated] at folded
            | ok evaluation =>
                obtain ⟨handled, values⟩ := evaluation
                simp only [evaluated] at folded
                split at folded
                next accepted =>
                  simp only [Except.ok.injEq, Option.some.injEq] at folded
                  subst folded
                  simp only [Bool.and_eq_true, List.all_eq_true, agrees,
                    decide_eq_true_eq] at accepted
                  obtain ⟨rfl, agreeing⟩ := accepted
                  exact ⟨node, inputs, rfl, by simpa using fed, known, evaluated,
                    fun pair member => agreeing pair member⟩
                · simp at folded

/-- A node that can be folded has inputs, so it is not a constant. -/
theorem computed_of_foldedOutputs {graph : Graph} (wellFormed : graph.WellFormed) {id : NodeId}
    {outputs : List Tensor} (folded : graph.foldedOutputs id = .ok (some outputs))
    : graph.Computed id := by
  obtain ⟨node, inputs, found, fed, -⟩ := foldedOutputs_eq_some folded
  refine ⟨node, found, Option.eq_none_iff_forall_ne_some.mpr ?_⟩
  intro value constant
  exact fed ((wellFormed.settled found).of_constant constant).1

theorem foldNodes_mutations {replaceable : Replaceable} (lenient : replaceable.Lenient)
    {graph : Graph} (wellFormed : graph.WellFormed) (count : Nat) (order : List NodeId)
    : Mutations replaceable graph (graph.foldNodes count order).graph := by
  induction order generalizing graph count with
  | nil => exact .refl
  | cons id rest ih =>
      unfold foldNodes
      split
      · exact .refl
      · exact ih wellFormed count
      next outputs folded =>
        have series := replaceOutputs_mutations lenient
          (computed_of_foldedOutputs wellFormed folded) 0 outputs
        split
        next relinked cause replaced =>
          rw [replaced] at series
          exact series
        next relinked replaced =>
          rw [replaced] at series
          exact series.trans (ih (wellFormed.mutations series) (count + 1))

/-- The default of a node is added as a constant with the value over no elements. -/
theorem addDefault_eq_ok {graph added : Graph} {id replacement : NodeId}
    (success : graph.addDefault id = .ok (added, replacement))
    : ∃ node desc value,
        graph.nodes[id]? = some node
        ∧ node.outputs.head? = some desc
        ∧ node.op.defaultValue desc = .ok (some value)
        ∧ graph.addConstant value = .ok (added, replacement) := by
  unfold addDefault Graph.node at success
  cases found : graph.nodes[id]? with
  | none => simp [found, orFailure, Except.mapError, bind, Except.bind] at success
  | some node =>
      simp only [found, orFailure, Except.mapError, bind, Except.bind] at success
      split at success
      · simp at success
      next desc rest outputs =>
        refine ⟨node, desc, ?_⟩
        split at success
        · simp at success
        · simp at success
        next value neutral =>
          exact ⟨value, rfl, by rw [outputs, List.head?_cons], neutral,
            mapError_eq_ok_iff.mp success⟩

/-- Only reductions have a value over no elements. -/
theorem computed_of_addDefault {graph added : Graph} {id replacement : NodeId}
    (success : graph.addDefault id = .ok (added, replacement))
    : graph.Computed id := by
  obtain ⟨node, desc, value, found, -, neutral, -⟩ := addDefault_eq_ok success
  refine ⟨node, found, ?_⟩
  cases op : node.op with
  | reduction => rfl
  | parameter | constant | selection => simp [op, Op.defaultValue] at neutral

/-- What the elimination does at a node: it skips a node that reduces something, or replaces it and
continues, or fails before or after it has added the default value.
-/
theorem eliminateNodes_cons (graph : Graph) (count : Nat) (id : NodeId) (rest : List NodeId)
    : (∃ failure, graph.eliminateNodes count (id :: rest) = ⟨graph, .error failure⟩)
      ∨ graph.reducesNothing id = .ok false
        ∧ graph.eliminateNodes count (id :: rest) = graph.eliminateNodes count rest
      ∨ graph.reducesNothing id = .ok true
        ∧ ∃ extended replacement,
            graph.addDefault id = .ok (extended, replacement)
            ∧ ((∃ failure, graph.eliminateNodes count (id :: rest) = ⟨extended, .error failure⟩)
              ∨ ∃ relinked uses,
                  extended.replaceUses (.first id) (.first replacement) = .ok (relinked, uses)
                  ∧ graph.eliminateNodes count (id :: rest)
                    = relinked.eliminateNodes (count + 1) rest) := by
  rw [eliminateNodes]
  split
  · exact .inl ⟨_, rfl⟩
  next reduces => exact .inr (.inl ⟨reduces, rfl⟩)
  next reduces =>
    split
    · exact .inl ⟨_, rfl⟩
    next extended replacement added =>
      refine .inr (.inr ⟨reduces, extended, replacement, added, ?_⟩)
      split
      · exact .inl ⟨_, rfl⟩
      next relinked uses redirected => exact .inr ⟨relinked, uses, redirected, rfl⟩

theorem eliminateNodes_mutations {replaceable : Replaceable} (lenient : replaceable.Lenient)
    (graph : Graph) (count : Nat) (order : List NodeId)
    : Mutations replaceable graph (graph.eliminateNodes count order).graph := by
  induction order generalizing graph count with
  | nil => exact .refl
  | cons id rest ih =>
      rcases eliminateNodes_cons graph count id rest with
        ⟨_, stopped⟩ | ⟨-, skipped⟩ | ⟨-, extended, replacement, added, continued⟩
      · rw [stopped]
      · rw [skipped]
        exact ih graph count
      · obtain ⟨_, _, value, -, -, -, constant⟩ := addDefault_eq_ok added
        obtain ⟨first, both⟩ :=
          (computed_of_addDefault added).replacement_mutations lenient constant 0
        rcases continued with ⟨_, stopped⟩ | ⟨relinked, uses, replaced, continued⟩
        · rw [stopped]
          exact first
        · rw [continued]
          exact (both replaced).1.trans (ih relinked (count + 1))

theorem simplifyIf_mutations {replaceable : Replaceable} {simplify : Graph → Simplification}
    {graph : Graph} (series : Mutations replaceable graph (simplify graph).graph) (enabled : Bool)
    : Mutations replaceable graph (simplifyIf enabled simplify graph).graph := by
  cases enabled with
  | false => exact .refl
  | true => exact series

theorem prepare_mutations {replaceable : Replaceable} (lenient : replaceable.Lenient)
    {graph : Graph} (wellFormed : graph.WellFormed) (config : Config)
    : Mutations replaceable graph (graph.prepare config).graph := by
  have eliminated
      : Mutations replaceable graph
          (simplifyIf config.eliminateEmpty eliminateEmpty graph).graph :=
    simplifyIf_mutations (eliminateNodes_mutations lenient graph 0 _) _
  unfold prepare Simplification.andThen
  split
  · exact eliminated
  · exact eliminated.trans
      (simplifyIf_mutations (foldNodes_mutations lenient (wellFormed.mutations eliminated) 0 _) _)

-----------------------------------------------------------------------------------------
-- Commands as series of mutations
-----------------------------------------------------------------------------------------

/-- A command that changes the graph only if it succeeds makes one mutation if success is one. -/
theorem Step.mutations_of_success {replaceable : Replaceable} {α : Type} {graph : Graph}
    {reply : α → Reply} {outcome : Except (Failure GraphError) (Graph × α)}
    (success
      : ∀ {changed value},
          outcome = .ok (changed, value) → Mutation replaceable graph changed)
    : Mutations replaceable graph (Step.ofExcept graph reply outcome).graph := by
  cases outcome with
  | error failure => exact .refl
  | ok pair => exact .single (success rfl)

/-- An admitted command is a series of mutations, by cases on the command. -/
theorem perform_mutations {replaceable : Replaceable} (lenient : replaceable.Lenient)
    {graph : Graph} (wellFormed : graph.WellFormed) {command : Command}
    (admitted : command.Admitted replaceable graph)
    : Mutations replaceable graph (graph.perform command).graph := by
  rw [perform_eq]
  cases command with
  | parameter | constant | add =>
      exact Step.mutations_of_success fun success => .add (mapError_eq_ok_iff.mp success)
  | clone id inputs =>
      apply Step.mutations_of_success
      intro changed _ success
      have cloned := mapError_eq_ok_iff.mp success
      simp only [cloneNode, bind_eq_ok_iff] at cloned
      obtain ⟨node, -, cloned⟩ := cloned
      split at cloned
      · exact absurd cloned (by simp)
      · exact .add cloned
  | addDefault id =>
      apply Step.mutations_of_success
      intro changed _ success
      obtain ⟨_, _, value, -, -, -, added⟩ := addDefault_eq_ok success
      exact .add added
  | replaceUses old new =>
      exact Step.mutations_of_success fun success =>
        .replace admitted (mapError_eq_ok_iff.mp success)
  | setName id name =>
      apply Step.mutations_of_success
      intro changed _ success
      obtain ⟨renamed, done, same⟩ := map_eq_ok_iff.mp success
      cases same
      exact .rename (mapError_eq_ok_iff.mp done)
  | addResult output =>
      apply Step.mutations_of_success
      intro changed _ success
      obtain ⟨extended, done, same⟩ := map_eq_ok_iff.mp success
      cases same
      exact .result (mapError_eq_ok_iff.mp done)
  | foldConstants => exact foldNodes_mutations lenient wellFormed _ _
  | eliminateEmpty => exact eliminateNodes_mutations lenient _ _ _
  | prepare config => exact prepare_mutations lenient wellFormed config

/-- Every graph that admitted commands reach is well-formed, by induction on the commands. -/
theorem ReachableBy.wellFormed {replaceable : Replaceable} (lenient : replaceable.Lenient)
    {graph : Graph} (reachable : ReachableBy replaceable graph)
    : graph.WellFormed := by
  induction reachable with
  | empty => exact empty_wellFormed
  | perform before admitted ih => exact ih.mutations (perform_mutations lenient ih admitted)

/-- What every mutation of a well-formed graph keeps, a series of mutations keeps. -/
theorem Mutations.invariant {replaceable : Replaceable} {property : Graph → Prop}
    (kept
      : ∀ {graph changed : Graph},
          graph.WellFormed
          → property graph
          → Mutation replaceable graph changed
          → property changed)
    {graph changed : Graph} (series : Mutations replaceable graph changed)
    (wellFormed : graph.WellFormed) (initial : property graph)
    : property changed := by
  induction series with
  | refl => exact initial
  | tail earlier last previous => exact kept (wellFormed.mutations earlier) previous last

/-- A property of the empty graph that every mutation of a well-formed graph keeps holds of every
graph that admitted commands reach, by induction on the commands.
-/
theorem ReachableBy.invariant {replaceable : Replaceable} (lenient : replaceable.Lenient)
    {property : Graph → Prop} (initial : property Graph.empty)
    (kept
      : ∀ {graph changed : Graph},
          graph.WellFormed
          → property graph
          → Mutation replaceable graph changed
          → property changed)
    {graph : Graph} (reachable : ReachableBy replaceable graph)
    : property graph := by
  induction reachable with
  | empty => exact initial
  | perform before admitted ih =>
      have wellFormed := before.wellFormed lenient
      exact (perform_mutations lenient wellFormed admitted).invariant kept wellFormed ih

/-- Commands that are admitted everywhere lead from a reachable graph to reachable graphs, by
induction on the commands.
-/
theorem ReachableBy.performAll {replaceable : Replaceable} {graph : Graph}
    (reachable : ReachableBy replaceable graph) {commands : List Command}
    (admitted : ∀ command ∈ commands, ∀ graph, command.Admitted replaceable graph)
    : ReachableBy replaceable (graph.performAll commands) := by
  induction commands generalizing graph with
  | nil => exact reachable
  | cons command rest ih =>
      apply ih (.perform reachable (admitted command List.mem_cons_self graph))
      intro other member
      exact admitted other (List.mem_cons_of_mem _ member)

/-- Commands among which none redirects uses are admitted whatever is replaceable. -/
theorem ReachableBy.of_commands {replaceable : Replaceable} {commands : List Command}
    (free : ∀ old new, .replaceUses old new ∉ commands)
    : ReachableBy replaceable (Graph.empty.performAll commands) := by
  apply ReachableBy.empty.performAll
  intro command member graph
  cases command with
  | replaceUses old new => exact absurd member (free old new)
  | _ => trivial

/-- Where every output is replaceable, every command is admitted. -/
theorem Command.admitted_of_all (command : Command) (graph : Graph)
    : command.Admitted (fun _ _ => True) graph := by
  cases command <;> trivial

theorem Reachable.all {graph : Graph} (reachable : graph.Reachable)
    : ReachableBy (fun _ _ => True) graph := by
  obtain ⟨commands, rfl⟩ := reachable
  exact ReachableBy.empty.performAll fun command _ => command.admitted_of_all

theorem Reachable.perform {graph : Graph} (reachable : graph.Reachable) (command : Command)
    : (graph.perform command).graph.Reachable := by
  obtain ⟨commands, rfl⟩ := reachable
  exact ⟨commands ++ [command], by simp [performAll]⟩

theorem Reachable.wellFormed {graph : Graph} (reachable : graph.Reachable)
    : graph.WellFormed :=
  reachable.all.wellFormed fun _ _ _ => trivial

end TensorGraph.Graph
