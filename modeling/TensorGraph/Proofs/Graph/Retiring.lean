import TensorGraph.Proofs.Graph.ConstantFolding
import TensorGraph.Proofs.Graph.EmptyReduction

/-! What is still read after a simplification that succeeds.

A replaced output is read no more: every reader has a new constant in its place. Constants have no
inputs, so what is needed afterwards and has inputs was needed before. A simplification visits a
node after those that feed it, and later replacements do not touch what the node reads.
-/

namespace TensorGraph.Graph

variable {graph changed : Graph} {retired : Output → Prop}

-----------------------------------------------------------------------------------------
-- Changes that retire outputs
-----------------------------------------------------------------------------------------

/-- After a change `new` is read in the place of `old`. A retired output has an output of a new node
in its place, and any other output itself.
-/
structure TakesPlace (graph changed : Graph) (retired : Output → Prop) (old new : Output)
    : Prop where
  same : ¬ retired old → new = old
  fresh : retired old → graph.nodes.length ≤ new.node
  desc : ∀ desc, graph.outputDesc old = .ok desc → changed.outputDesc new = .ok desc

/-- What takes the place of an output in two changes in a row is still an output of a new node, or
the output itself.
-/
theorem TakesPlace.trans {between : Graph} {early late : Output → Prop} {old middle new : Output}
    (first : TakesPlace graph between early old middle)
    (grown : graph.nodes.length ≤ between.nodes.length)
    (second : TakesPlace between changed late middle new)
    (either : retired old ↔ early old ∨ late old)
    : TakesPlace graph changed retired old new where
  same free := by
    rw [either, not_or] at free
    have same := first.same free.1
    exact (second.same (same ▸ free.2)).trans same
  fresh isRetired := by
    by_cases isLate : late middle
    · exact Nat.le_trans grown (second.fresh isLate)
    · rw [second.same isLate]
      apply first.fresh
      -- Otherwise `middle` is `old`, which the later change retires.
      by_contra free
      exact isLate (first.same free ▸ (either.mp isRetired).resolve_left free)
  desc desc known := second.desc desc (first.desc desc known)

section References

variable {references others : List Output}

/-- An output of an old node that is read afterwards was read before, and is not retired. -/
theorem read_of_takesPlace
    (stands : List.Forall₂ (TakesPlace graph changed retired) references others)
    {output : Output} (read : output ∈ others) (old : output.node < graph.nodes.length)
    : output ∈ references ∧ ¬ retired output := by
  obtain ⟨before, member, one⟩ := exists_partner stands.flip read
  by_cases isRetired : retired before
  · exact absurd old (Nat.not_lt.mpr (one.fresh isRetired))
  · cases one.same isRetired
    exact ⟨member, isRetired⟩

/-- References to outputs that are not retired stay as they are, by induction on the pairing. -/
theorem eq_of_takesPlace
    (stands : List.Forall₂ (TakesPlace graph changed retired) references others)
    (free : ∀ reference ∈ references, ¬ retired reference)
    : others = references := by
  induction stands with
  | nil => rfl
  | @cons old new _ _ first _ ih =>
      rw [first.same (free old List.mem_cons_self),
        ih fun reference member => free reference (List.mem_cons_of_mem _ member)]

end References

/-- Every output of the node is retired. -/
def AllRetired (graph : Graph) (retired : Output → Prop) (id : NodeId) : Prop :=
  ∀ output, graph.HasOutput output → output.node = id → retired output

/-- The nodes of a graph are still there after a change, with their operations and outputs. Every
reference to a retired output has moved to a new node, and new nodes have no inputs.
-/
structure Retires (graph changed : Graph) (retired : Output → Prop) : Prop where
  kept
    : ∀ {id : NodeId} {node : Node},
        graph.nodes[id]? = some node
        → ∃ other,
            changed.nodes[id]? = some other
            ∧ other.op = node.op
            ∧ other.outputs = node.outputs
            ∧ List.Forall₂ (TakesPlace graph changed retired) node.inputs other.inputs
  added
    : ∀ {id : NodeId} {node : Node},
        graph.nodes.length ≤ id → changed.nodes[id]? = some node → node.inputs = []
  results : List.Forall₂ (TakesPlace graph changed retired) graph.results changed.results

namespace Retires

theorem refl (graph : Graph) (none : ∀ output, ¬ retired output)
    : Retires graph graph retired := by
  have stands (references : List Output)
      : List.Forall₂ (TakesPlace graph graph retired) references references :=
    List.forall₂_same.mpr fun output _ =>
      ⟨fun _ => rfl, fun isRetired => absurd isRetired (none output), fun _ => id⟩
  refine ⟨fun found => ⟨_, found, rfl, rfl, stands _⟩, ?_, stands _⟩
  intro id node beyond found
  exact absurd (List.getElem?_eq_some_iff.mp found).1 (Nat.not_lt.mpr beyond)

theorem grows (retires : Retires graph changed retired)
    : graph.nodes.length ≤ changed.nodes.length := by
  by_contra shorter
  rw [Nat.not_le] at shorter
  obtain ⟨other, found, -⟩ := retires.kept (List.getElem?_eq_getElem shorter)
  exact absurd (List.getElem?_eq_some_iff.mp found).1 (Nat.lt_irrefl _)

theorem inside (retires : Retires graph changed retired) {id : NodeId}
    (old : id < graph.nodes.length)
    : id < changed.nodes.length :=
  Nat.lt_of_lt_of_le old retires.grows

/-- Two changes in a row retire what one of them retires. -/
theorem trans {between : Graph} {early late : Output → Prop}
    (first : Retires graph between early) (second : Retires between changed late)
    (either : ∀ output, retired output ↔ early output ∨ late output)
    : Retires graph changed retired := by
  have join {references others lasts : List Output}
      (left : List.Forall₂ (TakesPlace graph between early) references others)
      (right : List.Forall₂ (TakesPlace between changed late) others lasts)
      : List.Forall₂ (TakesPlace graph changed retired) references lasts :=
    relate_partners left.flip right fun _ _ _ _ one two => one.trans first.grows two (either _)
  refine ⟨?_, ?_, join first.results second.results⟩
  · intro id node found
    obtain ⟨other, found, op, outputs, inputs⟩ := first.kept found
    obtain ⟨last, found, lastOp, lastOutputs, lastInputs⟩ := second.kept found
    exact ⟨last, found, lastOp.trans op, lastOutputs.trans outputs, join inputs lastInputs⟩
  · intro id node beyond found
    rcases Nat.lt_or_ge id between.nodes.length with inside | outside
    · obtain ⟨last, still, -, -, inputs⟩ := second.kept (List.getElem?_eq_getElem inside)
      rw [first.added beyond (List.getElem?_eq_getElem inside)] at inputs
      cases still.symm.trans found
      exact List.forall₂_nil_left_iff.mp inputs
    · exact second.added outside found

-----------------------------------------------------------------------------------------
-- What is still read
-----------------------------------------------------------------------------------------

/-- An edge from an old node was there before, and some output that it reads is not retired. -/
theorem of_feeds (retires : Retires graph changed retired) {source reader : NodeId}
    (edge : changed.Feeds source reader) (old : source < graph.nodes.length)
    : ∃ node output,
        graph.nodes[reader]? = some node
        ∧ output ∈ node.inputs
        ∧ output.node = source
        ∧ ¬ retired output := by
  obtain ⟨other, found, output, read, rfl⟩ := edge
  rcases Nat.lt_or_ge reader graph.nodes.length with inside | outside
  · obtain ⟨_, kept, -, -, inputs⟩ := retires.kept (List.getElem?_eq_getElem inside)
    cases kept.symm.trans found
    obtain ⟨member, free⟩ := read_of_takesPlace inputs read old
    exact ⟨_, output, List.getElem?_eq_getElem inside, member, rfl, free⟩
  · rw [retires.added outside found] at read
    exact absurd read List.not_mem_nil

/-- An old node that is needed was needed before, and some output of it is not retired. By induction
on the way to the results.
-/
theorem of_needed (retires : Retires graph changed retired) (before : graph.WellFormed)
    {id : NodeId} (needed : changed.Needed id) (old : id < graph.nodes.length)
    : graph.Needed id ∧ ¬ graph.AllRetired retired id := by
  obtain ⟨result, member, path⟩ := needed
  induction path using Relation.ReflTransGen.head_induction_on with
  | refl =>
      obtain ⟨earlier, free⟩ := read_of_takesPlace retires.results member old
      exact ⟨⟨result, earlier, .refl⟩,
        fun all => free (all result (before.results result earlier) rfl)⟩
  | @head source reader edge _ ih =>
      obtain ⟨node, output, found, read, rfl, free⟩ := retires.of_feeds edge old
      obtain ⟨⟨last, earlier, onward⟩, -⟩ := ih (List.getElem?_eq_some_iff.mp found).1
      have fed : graph.Feeds output.node reader := ⟨node, found, output, read, rfl⟩
      exact ⟨⟨last, earlier, onward.head fed⟩,
        fun all => free (all output (before.edges found output read) rfl)⟩

/-- In an order in which no node feeds an earlier one, none does afterwards. -/
theorem backward (retires : Retires graph changed retired) {order : List NodeId}
    (inside : ∀ id ∈ order, id < graph.nodes.length)
    (backward : order.Pairwise fun earlier later => ¬ graph.Feeds later earlier)
    : order.Pairwise fun earlier later => ¬ changed.Feeds later earlier := by
  refine backward.imp_of_mem ?_
  intro earlier later _ member unfed edge
  obtain ⟨node, output, found, read, rfl, -⟩ := retires.of_feeds edge (inside later member)
  exact unfed ⟨node, found, output, read, rfl⟩

theorem hasOutput (retires : Retires graph changed retired) {output : Output}
    (owned : graph.HasOutput output)
    : changed.HasOutput output := by
  obtain ⟨node, found, bound⟩ := owned
  obtain ⟨other, kept, -, outputs, -⟩ := retires.kept found
  exact ⟨other, kept, outputs ▸ bound⟩

/-- A node whose outputs are retired by a later change has none left after both. -/
theorem allRetired {between : Graph} {early late : Output → Prop}
    (first : Retires graph between early) {id : NodeId} (gone : between.AllRetired late id)
    : graph.AllRetired (fun output => early output ∨ late output) id :=
  fun output owned same => .inr (gone output (first.hasOutput owned) same)

/-- What tells whether a node reduces nothing is kept. -/
theorem reducesNothing (retires : Retires graph changed retired) (before : graph.WellFormed)
    {id : NodeId} (old : id < graph.nodes.length)
    : changed.reducesNothing id = graph.reducesNothing id := by
  have found := List.getElem?_eq_getElem old
  obtain ⟨other, kept, op, outputs, stands⟩ := retires.kept found
  exact before.reducesNothing_congr found kept op outputs (stands.imp fun _ _ one => one.desc)

/-- The value of an output of an old node is kept. -/
theorem constantValue? (retires : Retires graph changed retired) {output : Output}
    (old : output.node < graph.nodes.length)
    : changed.constantValue? output = graph.constantValue? output := by
  obtain ⟨other, kept, op, -⟩ := retires.kept (List.getElem?_eq_getElem old)
  unfold Graph.constantValue?
  rw [kept, List.getElem?_eq_getElem old, Option.bind_some, Option.bind_some, op]

/-- What a node is folded to is kept, if it reads no retired output. -/
theorem foldedOutputs (retires : Retires graph changed retired) (before : graph.WellFormed)
    {id : NodeId} (old : id < graph.nodes.length)
    (free : ∀ output, retired output → ¬ graph.Feeds output.node id)
    : changed.foldedOutputs id = graph.foldedOutputs id := by
  have found := List.getElem?_eq_getElem old
  obtain ⟨other, kept, op, outputs, stands⟩ := retires.kept found
  have inputs : other.inputs = graph.nodes[id].inputs :=
    eq_of_takesPlace stands fun input member isRetired =>
      free input isRetired ⟨_, found, input, member, rfl⟩
  have values
      : graph.nodes[id].inputs.mapM changed.constantValue?
        = graph.nodes[id].inputs.mapM graph.constantValue? :=
    mapM_congr fun input member => retires.constantValue? (before.edges found input member).inside
  unfold Graph.foldedOutputs Graph.node
  simp only [found, kept, inputs, values, op, outputs, unshapedOutputs]

end Retires

-----------------------------------------------------------------------------------------
-- Replacements by constants
-----------------------------------------------------------------------------------------

/-- Redirected references have an output of the new node in the place of the old output. -/
theorem Extends.redirect_takesPlace {extended : Graph} {node : Node}
    (extension : graph.Extends extended node) {old new : Output}
    (isNew : new.node = graph.nodes.length) {desc : TensorDesc}
    (owned : extended.outputDesc old = .ok desc) (described : extended.outputDesc new = .ok desc)
    (references : List Output)
    : List.Forall₂ (TakesPlace graph (extended.redirected old new) fun output => output = old)
        references (redirect old new references) := by
  refine List.forall₂_map_right_iff.mpr (List.forall₂_same.mpr ?_)
  intro reference _
  split
  next isOld =>
    subst isOld
    refine ⟨fun other => absurd rfl other, fun _ => Nat.le_of_eq isNew.symm, ?_⟩
    intro other known
    cases owned.symm.trans (extension.outputDesc known)
    exact (redirected_outputDesc ..).trans described
  next other =>
    refine ⟨fun _ => rfl, fun isOld => absurd isOld other, ?_⟩
    intro desc known
    exact (redirected_outputDesc ..).trans (extension.outputDesc known)

/-- Redirecting the uses of an output to a new constant retires the output. -/
theorem WellFormed.replacement_retires (before : graph.WellFormed) {value : Tensor}
    {extended : Graph} {replacement : NodeId}
    (added : graph.addConstant value = .ok (extended, replacement)) {old : Output} {count : Nat}
    (replaced : extended.replaceUses old (.first replacement) = .ok (changed, count))
    : changed.WellFormed ∧ Retires graph changed fun output => output = old := by
  have after : changed.WellFormed := (before.add added).replaceUses replaced
  obtain ⟨rfl, _, op, outputs, name, -, -, extension⟩ := extends_of_add added
  obtain ⟨⟨desc, owned, described⟩, -, rfl, -⟩ := replaceUses_eq_ok replaced
  refine ⟨after, ?_, ?_, ?_⟩
  · intro id node found
    have old : node.id ≠ graph.nodes.length :=
      before.placed found ▸ Nat.ne_of_lt (List.getElem?_eq_some_iff.mp found).1
    refine ⟨_, redirected_found_iff.mpr ⟨node, extension.found_iff.mpr (.inl found), rfl⟩,
      redirectNode_op .., redirectNode_outputs .., ?_⟩
    rw [redirectNode_inputs_of_ne old]
    exact extension.redirect_takesPlace rfl owned described node.inputs
  · intro id other beyond found
    obtain ⟨node, stored, rfl⟩ := redirected_found_iff.mp found
    apply List.eq_nil_of_length_eq_zero
    rw [length_redirectNode_inputs]
    rcases extension.found_iff.mp stored with earlier | ⟨-, rfl⟩
    · exact absurd (List.getElem?_eq_some_iff.mp earlier).1 (Nat.not_lt.mpr beyond)
    · rfl
  · rw [← extension.results]
    exact extension.redirect_takesPlace rfl owned described extended.results

/-- Replacing the outputs of a node from some number on retires as many outputs as there are
values, by induction on these.
-/
theorem WellFormed.replaceOutputs_retires (before : graph.WellFormed) {id : NodeId}
    {index : Nat} {values : List Tensor}
    (replaced : graph.replaceOutputs id index values = (changed, .ok ()))
    : changed.WellFormed
      ∧ Retires graph changed fun output =>
          output.node = id ∧ index ≤ output.index ∧ output.index < index + values.length := by
  induction values generalizing graph index with
  | nil =>
      cases replaced
      refine ⟨before, .refl _ ?_⟩
      rintro output ⟨-, low, high⟩
      exact absurd high (Nat.not_lt.mpr low)
  | cons value rest ih =>
      rw [replaceOutputs] at replaced
      split at replaced
      · cases replaced
      next extended replacement added =>
        split at replaced
        · cases replaced
        next relinked count redirected =>
          obtain ⟨between, first⟩ := before.replacement_retires added redirected
          obtain ⟨after, later⟩ := ih between replaced
          refine ⟨after, first.trans later ?_⟩
          rintro ⟨node, number⟩
          by_cases same : node = id
          · simp only [same, Output.mk.injEq, true_and, List.length_cons]
            omega
          · simp only [same, Output.mk.injEq, false_and, or_self]

/-- Replacing a node by its default value retires all of its outputs: it is a reduction, which has
one.
-/
theorem WellFormed.default_retires (before : graph.WellFormed) {id replacement : NodeId}
    {extended : Graph} (added : graph.addDefault id = .ok (extended, replacement)) {count : Nat}
    (replaced : extended.replaceUses (.first id) (.first replacement) = .ok (changed, count))
    : changed.WellFormed
      ∧ ∃ retired, Retires graph changed retired ∧ graph.AllRetired retired id := by
  obtain ⟨node, desc, value, found, -, neutral, constant⟩ := addDefault_eq_ok added
  obtain ⟨after, retires⟩ := before.replacement_retires constant replaced
  refine ⟨after, _, retires, ?_⟩
  rintro ⟨_, index⟩ ⟨owner, stored, bound⟩ rfl
  cases found.symm.trans stored
  have settled := before.settled found
  unfold Node.Settled at settled
  cases isOp : node.op with
  | reduction op =>
      simp only [isOp] at settled
      have first : index = 0 := Nat.lt_one_iff.mp (settled.2 ▸ bound)
      exact congrArg _ first
  | parameter | constant | selection =>
      rw [isOp] at neutral
      cases neutral

/-- Replacing a node by what it is folded to retires all of its outputs, and no others. -/
theorem WellFormed.folded_retires (before : graph.WellFormed) {id : NodeId}
    {outputs : List Tensor} (folded : graph.foldedOutputs id = .ok (some outputs))
    (replaced : graph.replaceOutputs id 0 outputs = (changed, .ok ()))
    : changed.WellFormed
      ∧ ∃ retired,
          Retires graph changed retired
          ∧ (∀ output, retired output → output.node = id)
          ∧ graph.AllRetired retired id := by
  obtain ⟨after, retires⟩ := before.replaceOutputs_retires replaced
  refine ⟨after, _, retires, fun _ isRetired => isRetired.1, ?_⟩
  rintro ⟨_, index⟩ ⟨owner, stored, bound⟩ rfl
  obtain ⟨node, found, described⟩ := before.described_folded folded
  cases found.symm.trans stored
  refine ⟨rfl, Nat.zero_le _, ?_⟩
  rw [Nat.zero_add, described.length_eq]
  exact bound

-----------------------------------------------------------------------------------------
-- Simplifications that succeed
-----------------------------------------------------------------------------------------

/-- Where the elimination succeeds, it retires all outputs of the nodes that reduce nothing. By
induction on the nodes.
-/
theorem WellFormed.eliminateNodes_retires (before : graph.WellFormed) {order : List NodeId}
    (inside : ∀ id ∈ order, id < graph.nodes.length) {count total : Nat}
    (success : (graph.eliminateNodes count order).outcome = .ok total)
    : (graph.eliminateNodes count order).graph.WellFormed
      ∧ ∃ retired,
          Retires graph (graph.eliminateNodes count order).graph retired
          ∧ ∀ id ∈ order, graph.reducesNothing id = .ok false ∨ graph.AllRetired retired id := by
  induction order generalizing graph count with
  | nil =>
      refine ⟨before, fun _ => False, .refl graph fun _ => id, ?_⟩
      intro id member
      exact absurd member List.not_mem_nil
  | cons id rest ih =>
      have insideRest (other : NodeId) (member : other ∈ rest) : other < graph.nodes.length :=
        inside other (List.mem_cons_of_mem _ member)
      rcases graph.eliminateNodes_cons count id rest with
        ⟨_, stopped⟩ | ⟨keep, skipped⟩ | ⟨-, extended, replacement, added,
          ⟨_, stopped⟩ | ⟨relinked, uses, redirected, continued⟩⟩
      · rw [stopped] at success
        cases success
      · rw [skipped] at success ⊢
        obtain ⟨after, retired, retires, settled⟩ := ih before insideRest success
        refine ⟨after, retired, retires, ?_⟩
        intro other member
        rcases List.mem_cons.mp member with rfl | later
        · exact .inl keep
        · exact settled other later
      · rw [stopped] at success
        cases success
      · obtain ⟨between, early, first, gone⟩ := before.default_retires added redirected
        rw [continued] at success ⊢
        obtain ⟨after, late, second, settled⟩ :=
          ih between (fun other member => first.inside (insideRest other member)) success
        refine ⟨after, _, first.trans second fun _ => .rfl, ?_⟩
        intro other member
        rcases List.mem_cons.mp member with rfl | later
        · exact .inr fun output owned same => .inl (gone output owned same)
        · rw [← first.reducesNothing before (insideRest other later)]
          exact (settled other later).imp_right first.allRetired

/-- What folding does at a node, where it succeeds: it skips a node that cannot be folded, or
replaces its outputs and continues.
-/
theorem foldNodes_cons_eq_ok {id : NodeId} {rest : List NodeId} {count total : Nat}
    (success : (graph.foldNodes count (id :: rest)).outcome = .ok total)
    : graph.foldedOutputs id = .ok none
        ∧ graph.foldNodes count (id :: rest) = graph.foldNodes count rest
      ∨ ∃ outputs relinked,
          graph.foldedOutputs id = .ok (some outputs)
          ∧ graph.replaceOutputs id 0 outputs = (relinked, .ok ())
          ∧ graph.foldNodes count (id :: rest) = relinked.foldNodes (count + 1) rest := by
  rw [foldNodes] at success ⊢
  split at success
  · cases success
  next keep => exact .inl ⟨keep, rfl⟩
  next outputs folded =>
    split at success
    · cases success
    next relinked replaced => exact .inr ⟨outputs, relinked, folded, replaced, rfl⟩

/-- Where folding succeeds, it retires all outputs of the nodes that could still be folded
afterwards. By induction on the nodes. A skipped node reads the same from then on, because no later
node feeds it.
-/
theorem WellFormed.foldNodes_retires (before : graph.WellFormed) {order : List NodeId}
    (inside : ∀ id ∈ order, id < graph.nodes.length)
    (backward : order.Pairwise fun earlier later => ¬ graph.Feeds later earlier)
    {count total : Nat} (success : (graph.foldNodes count order).outcome = .ok total)
    : (graph.foldNodes count order).graph.WellFormed
      ∧ ∃ retired,
          Retires graph (graph.foldNodes count order).graph retired
          ∧ (∀ output, retired output → output.node ∈ order)
          ∧ ∀ id ∈ order,
              (graph.foldNodes count order).graph.foldedOutputs id = .ok none
              ∨ graph.AllRetired retired id := by
  induction order generalizing graph count with
  | nil =>
      refine ⟨before, fun _ => False, .refl graph fun _ => id, fun _ => False.elim, ?_⟩
      intro id member
      exact absurd member List.not_mem_nil
  | cons id rest ih =>
      have insideRest (other : NodeId) (member : other ∈ rest) : other < graph.nodes.length :=
        inside other (List.mem_cons_of_mem _ member)
      obtain ⟨unfed, backwardRest⟩ := List.pairwise_cons.mp backward
      rcases foldNodes_cons_eq_ok success with
        ⟨keep, skipped⟩ | ⟨outputs, relinked, folded, replaced, continued⟩
      · rw [skipped] at success ⊢
        obtain ⟨after, retired, retires, among, settled⟩ :=
          ih before insideRest backwardRest success
        refine ⟨after, retired, retires,
          fun output isRetired => List.mem_cons_of_mem _ (among output isRetired), ?_⟩
        intro other member
        rcases List.mem_cons.mp member with rfl | later
        · have same :=
            retires.foldedOutputs before (inside other List.mem_cons_self)
              fun output isRetired => unfed output.node (among output isRetired)
          exact .inl (same.trans keep)
        · exact settled other later
      · obtain ⟨between, early, first, amongEarly, gone⟩ :=
          before.folded_retires folded replaced
        rw [continued] at success ⊢
        obtain ⟨after, late, second, amongLate, settled⟩ :=
          ih between (fun other member => first.inside (insideRest other member))
            (first.backward insideRest backwardRest) success
        refine ⟨after, _, first.trans second fun _ => .rfl, ?_, ?_⟩
        · rintro output (isEarly | isLate)
          · exact amongEarly output isEarly ▸ List.mem_cons_self
          · exact List.mem_cons_of_mem _ (amongLate output isLate)
        · intro other member
          rcases List.mem_cons.mp member with rfl | later
          · exact .inr fun output owned same => .inl (gone output owned same)
          · exact (settled other later).imp_right first.allRetired

end TensorGraph.Graph
