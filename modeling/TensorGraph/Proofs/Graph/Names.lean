import Mathlib.Data.List.Nodup
import Mathlib.Data.List.Perm.Basic
import Mathlib.Order.Bounds.Defs
import TensorGraph.Proofs.Graph.Mutation

/-! The names of the nodes of a graph.

The names in use are the names of the nodes, and no two nodes share one. So only finitely many
numbers of a type are taken, and the search for a free one ends at the least from the type's counter
on.
-/

namespace TensorGraph

namespace NameTable

-----------------------------------------------------------------------------------------
-- The search for a free number
-----------------------------------------------------------------------------------------

theorem numbered_injective {type : String} {number other : Nat}
    (same : numbered type number = numbered type other)
    : number = other := by
  have texts : toString number = toString other := (String.append_right_inj _).mp same
  -- A number can be read back from its digits.
  have digits : Nat.toDigits 10 number = Nat.toDigits 10 other := by
    simpa only [Nat.toString_eq_repr, Nat.toList_repr] using congrArg String.toList texts
  simpa using congrArg (Nat.ofDigitChars 10 · 0) digits

/-- The numbers of a type from its counter on whose names are free. -/
def freeNumbers (table : NameTable) (type : String) : Set Nat :=
  {number | table.counter type ≤ number ∧ numbered type number ∉ table.used}

/-- Among one number more than there are names in use one has a free name: otherwise all these
names, which are different, would be in use.
-/
theorem exists_free (table : NameTable) (type : String) (start : Nat)
    : ∃ offset < table.used.length + 1, numbered type (start + offset) ∉ table.used := by
  by_contra none
  simp only [not_exists, not_and, not_not] at none
  have distinct
      : ((List.range (table.used.length + 1)).map fun offset =>
          numbered type (start + offset)).Nodup := by
    refine List.nodup_range.map ?_
    intro offset other same
    exact Nat.add_left_cancel (numbered_injective same)
  have taken
      : ((List.range (table.used.length + 1)).map fun offset => numbered type (start + offset))
        ⊆ table.used := by
    intro name member
    obtain ⟨offset, below, rfl⟩ := List.mem_map.mp member
    exact none offset (List.mem_range.mp below)
  have bound := distinct.length_le_of_subset taken
  rw [List.length_map, List.length_range] at bound
  exact absurd bound (Nat.not_succ_le_self _)

/-- The search ends at the least number from the counter on whose name is free. -/
theorem freeNumber_isLeast (table : NameTable) (type : String)
    : IsLeast (table.freeNumbers type) (table.freeNumber type) := by
  obtain ⟨some, below, free⟩ := table.exists_free type (table.counter type)
  simp only [freeNumber, List.find?_map]
  cases found
      : (List.range (table.used.length + 1)).find?
          ((fun number => decide (numbered type number ∉ table.used))
            ∘ (table.counter type + ·)) with
  | none =>
      have taken := List.find?_eq_none.mp found some (List.mem_range.mpr below)
      exact absurd free (by simpa using taken)
  | some offset =>
      obtain ⟨isFree, -, earlier⟩ := List.find?_range_eq_some.mp found
      refine ⟨⟨Nat.le_add_right _ _, by simpa using isFree⟩, ?_⟩
      rintro number ⟨above, isOther⟩
      by_contra less
      have before : number - table.counter type < offset := by
        rw [Option.map_some, Option.getD_some] at less
        omega
      have taken := earlier _ before
      rw [Function.comp_apply, Nat.add_sub_cancel' above] at taken
      exact isOther (by simpa using taken)

theorem lookup_filter_ne {type other : String} (different : other ≠ type)
    (counters : List (String × Nat))
    : (counters.filter fun entry => entry.1 ≠ type).lookup other = counters.lookup other := by
  induction counters with
  | nil => rfl
  | cons entry rest ih =>
      obtain ⟨listed, number⟩ := entry
      rw [List.filter_cons, List.lookup_cons]
      split
      · rw [List.lookup_cons, ih]
      next removed =>
        have same : listed = type := by simpa using removed
        rw [beq_eq_false_iff_ne.mpr (same ▸ different), ih]

/-- A generated name takes the counter of its type behind its number and leaves the others. -/
theorem counter_fresh (table : NameTable) (type other : String)
    : (table.fresh type).1.counter other
      = if other = type then table.freeNumber type + 1 else table.counter other := by
  unfold counter fresh
  rw [List.lookup_cons]
  by_cases same : other = type
  · simp [same]
  · rw [if_neg same, beq_eq_false_iff_ne.mpr same, lookup_filter_ne same]

end NameTable

namespace Graph

variable {graph changed : Graph}

-----------------------------------------------------------------------------------------
-- What the operations do to names
-----------------------------------------------------------------------------------------

/-- A new node has the name that is generated for the type of its operation. -/
theorem names_of_add {op : Op} {inputs : List Output} {id : NodeId}
    (success : graph.add op inputs = .ok (changed, id))
    : ∃ node,
        changed.nodes = graph.nodes ++ [node]
        ∧ id = graph.nodes.length
        ∧ graph.names.fresh op.opType.name = (changed.names, node.name) := by
  simp only [add, bind_eq_ok_iff, Except.ok.injEq, Prod.mk.injEq] at success
  obtain ⟨seen, -, ⟨inferred, outputs⟩, -, rfl, rfl⟩ := success
  exact ⟨_, rfl, rfl, rfl⟩

/-- A renaming succeeds for a node that has the name already, and otherwise if the name is not in
use.
-/
theorem setName_eq_ok_iff {id : NodeId} {name : String}
    : graph.setName id name = .ok changed
      ↔ ∃ node,
          graph.nodes[id]? = some node
          ∧ (node.name = name ∧ graph = changed
            ∨ node.name ≠ name
              ∧ name ∉ graph.names.used
              ∧ ⟨graph.nodes.modify id fun node => { node with name := name },
                  graph.results, graph.names.rename node.name name⟩
                = changed) := by
  unfold setName Graph.node
  cases found : graph.nodes[id]? with
  | none => simp [bind, Except.bind]
  | some node =>
      simp only [bind, Except.bind, Option.some.injEq, exists_eq_left']
      by_cases own : node.name = name
      · simp [own]
      · by_cases taken : name ∈ graph.names.used <;> simp [own, taken]

@[simp]
theorem redirectNode_name (old new : Output) (node : Node)
    : (redirectNode old new node).name = node.name := by
  unfold redirectNode
  split <;> rfl

-----------------------------------------------------------------------------------------
-- Names in use
-----------------------------------------------------------------------------------------

/-- The names in use are those of the nodes, each of which has a name of its own. -/
structure Named (graph : Graph) : Prop where
  used : graph.names.used.Perm (graph.nodes.map Node.name)
  distinct : (graph.nodes.map Node.name).Nodup

theorem empty_named : empty.Named :=
  ⟨.refl _, List.nodup_nil⟩

/-- A generated name is free, so a new node shares its name with none. -/
theorem Named.add (named : graph.Named) {op : Op} {inputs : List Output} {id : NodeId}
    (success : graph.add op inputs = .ok (changed, id))
    : changed.Named := by
  obtain ⟨node, nodes, -, generated⟩ := names_of_add success
  have used : changed.names.used = node.name :: graph.names.used := by
    rw [NameTable.fresh, Prod.mk.injEq] at generated
    rw [← generated.1, ← generated.2]
  have free : node.name ∉ graph.names.used := by
    rw [NameTable.fresh, Prod.mk.injEq] at generated
    rw [← generated.2]
    exact (graph.names.freeNumber_isLeast op.opType.name).1.2
  have names : (changed.nodes.map Node.name).Perm (node.name :: graph.nodes.map Node.name) := by
    rw [nodes, List.map_append]
    exact List.perm_append_singleton _ _
  refine ⟨?_, ?_⟩
  · rw [used]
    exact (named.used.cons _).trans names.symm
  · rw [names.nodup_iff, List.nodup_cons, ← named.used.mem_iff]
    exact ⟨free, named.distinct⟩

/-- A redirection renames no node. -/
theorem Named.replaceUses (named : graph.Named) {old new : Output} {count : Nat}
    (success : graph.replaceUses old new = .ok (changed, count))
    : changed.Named := by
  obtain ⟨-, -, rfl, -⟩ := replaceUses_eq_ok success
  have names : (graph.redirected old new).nodes.map Node.name = graph.nodes.map Node.name := by
    rw [redirected, List.map_map]
    exact List.map_congr_left fun node _ => redirectNode_name old new node
  refine ⟨?_, ?_⟩ <;> rw [names]
  · exact named.used
  · exact named.distinct

theorem names_modify (nodes : List Node) (id : NodeId) (name : String)
    : (nodes.modify id fun node => { node with name := name }).map Node.name
      = (nodes.map Node.name).set id name := by
  apply List.ext_getElem?
  intro place
  rw [List.getElem?_map, List.getElem?_modify, List.getElem?_set', List.getElem?_map]
  cases nodes[place]? with
  | none => simp
  | some node => by_cases same : id = place <;> simp [same]

/-- A renaming frees the old name of the node and uses a name that was free. -/
theorem Named.setName (named : graph.Named) {id : NodeId} {name : String}
    (success : graph.setName id name = .ok changed)
    : changed.Named := by
  obtain ⟨node, found, ⟨-, rfl⟩ | ⟨-, free, rfl⟩⟩ := setName_eq_ok_iff.mp success
  · exact named
  · obtain ⟨inside, here⟩ := List.getElem?_eq_some_iff.mp found
    have names
        : ((graph.nodes.modify id fun node => { node with name := name }).map Node.name).Perm
            (name :: (graph.nodes.map Node.name).erase node.name) := by
      have place : id < (graph.nodes.map Node.name).length := by
        rwa [List.length_map]
      have own : (graph.nodes.map Node.name)[id] = node.name := by
        rw [List.getElem_map, here]
      rw [names_modify, ← own, named.distinct.erase_getElem id place]
      exact List.set_perm_cons_eraseIdx place name
    refine ⟨?_, ?_⟩
    · exact ((named.used.erase _).cons _).trans names.symm
    · rw [names.nodup_iff, List.nodup_cons]
      refine ⟨?_, named.distinct.erase _⟩
      intro member
      exact free (named.used.mem_iff.mpr (List.mem_of_mem_erase member))

theorem Named.mutation {replaceable : Replaceable} (named : graph.Named)
    (mutation : Mutation replaceable graph changed)
    : changed.Named := by
  cases mutation with
  | add success => exact named.add success
  | replace _ success => exact named.replaceUses success
  | rename success => exact named.setName success
  | result success =>
      obtain ⟨-, rfl⟩ := addResult_eq_ok success
      exact ⟨named.used, named.distinct⟩

theorem Reachable.named (reachable : graph.Reachable) : graph.Named := by
  refine reachable.all.invariant (fun _ _ _ => trivial) empty_named ?_
  intro graph changed _ named mutation
  exact named.mutation mutation

/-- A name finds the one node that has it. -/
theorem Named.findByName?_eq_some_iff (named : graph.Named) (wellFormed : graph.WellFormed)
    {name : String} {id : NodeId}
    : graph.findByName? name = some id
      ↔ ∃ node, graph.nodes[id]? = some node ∧ node.name = name := by
  simp only [findByName?, Option.map_eq_some_iff]
  constructor
  · rintro ⟨node, first, rfl⟩
    obtain ⟨place, found⟩ := List.getElem?_of_mem (List.mem_of_find?_eq_some first)
    rw [wellFormed.placed found]
    exact ⟨node, found, by simpa using List.find?_some first⟩
  · rintro ⟨node, found, rfl⟩
    have member := List.mem_of_getElem? found
    cases first : graph.nodes.find? fun other => decide (other.name = node.name) with
    | none =>
        have absent := List.find?_eq_none.mp first node member
        exact absurd (decide_eq_true rfl) absent
    | some other =>
        have same : other.name = node.name := by simpa using List.find?_some first
        have one := List.inj_on_of_nodup_map named.distinct (List.mem_of_find?_eq_some first)
          member same
        exact ⟨other, rfl, one ▸ wellFormed.placed found⟩

theorem findByName?_eq_none_iff {name : String}
    : graph.findByName? name = none ↔ ∀ node ∈ graph.nodes, node.name ≠ name := by
  simp [findByName?]

/-- In a reachable graph the names in use are those of the nodes, no two nodes share one, and a name
finds the node that has it. For every type there is a free number from its counter on; the generated
name has the least, and the counter goes on behind it. A node can be given its own name and every
name that is not in use.
-/
theorem Reachable.names_unique (reachable : graph.Reachable)
    : (∀ name, name ∈ graph.names.used ↔ ∃ node ∈ graph.nodes, node.name = name)
      ∧ (∀ (id other : NodeId) (node twin : Node),
          graph.nodes[id]? = some node
          → graph.nodes[other]? = some twin
          → node.name = twin.name
          → id = other)
      ∧ (∀ (name : String) (id : NodeId),
          graph.findByName? name = some id
          ↔ ∃ node, graph.nodes[id]? = some node ∧ node.name = name)
      ∧ (∀ name : String,
          graph.findByName? name = none ↔ ∀ node ∈ graph.nodes, node.name ≠ name)
      ∧ (∀ type : String,
          ∃ number,
            IsLeast (graph.names.freeNumbers type) number
            ∧ (graph.names.fresh type).2 = NameTable.numbered type number
            ∧ (graph.names.fresh type).1.counter type = number + 1
            ∧ ∀ other,
                other ≠ type
                → (graph.names.fresh type).1.counter other = graph.names.counter other)
      ∧ (∀ (op : Op) (inputs : List Output) (added : Graph) (id : NodeId),
          graph.add op inputs = .ok (added, id)
          → ∃ node,
              added.nodes = graph.nodes ++ [node]
              ∧ id = graph.nodes.length
              ∧ graph.names.fresh op.opType.name = (added.names, node.name))
      ∧ ∀ (id : NodeId) (name : String),
          (∃ renamed, graph.setName id name = .ok renamed)
          ↔ ∃ node,
              graph.nodes[id]? = some node
              ∧ (node.name = name ∨ name ∉ graph.names.used) := by
  have named := reachable.named
  have wellFormed := reachable.wellFormed
  refine ⟨?_, ?_, fun _ _ => named.findByName?_eq_some_iff wellFormed,
    fun _ => findByName?_eq_none_iff, ?_, fun _ _ _ _ => names_of_add, ?_⟩
  · intro name
    rw [named.used.mem_iff, List.mem_map]
  · intro id other node twin found foundTwin same
    have first := (named.findByName?_eq_some_iff wellFormed).mpr ⟨node, found, rfl⟩
    have second := (named.findByName?_eq_some_iff wellFormed).mpr ⟨twin, foundTwin, same.symm⟩
    rw [first] at second
    exact Option.some.inj second
  · intro type
    refine ⟨_, graph.names.freeNumber_isLeast type, rfl, ?_, ?_⟩
    · rw [NameTable.counter_fresh, if_pos rfl]
    · intro other different
      rw [NameTable.counter_fresh, if_neg different]
  · intro id name
    simp only [setName_eq_ok_iff]
    constructor
    · rintro ⟨_, node, found, ⟨own, -⟩ | ⟨-, free, -⟩⟩
      · exact ⟨node, found, .inl own⟩
      · exact ⟨node, found, .inr free⟩
    · rintro ⟨node, found, allowed⟩
      by_cases own : node.name = name
      · exact ⟨graph, node, found, .inl ⟨own, rfl⟩⟩
      · exact ⟨_, node, found, .inr ⟨own, allowed.resolve_left own, rfl⟩⟩

/-- A parameter that took a name which would have been generated next. -/
def takenName : Graph :=
  empty.performAll
    [
      .parameter ⟨.f32, ⟨[3]⟩⟩,
      .setName 0 "Parameter_1"
    ]

/-- The next parameter passes over the name that is taken. -/
theorem takenName_names_unique
    : takenName.Reachable
      ∧ takenName.findByName? "Parameter_1" = some 0
      ∧ takenName.findByName? "Parameter_0" = none
      ∧ IsLeast (takenName.names.freeNumbers "Parameter") 2
      ∧ (takenName.names.fresh "Parameter").2 = "Parameter_2"
      ∧ (takenName.names.fresh "Parameter").1.counter "Parameter" = 3
      ∧ ∃ renamed, takenName.setName 0 "Parameter_0" = .ok renamed := by
  have reachable : takenName.Reachable := ⟨_, rfl⟩
  obtain ⟨-, -, finds, findsNone, generates, -, renames⟩ := Reachable.names_unique reachable
  obtain ⟨number, least, generated, counted, -⟩ := generates "Parameter"
  have name : (takenName.names.fresh "Parameter").2 = NameTable.numbered "Parameter" 2 := by
    decide
  obtain rfl : number = 2 := NameTable.numbered_injective (generated.symm.trans name)
  exact ⟨reachable, (finds _ _).mpr ⟨_, rfl, rfl⟩, (findsNone _).mpr (by decide), least, generated,
    counted, (renames _ _).mpr ⟨_, rfl, .inr (by decide)⟩⟩

end Graph
end TensorGraph
