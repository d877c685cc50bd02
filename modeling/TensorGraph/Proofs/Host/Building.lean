import TensorGraph.Proofs.Host.Steps

/-! The calls that build a graph or ask for a descriptor, against the operations of the graph.

A call with usable arguments demands one operation of the graph. It ends as that operation does. If
the operation is refused or the arguments are unusable, no step was made that changes or writes
anything.
-/

namespace TensorGraph.Host

-----------------------------------------------------------------------------------------
-- What a call demands
-----------------------------------------------------------------------------------------

/-- What a call asks of the graph when its arguments are decoded. -/
inductive Demand
  /-- A change of the graph. -/
  | change (command : Graph.Command)
  /-- The descriptor of an output, with room for some of its extents. -/
  | describe (output : Output) (capacity : Nat)

/-- The demand of a call that has an address for each output variable that it needs, known tags,
arrays that can be read, and as many bytes for a constant as its shape asks for.
-/
inductive Call.Demands : Call → Demand → Prop
  | parameter {tag rank : Nat} {dims : Address (List Nat)} {dtype : DType} {extents : List Nat}
    (type : DType.ofTag? tag = some dtype) (shape : Reads dims rank extents)
    : Demands (.addParameter tag dims rank true) (.change (.parameter ⟨dtype, ⟨extents⟩⟩))
  | constant {tag rank length : Nat} {dims : Address (List Nat)} {data : Address Bytes}
    {dtype : DType} {extents : List Nat} {bytes : Bytes} {value : Tensor}
    (type : DType.ofTag? tag = some dtype) (shape : Reads dims rank extents)
    (content : Reads data length bytes)
    (decodes : Tensor.ofBytes dtype ⟨extents⟩ bytes = .ok value)
    : Demands (.addConstant tag dims rank data length true) (.change (.constant value))
  | reduction {tag data axes : Nat} {keepDims : Bool} {kind : Reduction.Kind}
    (known : Reduction.Kind.ofTag? tag = some kind)
    : Demands (.addReduction tag data axes keepDims true)
        (.change (.add (.reduction ⟨kind, keepDims, .empty⟩) [.first data, .first axes]))
  | result {node index : Nat}
    : Demands (.addResult node index) (.change (.addResult ⟨node, index⟩))
  | shape {node index capacity : Nat} {dimsVariable : Bool}
    (room : 0 < capacity → dimsVariable = true)
    : Demands (.outputShape node index true dimsVariable true capacity)
        (.describe ⟨node, index⟩ capacity)

/-- The graph meets a demand: how it is changed, and what the call writes. A node that is added is
reported as the number of nodes before it. Of a descriptor the tag and the full rank are written,
and as many leading extents as there is room for.
-/
inductive Demand.Met (graph : Graph) : Demand → (changed : Graph) → Writes → Prop
  | added {command : Graph.Command} {changed : Graph} {id : NodeId}
    (performed : graph.perform command = ⟨changed, .ok (.node id)⟩)
    : Met graph (.change command) changed { node := some graph.size }
  | marked {command : Graph.Command} {changed : Graph}
    (performed : graph.perform command = ⟨changed, .ok .done⟩)
    : Met graph (.change command) changed {}
  | described {output : Output} {capacity : Nat} {desc : TensorDesc}
    (known : graph.outputDesc output = .ok desc)
    : Met graph (.describe output capacity) graph
        { elementType := some desc.dtype.tag
          rank := some desc.shape.rank
          dims := desc.shape.dims.take capacity }

/-- The graph refuses a demand with an error. -/
inductive Demand.Denied (graph : Graph) : Demand → GraphError → Prop
  | change {command : Graph.Command} {cause : GraphError}
    (performed : (graph.perform command).outcome = .error (.error cause))
    : Denied graph (.change command) cause
  | describe {output : Output} {capacity : Nat} {cause : GraphError}
    (unknown : graph.outputDesc output = .error cause)
    : Denied graph (.describe output capacity) cause

/-- A call that changes the graph by one operation or asks for a descriptor. -/
def Call.Builds : Call → Prop
  | .addParameter .. | .addConstant .. | .addReduction .. | .addResult .. | .outputShape .. => True
  | _ => False

/-- How the steps of a call end in a context, and the frame then. They meet a demand, or they are
refused and have changed and written nothing. The refusal is that of the graph if the call demands
something of it.
-/
inductive Call.Ends (present : Context) (request : Call) : Except Refusal Unit × Frame → Prop
  | met {demand : Demand} {changed : Graph} {writes : Writes} (demands : request.Demands demand)
    (meets : demand.Met present.graph changed writes)
    : Ends present request (.ok (), ⟨{ present with graph := changed }, writes⟩)
  | denied {demand : Demand} {cause : GraphError} (demands : request.Demands demand)
    (denies : demand.Denied present.graph cause)
    : Ends present request (.error (.graph cause), ⟨present, {}⟩)
  | unusable {refusal : Refusal} (nothing : ∀ demand, ¬ request.Demands demand)
    (status : refusal.status = .invalidArgument)
    : Ends present request (.error refusal, ⟨present, {}⟩)

-----------------------------------------------------------------------------------------
-- How each call ends
-----------------------------------------------------------------------------------------

section Ends

open Body

variable {present : Context} {request : Call}

/-- A call may check or decode an argument first, if every demand of the call passes that. -/
theorem Call.Ends.check {α : Type} {outcome : Except Refusal α} {next : α → Body Unit}
    (passes : ∀ demand, request.Demands demand → ∃ value, outcome = .ok value)
    (status : ∀ refusal, outcome = .error refusal → refusal.status = .invalidArgument)
    (later
      : ∀ value, outcome = .ok value → request.Ends present ((next value).apply ⟨present, {}⟩))
    : request.Ends present (Body.apply (Body.check outcome >>= next) ⟨present, {}⟩) := by
  rw [apply_check_bind]
  cases checked : outcome with
  | error refusal =>
      refine .unusable ?_ (status refusal checked)
      intro demand demands
      obtain ⟨value, passed⟩ := passes demand demands
      cases checked.symm.trans passed
  | ok value => exact later value checked

/-- A demand of a new node is met by the graph with the node, or denied. -/
theorem Call.Ends.of_add {command : Graph.Command} {op : Op} {inputs : List Output}
    (demands : request.Demands (.change command))
    (performs
      : present.graph.performAtOnce command
        = .ofExcept present.graph .node (orFailure (present.graph.add op inputs)))
    : request.Ends present
        (Body.apply (onGraph (.add op inputs) >>= writeNode) ⟨present, {}⟩) := by
  rw [apply_bind, apply_onGraph (Graph.Change.apply_add op inputs _)]
  rw [← Graph.perform_eq] at performs
  cases added : present.graph.add op inputs with
  | error cause =>
      rw [added] at performs
      exact .denied demands (.change (congrArg Graph.Step.outcome performs))
  | ok extended =>
      obtain ⟨changed, id⟩ := extended
      rw [added] at performs
      cases Graph.id_of_add added
      exact .met demands (.added performs)

theorem addParameter_ends (present : Context) (tag : Nat) (dims : Address (List Nat)) (rank : Nat)
    : (Call.addParameter tag dims rank true).Ends present
        ((addParameter tag dims rank).apply ⟨present, {}⟩) := by
  apply Call.Ends.check
  · intro demand demands
    cases demands with
    | parameter type shape => exact ⟨_, elementType_eq_ok_iff.mpr type⟩
  · exact fun refusal refused => congrArg Refusal.status (elementType_eq_error refused)
  intro dtype typed
  apply Call.Ends.check
  · intro demand demands
    cases demands with
    | parameter type shape => exact ⟨_, slice_eq_ok_iff.mpr shape⟩
  · exact fun refusal refused => congrArg Refusal.status (slice_eq_error refused)
  intro extents read
  exact .of_add (.parameter (elementType_eq_ok_iff.mp typed) (slice_eq_ok_iff.mp read)) rfl

theorem addConstant_ends (present : Context) (tag : Nat) (dims : Address (List Nat)) (rank : Nat)
    (data : Address Bytes) (length : Nat)
    : (Call.addConstant tag dims rank data length true).Ends present
        ((addConstant tag dims rank data length).apply ⟨present, {}⟩) := by
  apply Call.Ends.check
  · intro demand demands
    cases demands with
    | constant type shape content decodes => exact ⟨_, elementType_eq_ok_iff.mpr type⟩
  · exact fun refusal refused => congrArg Refusal.status (elementType_eq_error refused)
  intro dtype typed
  apply Call.Ends.check
  · intro demand demands
    cases demands with
    | constant type shape content decodes =>
        exact ⟨_, slices_eq_ok_iff.mpr ⟨slice_eq_ok_iff.mpr shape, slice_eq_ok_iff.mpr content⟩⟩
  · intro refusal refused
    rcases slices_eq_error refused with refused | refused <;>
      exact congrArg Refusal.status (slice_eq_error refused)
  rintro ⟨extents, bytes⟩ read
  obtain ⟨shape, content⟩ := slices_eq_ok_iff.mp read
  simp only [slice_eq_ok_iff, elementType_eq_ok_iff] at shape content typed
  apply Call.Ends.check
  · intro demand demands
    cases demands with
    | constant type others again decodes =>
        -- What the demand reads is what was read.
        cases typed.symm.trans type
        cases shape.unique others
        cases content.unique again
        exact ⟨_, graphRefusal_eq_ok_iff.mpr (mapError_eq_ok_iff.mpr decodes)⟩
  · intro refusal refused
    obtain ⟨cause, undecoded, rfl⟩ := graphRefusal_eq_error_iff.mp refused
    cases decoded : Tensor.ofBytes dtype ⟨extents⟩ bytes with
    | error reason =>
        rw [decoded] at undecoded
        cases undecoded
        rfl
    | ok value => simp [decoded, Except.mapError] at undecoded
  intro value decoded
  exact .of_add
    (.constant typed shape content (mapError_eq_ok_iff.mp (graphRefusal_eq_ok_iff.mp decoded))) rfl

theorem addReduction_ends (present : Context) (tag data axes : Nat) (keepDims : Bool)
    : (Call.addReduction tag data axes keepDims true).Ends present
        ((addReduction tag data axes keepDims).apply ⟨present, {}⟩) := by
  apply Call.Ends.check
  · intro demand demands
    cases demands with
    | reduction known => exact ⟨_, reductionKind_eq_ok_iff.mpr known⟩
  · exact fun refusal refused => congrArg Refusal.status (reductionKind_eq_error refused)
  intro kind known
  rw [apply_get_bind, apply_check_references]
  exact .of_add (.reduction (reductionKind_eq_ok_iff.mp known)) rfl

theorem addResult_ends (present : Context) (node index : Nat)
    : (Call.addResult node index).Ends present
        ((addResult node index).apply ⟨present, {}⟩) := by
  have performs := present.graph.perform_eq (.addResult ⟨node, index⟩)
  rw [Graph.performAtOnce] at performs
  rw [addResult, apply_get_bind, apply_check_output_bind]
  cases known : present.graph.outputDesc ⟨node, index⟩ with
  | error cause =>
      have refused : present.graph.addResult ⟨node, index⟩ = .error cause := by
        simp only [Graph.addResult, known, Bind.bind, Except.bind]
      rw [refused] at performs
      exact .denied .result (.change (congrArg Graph.Step.outcome performs))
  | ok desc =>
      have marked
          : present.graph.addResult ⟨node, index⟩
            = .ok { present.graph with results := present.graph.results ++ [⟨node, index⟩] } := by
        simp only [Graph.addResult, known, Bind.bind, Except.bind]
      rw [marked] at performs
      dsimp only
      rw [apply_onGraph (Graph.Change.apply_addResult ⟨node, index⟩ _), marked]
      exact .met .result (.marked performs)

theorem outputShape_ends (present : Context) (node index : Nat) (dimsVariable : Bool)
    (capacity : Nat)
    : (Call.outputShape node index true dimsVariable true capacity).Ends present
        ((outputShape node index dimsVariable capacity).apply ⟨present, {}⟩) := by
  rw [outputShape, apply_get_bind, apply_check_bind, Context.outputDesc_eq]
  by_cases room : 0 < capacity → dimsVariable = true
  · have demands : (Call.outputShape node index true dimsVariable true capacity).Demands
        (.describe ⟨node, index⟩ capacity) :=
      .shape room
    have enough : ¬ (0 < capacity ∧ !dimsVariable) := by simpa using room
    cases known : present.graph.outputDesc ⟨node, index⟩ with
    | error cause => exact .denied demands (.describe known)
    | ok desc =>
        simp only [graphRefusal, Except.mapError, enough, if_false]
        have extents := apply_writeDims (desc.shape.dims.take capacity)
          ⟨present, { elementType := some desc.dtype.tag, rank := some desc.shape.rank }⟩
        exact extents ▸ .met demands (.described known)
  · -- Nothing is demanded, whether the output exists or not.
    have nothing (demand : Demand)
        : ¬ (Call.outputShape node index true dimsVariable true capacity).Demands demand := by
      rintro ⟨⟩
      contradiction
    have short : 0 < capacity ∧ !dimsVariable := by simpa using room
    cases known : present.graph.outputDesc ⟨node, index⟩ with
    | error cause =>
        refine .unusable nothing ?_
        rcases Graph.outputDesc_eq_error known with rfl | rfl <;> rfl
    | ok desc =>
        simp only [graphRefusal, Except.mapError, short]
        exact .unusable nothing rfl

end Ends

-----------------------------------------------------------------------------------------
-- A demand decides how the call ends
-----------------------------------------------------------------------------------------

/-- A call has at most one demand, by cases on the call. -/
theorem Call.Demands.unique {request : Call} {demand other : Demand}
    (demands : request.Demands demand) (again : request.Demands other)
    : demand = other := by
  cases demands with
  | parameter type shape =>
      cases again with
      | parameter otherType otherShape =>
          cases type.symm.trans otherType
          cases shape.unique otherShape
          rfl
  | constant type shape content decodes =>
      cases again with
      | constant otherType otherShape otherContent otherDecodes =>
          cases type.symm.trans otherType
          cases shape.unique otherShape
          cases content.unique otherContent
          cases decodes.symm.trans otherDecodes
          rfl
  | reduction known =>
      cases again with
      | reduction otherKnown =>
          cases known.symm.trans otherKnown
          rfl
  | result =>
      cases again
      rfl
  | shape room =>
      cases again
      rfl

theorem Demand.Met.unique {graph changed other : Graph} {demand : Demand}
    {writes otherWrites : Writes} (meets : demand.Met graph changed writes)
    (again : demand.Met graph other otherWrites)
    : changed = other ∧ writes = otherWrites := by
  cases meets with
  | added performed =>
      cases again with
      | added otherPerformed =>
          cases performed.symm.trans otherPerformed
          exact ⟨rfl, rfl⟩
      | marked otherPerformed => cases performed.symm.trans otherPerformed
  | marked performed =>
      cases again with
      | added otherPerformed => cases performed.symm.trans otherPerformed
      | marked otherPerformed =>
          cases performed.symm.trans otherPerformed
          exact ⟨rfl, rfl⟩
  | described known =>
      cases again with
      | described otherKnown =>
          cases known.symm.trans otherKnown
          exact ⟨rfl, rfl⟩

/-- A demand that is denied is not met. -/
theorem Demand.Denied.not_met {graph changed : Graph} {demand : Demand} {cause : GraphError}
    {writes : Writes} (denies : demand.Denied graph cause)
    : ¬ demand.Met graph changed writes := by
  intro meets
  cases denies with
  | change performed => cases meets <;> simp_all
  | describe unknown =>
      cases meets with
      | described known => cases unknown.symm.trans known

namespace Session

/-- How a call that builds concludes. It changes the context and writes as a demand says that is
met, or it ends with a refusal and without any change or write.
-/
inductive Concludes (session : Session) (contextGiven : Bool) (request : Call) : Return → Prop
  | met {present : Context} {demand : Demand} {changed : Graph} {writes : Writes}
    (given : session.passed contextGiven = some present) (demands : request.Demands demand)
    (meets : demand.Met present.graph changed writes)
    : Concludes session contextGiven request
        ⟨{ session with context := some { present with graph := changed } }, .ok, writes⟩
  | denied {present : Context} {demand : Demand} {cause : GraphError}
    (given : session.passed contextGiven = some present) (demands : request.Demands demand)
    (denies : demand.Denied present.graph cause)
    : Concludes session contextGiven request (session.refused (.graph cause) {})
  | unusable {refusal : Refusal}
    (nothing
      : ∀ present demand, session.passed contextGiven = some present → ¬ request.Demands demand)
    (status : refusal.status = .invalidArgument)
    : Concludes session contextGiven request (session.refused refusal {})

variable {session : Session} {contextGiven : Bool} {request : Call}

theorem context_of_passed {present : Context}
    (given : session.passed contextGiven = some present)
    : session.context = some present := by
  unfold passed at given
  split at given
  · exact given
  · cases given

/-- A call concludes as its steps end, by cases on how they end. -/
theorem Concludes.of_ends {present : Context} {ended : Except Refusal Unit × Frame}
    (given : session.passed contextGiven = some present) (ends : request.Ends present ended)
    : session.Concludes contextGiven request (session.conclude ended) := by
  have same : { session with context := some present } = session := by
    rw [← context_of_passed given]
  cases ends with
  | met demands meets => exact .met given demands meets
  | denied demands denies =>
      rw [conclude, same]
      exact .denied given demands denies
  | unusable nothing status =>
      rw [conclude, same]
      refine .unusable ?_ status
      intro other demand _
      exact nothing demand

/-- A call needs the context and the addresses of its output variables before its first step. -/
theorem within_concludes {addressed : Bool} {body : Body Unit}
    (addresses : ∀ demand, request.Demands demand → addressed = true)
    (ends
      : addressed = true → ∀ present, request.Ends present (body.apply ⟨present, {}⟩))
    : session.Concludes contextGiven request
        (session.within (session.passed contextGiven) addressed body) := by
  unfold within
  cases needed : required (session.passed contextGiven) addressed with
  | error refusal =>
      refine .unusable ?_ (congrArg Refusal.status (required_eq_error needed))
      intro present demand given demands
      have passed := required_eq_ok_iff.mpr ⟨given, addresses demand demands⟩
      cases needed.symm.trans passed
  | ok present =>
      obtain ⟨given, addressed⟩ := required_eq_ok_iff.mp needed
      exact .of_ends given (ends addressed present)

/-- Every call that builds concludes so, by cases on the call. -/
theorem call_concludes (session : Session) (contextGiven : Bool) {request : Call}
    (builds : request.Builds)
    : session.Concludes contextGiven request (session.call contextGiven request) := by
  cases request with
  | addParameter tag dims rank nodeVariable =>
      apply within_concludes
      · intro demand demands
        cases demands
        rfl
      · rintro rfl present
        exact addParameter_ends present tag dims rank
  | addConstant tag dims rank data length nodeVariable =>
      apply within_concludes
      · intro demand demands
        cases demands
        rfl
      · rintro rfl present
        exact addConstant_ends present tag dims rank data length
  | addReduction tag data axes keepDims nodeVariable =>
      apply within_concludes
      · intro demand demands
        cases demands
        rfl
      · rintro rfl present
        exact addReduction_ends present tag data axes keepDims
  | addResult node index =>
      exact within_concludes (fun _ _ => rfl) fun _ present => addResult_ends present node index
  | outputShape node index typeVariable dimsVariable rankVariable capacity =>
      apply within_concludes
      · intro demand demands
        cases demands
        rfl
      · intro addressed present
        obtain ⟨rfl, rfl⟩ := Bool.and_eq_true_iff.mp addressed
        exact outputShape_ends present node index dimsVariable capacity
  | _ => cases builds

/-- A call that builds succeeds exactly if its arguments are usable and the graph meets what it
demands, and then it changes the context, writes and keeps the last error as the demand says. A call
that does not succeed leaves the context as it is and writes nothing. Its status reports the error
with which the graph denies the demand, or an invalid argument if nothing is demanded.
-/
theorem call_meets (session : Session) (contextGiven : Bool) {request : Call}
    (builds : request.Builds)
    : ((session.call contextGiven request).status = .ok
        ↔ ∃ present demand changed writes,
            session.passed contextGiven = some present
            ∧ request.Demands demand
            ∧ demand.Met present.graph changed writes)
      ∧ (∀ present demand changed writes,
          session.passed contextGiven = some present
          → request.Demands demand
          → demand.Met present.graph changed writes
          → session.call contextGiven request
            = ⟨{ session with context := some { present with graph := changed } }, .ok, writes⟩)
      ∧ ((session.call contextGiven request).status ≠ .ok
        → (session.call contextGiven request).session.context = session.context
          ∧ (session.call contextGiven request).writes = {}
          ∧ ((∃ present demand cause,
                session.passed contextGiven = some present
                ∧ request.Demands demand
                ∧ demand.Denied present.graph cause
                ∧ (session.call contextGiven request).status = .ofGraphError cause)
            ∨ (∀ present demand,
                  session.passed contextGiven = some present → ¬ request.Demands demand)
              ∧ (session.call contextGiven request).status = .invalidArgument)) := by
  have concludes := session.call_concludes contextGiven builds
  generalize session.call contextGiven request = ended at concludes
  cases concludes with
  | @met present demand changed writes given demands meets =>
      refine ⟨⟨fun _ => ⟨present, demand, changed, writes, given, demands, meets⟩,
        fun _ => rfl⟩, ?_, fun failed => absurd rfl failed⟩
      intro other otherDemand otherChanged otherWrites otherGiven again otherMeets
      cases given.symm.trans otherGiven
      cases demands.unique again
      obtain ⟨rfl, rfl⟩ := meets.unique otherMeets
      rfl
  | @denied present demand cause given demands denies =>
      have unmet (other : Context) (otherDemand : Demand) (changed : Graph) (writes : Writes)
          (otherGiven : session.passed contextGiven = some other)
          (again : request.Demands otherDemand)
          : ¬ otherDemand.Met other.graph changed writes := by
        cases given.symm.trans otherGiven
        cases demands.unique again
        exact denies.not_met
      refine ⟨⟨fun ok => absurd ok (Refusal.graph cause).status_ne_ok, ?_⟩, ?_,
        fun _ => ⟨rfl, rfl, .inl ⟨present, demand, cause, given, demands, denies, rfl⟩⟩⟩
      · rintro ⟨other, otherDemand, changed, writes, otherGiven, again, meets⟩
        exact absurd meets (unmet other otherDemand changed writes otherGiven again)
      · intro other otherDemand changed writes otherGiven again meets
        exact absurd meets (unmet other otherDemand changed writes otherGiven again)
  | @unusable refusal nothing status =>
      refine ⟨⟨fun ok => absurd ok refusal.status_ne_ok, ?_⟩, ?_,
        fun _ => ⟨rfl, rfl, .inr ⟨nothing, status⟩⟩⟩
      · rintro ⟨present, demand, changed, writes, given, demands, -⟩
        exact absurd demands (nothing present demand given)
      · intro present demand changed writes given demands _
        exact absurd demands (nothing present demand given)

/-- The first node of an empty graph: a parameter of two rows and three columns. -/
theorem created_call_meets
    : (Call.addParameter 5 (some [2, 3]) 2 true).Builds
      ∧ (call ⟨some (.create {}), none⟩ true (.addParameter 5 (some [2, 3]) 2 true)).status = .ok
      ∧ (call ⟨some (.create {}), none⟩ true (.addParameter 5 (some [2, 3]) 2 true)).writes
        = { node := some 0 } := by
  have builds : (Call.addParameter 5 (some [2, 3]) 2 true).Builds := trivial
  have demands : (Call.addParameter 5 (some [2, 3]) 2 true).Demands
      (.change (.parameter ⟨.f32, ⟨[2, 3]⟩⟩)) :=
    .parameter rfl .stored
  obtain ⟨-, succeeds, -⟩ := call_meets ⟨some (.create {}), none⟩ true builds
  have called := succeeds _ _ _ _ rfl demands (.added rfl)
  exact ⟨builds, congrArg Return.status called, congrArg Return.writes called⟩

end Session

end TensorGraph.Host
