import Mathlib.Data.List.Induction
import TensorGraph.Proofs.Host.Messages

/-! The slot of the last error over the runs of a host.

Every call that fails records a message of its refusal, as no message holds a NUL character. Every
other call leaves the slot alone. So the slot tells what happened since a message was last taken.
-/

namespace TensorGraph.Host

-----------------------------------------------------------------------------------------
-- One call
-----------------------------------------------------------------------------------------

/-- Why a call with such steps is refused, if it is: it lacks an address, or a step is refused. -/
def Body.refusal? (body : Body Unit) (context : Address Context) (addressed : Bool)
    : Option Refusal :=
  failure? (required context addressed >>= fun present => (body.apply ⟨present, {}⟩).1)

/-- Why a call that gets a context is refused, if it is. -/
def Call.refusal? (context : Address Context) : Call → Option Refusal
  | .create _ contextVariable =>
      if contextVariable then none else some (.argument "ctx_out is null")
  | .destroy => none
  | .addParameter tag dims rank nodeVariable =>
      (Host.addParameter tag dims rank).refusal? context nodeVariable
  | .addConstant tag dims rank data length nodeVariable =>
      (Host.addConstant tag dims rank data length).refusal? context nodeVariable
  | .addReduction tag data axes keepDims nodeVariable =>
      (Host.addReduction tag data axes keepDims).refusal? context nodeVariable
  | .addResult node index => (Host.addResult node index).refusal? context true
  | .prepare countVariable => (Host.prepare countVariable).refusal? context true
  | .outputShape node index typeVariable dimsVariable rankVariable capacity =>
      (Host.outputShape node index dimsVariable capacity).refusal? context
        (typeVariable && rankVariable)
  | .execute inputs inputCount outputs outputCount =>
      failure? (Host.execute context inputs inputCount outputs outputCount).2

/-- How a call that is refused for a reason, or for none, ends: it leaves the slot as it was and
reports success, or it records the message of the refusal and reports its status.
-/
inductive Return.Reports (slot : LastError) (ended : Return) : Option Refusal → Prop
  | kept (status : ended.status = .ok) (same : ended.session.lastError = slot)
    : Reports slot ended none
  | recorded {refusal : Refusal} (clean : NulFree refusal.message)
    (status : ended.status = refusal.status)
    (message : ended.session.lastError = some refusal.message)
    : Reports slot ended (some refusal)

/-- A message without NUL is kept in the slot. -/
theorem LastError.record_eq {message : String} (clean : NulFree message)
    : record message = some message :=
  if_neg (by simpa [NulFree] using clean)

section Reports

variable (session : Session)

theorem Session.refused_reports (slot : LastError) {refusal : Refusal} (clean : refusal.Clean)
    (writes : Writes)
    : (session.refused refusal writes).Reports slot (some refusal) :=
  .recorded clean.nulFree rfl (LastError.record_eq clean.nulFree)

theorem Session.within_reports {body : Body Unit} (clean : body.Clean) (context : Address Context)
    (addressed : Bool)
    : (session.within context addressed body).Reports session.lastError
        (body.refusal? context addressed) := by
  unfold within Body.refusal?
  cases needed : required context addressed with
  | error refusal => exact session.refused_reports _ (required_clean _ _ refusal needed) {}
  | ok present =>
      change (session.conclude (body.apply ⟨present, {}⟩)).Reports session.lastError
        (failure? (body.apply ⟨present, {}⟩).1)
      have here := clean ⟨present, {}⟩
      generalize body.apply ⟨present, {}⟩ = ended at here
      rcases ended with ⟨refusal | done, frame⟩
      · exact Session.refused_reports _ _ (here refusal rfl) frame.writes
      · exact .kept rfl rfl

theorem Session.query_reports {outcome : Except Refusal Unit}
    (clean : ErrorsAre Refusal.Clean outcome) (writes : Writes)
    : (session.query writes outcome).Reports session.lastError (failure? outcome) := by
  cases outcome with
  | error refusal => exact session.refused_reports _ (clean refusal rfl) writes
  | ok done => exact .kept rfl rfl

/-- Every call ends as its refusal tells, by cases on the request. -/
theorem Session.call_reports (contextGiven : Bool) (request : Call)
    : (session.call contextGiven request).Reports session.lastError
        (request.refusal? (session.passed contextGiven)) := by
  cases request with
  | create config contextVariable =>
      cases contextVariable with
      | true => exact .kept rfl rfl
      | false =>
          have clean : Refusal.Clean (.argument "ctx_out is null") := NulFree.fixed rfl
          exact session.refused_reports _ clean {}
  | destroy => exact .kept rfl rfl
  | addParameter tag dims rank nodeVariable =>
      exact session.within_reports (addParameter_clean tag dims rank) _ _
  | addConstant tag dims rank data length nodeVariable =>
      exact session.within_reports (addConstant_clean tag dims rank data length) _ _
  | addReduction tag data axes keepDims nodeVariable =>
      exact session.within_reports (addReduction_clean tag data axes keepDims) _ _
  | addResult node index => exact session.within_reports (addResult_clean node index) _ _
  | prepare countVariable => exact session.within_reports (prepare_clean countVariable) _ _
  | outputShape node index typeVariable dimsVariable rankVariable capacity =>
      exact session.within_reports (outputShape_clean node index dimsVariable capacity) _ _
  | execute inputs inputCount outputs outputCount =>
      exact session.query_reports (execute_clean _ _ _ _ _) _

end Reports

-----------------------------------------------------------------------------------------
-- Runs
-----------------------------------------------------------------------------------------

/-- What a host does next on its thread. -/
inductive Step
  | call (contextGiven : Bool) (request : Call)
  | takeLastError
  /-- Goes on with another of its contexts, or with none. All of them share the slot. -/
  | turn (context : Address Context)

/-- What the host sees of a step. -/
inductive Event
  /-- A call with a context returned a status. -/
  | returned (context : Address Context) (request : Call) (status : Status)
  /-- The slot was taken. -/
  | answered (message : Option String)
  | turned

namespace Event

/-- A call did not succeed. -/
def Fails : Event → Prop
  | returned _ _ status => status ≠ .ok
  | _ => False

/-- A call did not succeed, and a text is the message of its refusal. -/
def FailsWith (text : String) : Event → Prop
  | returned context request status =>
      status ≠ .ok
      ∧ ∃ refusal, request.refusal? context = some refusal ∧ refusal.message = text
  | _ => False

/-- A message was taken from the slot. -/
def Answers : Event → Prop
  | answered (some _) => True
  | _ => False

/-- No call failed, and no message was taken. -/
def Quiet (event : Event) : Prop :=
  ¬ event.Fails ∧ ¬ event.Answers

theorem FailsWith.fails {event : Event} {text : String} (failed : event.FailsWith text)
    : event.Fails := by
  cases event with
  | returned context request status => exact failed.1
  | answered message => exact failed
  | turned => exact failed

end Event

namespace Session

/-- The state after a step, and what the host sees of it. -/
def advance (session : Session) : Step → Session × Event
  | .call contextGiven request =>
      let ended := session.call contextGiven request
      (ended.session, .returned (session.passed contextGiven) request ended.status)
  | .takeLastError =>
      let (emptied, message) := session.takeLastError
      (emptied, .answered message)
  | .turn context => ({ session with context := context }, .turned)

/-- The state after steps from the start, and what the host saw. -/
def run (steps : List Step) : Session × List Event :=
  steps.foldl
    (fun (session, history) step =>
      let (next, event) := session.advance step
      (next, history ++ [event]))
    (initial, [])

theorem run_snoc (steps : List Step) (step : Step)
    : run (steps ++ [step])
      = (((run steps).1.advance step).1, (run steps).2 ++ [((run steps).1.advance step).2]) := by
  simp only [run, List.foldl_append, List.foldl_cons, List.foldl_nil]

end Session

/-- Some event of a history is marked, and every later event passes. -/
def Since (marked passes : Event → Prop) (history : List Event) : Prop :=
  ∃ earlier event later,
    history = earlier ++ event :: later ∧ marked event ∧ ∀ other ∈ later, passes other

theorem not_since_nil (marked passes : Event → Prop) : ¬ Since marked passes [] := by
  rintro ⟨earlier, event, later, split, -⟩
  simp at split

/-- The last event is the marked one, or it passes. -/
theorem since_snoc {marked passes : Event → Prop} {history : List Event} {last : Event}
    : Since marked passes (history ++ [last])
      ↔ marked last ∨ (passes last ∧ Since marked passes history) := by
  constructor
  · rintro ⟨earlier, event, later, split, marks, pass⟩
    rcases later.eq_nil_or_concat' with rfl | ⟨before, final, rfl⟩
    · obtain ⟨rfl, ⟨⟩⟩ := List.append_inj' split rfl
      exact .inl marks
    · rw [← List.cons_append, ← List.append_assoc] at split
      obtain ⟨rfl, ⟨⟩⟩ := List.append_inj' split rfl
      refine .inr ⟨pass last (by simp), earlier, event, before, rfl, marks, ?_⟩
      exact fun other member => pass other (List.mem_append_left _ member)
  · rintro (marks | ⟨pass, earlier, event, later, rfl, marks, passed⟩)
    · exact ⟨history, last, [], rfl, marks, List.forall_mem_nil _⟩
    · refine ⟨earlier, event, later ++ [last], by simp, marks, ?_⟩
      intro other member
      rcases List.mem_append.mp member with member | member
      · exact passed other member
      · rwa [List.mem_singleton.mp member]

-----------------------------------------------------------------------------------------
-- The slot in a run
-----------------------------------------------------------------------------------------

/-- What a step does to the slot, by what the host sees of it. -/
inductive LastError.Changes (slot : LastError) : Event → LastError → Prop
  | quiet {event : Event} (quiet : event.Quiet) : Changes slot event slot
  | failed {context : Address Context} {request : Call} {refusal : Refusal}
    (refused : request.refusal? context = some refusal)
    : Changes slot (.returned context request refusal.status) (some refusal.message)
  | taken {text : String} (held : slot = some text) : Changes slot (.answered (some text)) none

/-- A step changes the slot as its event tells, by cases on the step. -/
theorem Session.advance_changes (session : Session) (step : Step)
    : session.lastError.Changes (session.advance step).2 (session.advance step).1.lastError := by
  cases step with
  | call contextGiven request =>
      have reports := session.call_reports contextGiven request
      dsimp only [advance]
      cases refused : request.refusal? (session.passed contextGiven) with
      | none =>
          rw [refused] at reports
          cases reports with
          | kept status same =>
              rw [same]
              exact .quiet ⟨fun fails => fails status, id⟩
      | some refusal =>
          rw [refused] at reports
          cases reports with
          | recorded clean status message =>
              rw [message, status]
              exact .failed refused
  | takeLastError =>
      dsimp only [advance, takeLastError]
      cases held : session.lastError with
      | none => exact .quiet ⟨id, id⟩
      | some text => exact .taken rfl
  | turn context => exact .quiet ⟨id, id⟩

section Changes

variable {slot after : LastError} {event : Event}

/-- After a step the slot holds a text that the step recorded, or that it held before a quiet step.
-/
theorem LastError.Changes.holds_iff (changes : slot.Changes event after) (text : String)
    : after = some text ↔ event.FailsWith text ∨ (event.Quiet ∧ slot = some text) := by
  cases changes with
  | quiet quiet =>
      have apart : ¬ event.FailsWith text := fun failed => quiet.1 failed.fails
      simp [apart, quiet]
  | @failed context request refusal refused =>
      have loud : ¬ (Event.returned context request refusal.status).Quiet :=
        fun quiet => quiet.1 refusal.status_ne_ok
      simp [loud, Event.FailsWith, refused, refusal.status_ne_ok]
  | taken held =>
      simp [Event.FailsWith, Event.Quiet, Event.Answers]

/-- After a step the slot is empty just if the step did not fail, and took a message or found the
slot empty.
-/
theorem LastError.Changes.empty_iff (changes : slot.Changes event after)
    : after = none ↔ ¬ event.Fails ∧ (event.Answers ∨ slot = none) := by
  cases changes with
  | quiet quiet => simp [quiet.1, quiet.2]
  | @failed context request refusal refused => simp [Event.Fails, refusal.status_ne_ok]
  | taken held => simp [Event.Fails, Event.Answers]

end Changes

/-- The slot holds a text just if that is the message of the last call that failed and no message
was taken since, by induction on the steps of the run.
-/
theorem Session.run_holds (steps : List Step) (text : String)
    : (run steps).1.lastError = some text
      ↔ Since (Event.FailsWith text) Event.Quiet (run steps).2 := by
  induction steps using List.reverseRecOn with
  | nil => exact ⟨nofun, fun since => absurd since (not_since_nil _ _)⟩
  | append_singleton steps step ih =>
      rw [run_snoc, since_snoc, ← ih]
      exact ((run steps).1.advance_changes step).holds_iff text

/-- The slot is empty just if no call failed since a message was last taken, by induction on the
steps of the run.
-/
theorem Session.run_empty (steps : List Step)
    : (run steps).1.lastError = none
      ↔ ¬ Since Event.Fails (fun event => ¬ event.Answers) (run steps).2 := by
  induction steps using List.reverseRecOn with
  | nil => exact ⟨fun _ => not_since_nil _ _, fun _ => rfl⟩
  | append_singleton steps step ih =>
      rw [run_snoc, since_snoc, not_or, not_and_or, not_not, ← ih]
      exact ((run steps).1.advance_changes step).empty_iff

/-- How a call leaves the slot. A call that succeeds does not touch it. A call that fails leaves a
message of its refusal there, and that message holds no NUL character.
-/
structure Session.Records (session : Session) (contextGiven : Bool) (request : Call) : Prop where
  succeeds
    : (session.call contextGiven request).status = .ok
      → (session.call contextGiven request).session.lastError = session.lastError
  fails
    : (session.call contextGiven request).status ≠ .ok
      → ∃ refusal,
          request.refusal? (session.passed contextGiven) = some refusal
          ∧ (session.call contextGiven request).status = refusal.status
          ∧ (session.call contextGiven request).session.lastError = some refusal.message
          ∧ NulFree refusal.message

/-- Every call leaves the slot so, by cases on how it ends. -/
theorem Session.call_records (session : Session) (contextGiven : Bool) (request : Call)
    : session.Records contextGiven request := by
  have reports := session.call_reports contextGiven request
  cases refused : request.refusal? (session.passed contextGiven) with
  | none =>
      rw [refused] at reports
      cases reports with
      | kept status same => exact ⟨fun _ => same, fun failed => absurd status failed⟩
  | some refusal =>
      rw [refused] at reports
      cases reports with
      | recorded clean status message =>
          refine ⟨fun succeeded => ?_, fun _ => ⟨refusal, refused, status, message, clean⟩⟩
          exact absurd (status.symm.trans succeeded) refusal.status_ne_ok

/-- The slot of the last error after any steps of a host on a thread whose slot was empty: calls
record their failures and nothing else, and the slot is answered and emptied. The answer is nothing
just if no call failed since a message was last answered. It is a text just if the last call that
failed since then was refused with that text.
-/
theorem Session.run_lastError (steps : List Step)
    : let session := (run steps).1
      let history := (run steps).2
      (∀ contextGiven request, session.Records contextGiven request)
      ∧ session.takeLastError.1 = { session with lastError := none }
      ∧ (session.takeLastError.2 = none
          ↔ ¬ Since Event.Fails (fun event => ¬ event.Answers) history)
      ∧ ∀ text,
          session.takeLastError.2 = some text
          ↔ Since (Event.FailsWith text) Event.Quiet history := by
  exact ⟨(run steps).1.call_records, rfl, run_empty steps, run_holds steps⟩

end TensorGraph.Host
