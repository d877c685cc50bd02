import TensorGraph.Host.Call

/-! A host program's session: one context, if it has one, and the slot of the last error. -/

namespace TensorGraph.Host

/-- The state behind the calls of one host program. -/
structure Session where
  context : Address Context
  lastError : LastError

/-- A call with its arguments. -/
inductive Call
  /-- Makes a context and writes its address to a variable. -/
  | create (config : Graph.Config) (contextVariable : Bool)
  /-- Gives the context up. The null address is accepted and names nothing to give up. -/
  | destroy
  | addParameter (tag : Nat) (dims : Address (List Nat)) (rank : Nat) (nodeVariable : Bool)
  | addConstant (tag : Nat) (dims : Address (List Nat)) (rank : Nat) (data : Address Bytes)
      (length : Nat) (nodeVariable : Bool)
  | addReduction (tag data axes : Nat) (keepDims nodeVariable : Bool)
  | addResult (node index : Nat)
  | prepare (countVariable : Bool)
  | outputShape (node index : Nat) (typeVariable dimsVariable rankVariable : Bool)
      (capacity : Nat)
  | execute (inputs : Address (List Input)) (inputCount : Nat)
      (outputs : Address (List OutputBuffer)) (outputCount : Nat)

/-- The state after a call, its status and what it wrote. -/
structure Return where
  session : Session
  status : Status
  writes : Writes

namespace Session

/-- The state before the first call. -/
def initial : Session :=
  ⟨none, none⟩

/-- Ends a call with a refusal. -/
def refused (session : Session) (refusal : Refusal) (writes : Writes) : Return :=
  ⟨{ session with lastError := .record refusal.message }, refusal.status, writes⟩

/-- Ends a call in the frame that its steps left. -/
def conclude (session : Session) : Except Refusal Unit × Frame → Return
  | (.ok (), frame) => ⟨{ session with context := some frame.context }, .ok, frame.writes⟩
  | (.error refusal, frame) =>
      { session with context := some frame.context }.refused refusal frame.writes

/-- Makes the steps of a call on its context, if the call has the addresses that it needs. -/
def within (session : Session) (context : Address Context) (addressed : Bool) (body : Body Unit)
    : Return :=
  match required context addressed with
  | .error refusal => session.refused refusal {}
  | .ok present => session.conclude (body.apply ⟨present, {}⟩)

/-- Ends a call that leaves the context as it is. -/
def query (session : Session) (writes : Writes) : Except Refusal Unit → Return
  | .ok () => ⟨session, .ok, writes⟩
  | .error refusal => session.refused refusal writes

/-- The context whose address a call gets, if it gets one. -/
def passed (session : Session) (contextGiven : Bool) : Address Context :=
  if contextGiven then session.context else none

/-- Makes a call. The call gets the address of the context, or the null address if
`contextGiven` is false.
-/
def call (session : Session) (contextGiven : Bool) (request : Call) : Return :=
  let context := session.passed contextGiven
  match request with
  | .create config contextVariable =>
      if contextVariable then ⟨{ session with context := some (.create config) }, .ok, {}⟩
      else session.refused (.argument "ctx_out is null") {}
  | .destroy =>
      ⟨{ session with context := if contextGiven then none else session.context }, .ok, {}⟩
  | .addParameter tag dims rank nodeVariable =>
      session.within context nodeVariable (addParameter tag dims rank)
  | .addConstant tag dims rank data length nodeVariable =>
      session.within context nodeVariable (addConstant tag dims rank data length)
  | .addReduction tag data axes keepDims nodeVariable =>
      session.within context nodeVariable (addReduction tag data axes keepDims)
  | .addResult node index => session.within context true (addResult node index)
  | .prepare countVariable => session.within context true (prepare countVariable)
  | .outputShape node index typeVariable dimsVariable rankVariable capacity =>
      session.within context (typeVariable && rankVariable)
        (outputShape node index dimsVariable capacity)
  | .execute inputs inputCount outputs outputCount =>
      let (filled, outcome) := Host.execute context inputs inputCount outputs outputCount
      session.query { outputs := filled } outcome

/-- Takes the message of the last call that failed. -/
def takeLastError (session : Session) : Session × Option String :=
  ({ session with lastError := none }, session.lastError)

/-- Records an error of the graph as a failed call does. -/
def fail (session : Session) (cause : GraphError) : Session × Status :=
  let ended := session.refused (.graph cause) {}
  (ended.session, ended.status)

end Session

end TensorGraph.Host
