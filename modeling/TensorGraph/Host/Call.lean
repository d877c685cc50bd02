import TensorGraph.Graph.InPlace
import TensorGraph.Host.Context

/-! The calls that a host program can make.

A host passes numbers, addresses and lengths. An address is modelled by the memory behind it, or
by nothing if it is null. A call checks its arguments, changes the graph of its context and writes
to its output variables step by step, and nothing undoes the steps made before it is refused.
-/

namespace TensorGraph.Host

/-- The memory behind an address; nothing for the null address. -/
abbrev Address (α : Type) := Option α

/-- The bytes bound to a parameter. -/
structure Input where
  node : Nat
  data : Address Bytes
  length : Nat
  deriving DecidableEq, Repr

/-- A buffer that receives the byte image of a result, and the number of bytes received. -/
structure OutputBuffer where
  data : Address Bytes
  capacity : Nat
  written : Nat
  deriving DecidableEq, Repr

/-- The preparation that a context makes unless told otherwise. -/
def defaultConfig : Graph.Config :=
  {}

-----------------------------------------------------------------------------------------
-- Arguments
-----------------------------------------------------------------------------------------

/-- The elements at an address; no elements need no address. -/
def slice {α : Type} (address : Address (List α)) (count : Nat) (what : String)
    : Except Refusal (List α) :=
  if count = 0 then .ok []
  else
    match address with
    | none => .error (.argument (what ++ " is null"))
    | some elements => .ok (elements.take count)

/-- Two slices. If both are refused, the second refusal is the one reported. -/
def slices {α β : Type} (first : Except Refusal α) (second : Except Refusal β)
    : Except Refusal (α × β) :=
  match first, second with
  | .ok x, .ok y => .ok (x, y)
  | .error _, .error refusal => .error refusal
  | .error refusal, .ok _ => .error refusal
  | .ok _, .error refusal => .error refusal

def elementType (tag : Nat) : Except Refusal DType :=
  match DType.ofTag? tag with
  | some dtype => .ok dtype
  | none => .error (.argument s!"unknown element type tag {tag}")

def reductionKind (tag : Nat) : Except Refusal Reduction.Kind :=
  match Reduction.Kind.ofTag? tag with
  | some kind => .ok kind
  | none => .error (.argument s!"unknown reduction kind {tag}")

/-- The context behind an address, where the output variables that a call needs have addresses. -/
def required (context : Address Context) (addressed : Bool) : Except Refusal Context :=
  match context, addressed with
  | some context, true => .ok context
  | _, _ => .error (.argument "null argument")

def graphRefusal {α : Type} (outcome : Except GraphError α) : Except Refusal α :=
  outcome.mapError .graph

-----------------------------------------------------------------------------------------
-- The steps of a call
-----------------------------------------------------------------------------------------

/-- What a call wrote to its output variables. -/
structure Writes where
  node : Option Nat := none
  count : Option Nat := none
  elementType : Option Nat := none
  rank : Option Nat := none
  dims : List Nat := []
  outputs : Address (List OutputBuffer) := none

/-- The context that a call works on, and what it has written so far. -/
structure Frame where
  context : Context
  writes : Writes

/-- A series of steps of a call. -/
abbrev Body (α : Type) :=
  ExceptT Refusal (StateM Frame) α

namespace Body

variable {α : Type}

/-- How the steps of a call end, and the frame then. -/
def apply (body : Body α) (frame : Frame) : Except Refusal α × Frame :=
  body.run.run frame

/-- A step that may be refused and changes nothing. -/
def check (outcome : Except Refusal α) : Body α :=
  MonadExcept.ofExcept outcome

/-- Changes the graph of the context. -/
def onGraph (change : Graph.Change α) : Body α := do
  let frame ← get
  let (outcome, graph) := change.apply frame.context.graph
  set { frame with context := { frame.context with graph := graph } }
  check (outcome.mapError .ofFailure)

/-- Writes to an output variable. -/
def write (assign : Writes → Writes) : Body Unit :=
  modify fun frame => { frame with writes := assign frame.writes }

def writeNode (id : NodeId) : Body Unit :=
  write fun writes => { writes with node := some id }

/-- Writes extents one after the other. -/
def writeDims : List Nat → Body Unit
  | [] => pure ()
  | extent :: rest => do
      write fun writes => { writes with dims := writes.dims ++ [extent] }
      writeDims rest

end Body

-----------------------------------------------------------------------------------------
-- Building and querying
-----------------------------------------------------------------------------------------

open Body

def addParameter (tag : Nat) (dims : Address (List Nat)) (rank : Nat) : Body Unit := do
  let dtype ← check (elementType tag)
  let dims ← check (slice dims rank "dims")
  let id ← onGraph (.add (.parameter ⟨dtype, ⟨dims⟩⟩) [])
  writeNode id

/-- Adds a constant with the given byte image. -/
def addConstant (tag : Nat) (dims : Address (List Nat)) (rank : Nat) (data : Address Bytes)
    (length : Nat)
    : Body Unit := do
  let dtype ← check (elementType tag)
  let (dims, bytes) ← check (slices (slice dims rank "dims") (slice data length "data"))
  let value ← check (graphRefusal ((Tensor.ofBytes dtype ⟨dims⟩ bytes).mapError .tensor))
  let id ← onGraph (.add (.constant value) [])
  writeNode id

/-- Adds a reduction of the first output of a node over the axes of the first output of another. -/
def addReduction (tag data axes : Nat) (keepDims : Bool) : Body Unit := do
  let kind ← check (reductionKind tag)
  let frame ← get
  let dataOutput ← check (graphRefusal (frame.context.output data 0))
  let axesOutput ← check (graphRefusal (frame.context.output axes 0))
  let id ← onGraph (.add (.reduction ⟨kind, keepDims, .empty⟩) [dataOutput, axesOutput])
  writeNode id

def addResult (node index : Nat) : Body Unit := do
  let frame ← get
  let output ← check (graphRefusal (frame.context.output node index))
  onGraph (.addResult output)

/-- Writes the element type of an output, its rank, and at most `capacity` of its extents. -/
def outputShape (node index : Nat) (dimsVariable : Bool) (capacity : Nat) : Body Unit := do
  let frame ← get
  let desc ← check (graphRefusal (frame.context.outputDesc node index))
  if 0 < capacity ∧ !dimsVariable then throw (.argument "dims_out is null")
  else
    write fun writes => { writes with elementType := some desc.dtype.tag }
    write fun writes => { writes with rank := some desc.shape.rank }
    writeDims (desc.shape.dims.take capacity)

/-- Prepares the graph and writes how many nodes were replaced, if that has an address. -/
def prepare (countVariable : Bool) : Body Unit := do
  let frame ← get
  let simplified := frame.context.graph.prepare frame.context.config
  set { frame with context := { frame.context with graph := simplified.graph } }
  let count ← check (simplified.outcome.mapError .ofFailure)
  if countVariable then write fun writes => { writes with count := some count } else pure ()

-----------------------------------------------------------------------------------------
-- Evaluation
-----------------------------------------------------------------------------------------

/-- The bindings that the inputs describe. -/
def bindAll (context : Context) : List Input → Except Refusal Graph.Bindings
  | [] => .ok []
  | input :: rest => do
      let bytes ← slice input.data input.length "input data"
      let binding ← graphRefusal (context.bind input.node bytes)
      let later ← bindAll context rest
      .ok (binding :: later)

/-- Writes bytes to the start of the memory behind an address. -/
def OutputBuffer.fill (buffer : OutputBuffer) (bytes : Bytes) : OutputBuffer :=
  { buffer with
    data := buffer.data.map fun memory => bytes ++ memory.drop bytes.length
    written := bytes.length }

/-- Whether a buffer can receive bytes. -/
def OutputBuffer.holds (buffer : OutputBuffer) (bytes : Bytes) : Bool :=
  bytes.length ≤ buffer.capacity && (bytes.isEmpty || buffer.data.isSome)

/-- Writes the byte images of tensors to buffers, up to the first buffer that cannot receive its
image; `index` is the number of the first buffer.
-/
def deliver (index : Nat)
    : List Tensor → List OutputBuffer → List OutputBuffer × Except Refusal Unit
  | tensor :: tensors, buffer :: buffers =>
      let bytes := tensor.toBytes
      let needed := bytes.length
      let capacity := buffer.capacity
      if buffer.holds bytes then
        let (filled, outcome) := deliver (index + 1) tensors buffers
        (buffer.fill bytes :: filled, outcome)
      else
        (buffer :: buffers,
          .error (.argument s!"output {index} needs {needed} bytes, buffer holds {capacity}"))
  | _, buffers => (buffers, .ok ())

/-- The result tensors and the buffers for them, if the arguments fit the graph and it evaluates.
-/
def evaluate (context : Address Context) (inputs : Address (List Input)) (inputCount : Nat)
    (outputs : Address (List OutputBuffer)) (outputCount : Nat)
    : Except Refusal (List Tensor) := do
  let context ← required context true
  let inputs ← slice inputs inputCount "inputs"
  let results := context.graph.results.length
  if outputCount ≠ results then
    .error (.argument s!"graph has {results} results, got {outputCount} output buffers")
  else if 0 < outputCount ∧ outputs.isNone then .error (.argument "outputs is null")
  else
    let bindings ← bindAll context inputs
    (context.execute bindings).mapError .ofFailure

/-- Evaluates the graph and writes the results to the buffers. -/
def execute (context : Address Context) (inputs : Address (List Input)) (inputCount : Nat)
    (outputs : Address (List OutputBuffer)) (outputCount : Nat)
    : Address (List OutputBuffer) × Except Refusal Unit :=
  match evaluate context inputs inputCount outputs outputCount with
  | .error refusal => (outputs, .error refusal)
  | .ok tensors =>
      match outputs with
      | none => (none, .ok ())
      | some buffers =>
          let (filled, outcome) := deliver 0 tensors buffers
          (some filled, outcome)

end TensorGraph.Host
