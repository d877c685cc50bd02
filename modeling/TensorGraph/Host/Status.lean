import TensorGraph.Failure
import TensorGraph.Graph.Error

/-! The status of a call from a host program, and the message of the last call that failed. -/

namespace TensorGraph.Host

/-- How a call ended. -/
inductive Status
  | ok
  | invalidArgument
  | shapeInference
  | argumentCount
  | unsupportedType
  | execution
  | internal
  deriving DecidableEq, Repr

namespace Status

/-- The number under which a status crosses the call boundary. -/
def code : Status → Nat
  | ok => 0
  | invalidArgument => 1
  | shapeInference => 2
  | argumentCount => 3
  | unsupportedType => 4
  | execution => 5
  | internal => 6

/-- The status that reports an error of the graph. -/
def ofGraphError : GraphError → Status
  | .shapeInference .. => shapeInference
  | .argumentCount .. => argumentCount
  | .unsupportedType .. => unsupportedType
  | .invalidNode _ => invalidArgument
  | .invalidOutput _ => invalidArgument
  | .duplicateName _ => invalidArgument
  | .parameterMismatch .. => invalidArgument
  | .missingParameter _ => invalidArgument
  | .tensor _ => invalidArgument
  | .noDefaultValue _ => execution
  | .other _ => execution

end Status

/-- Why a call is refused. -/
inductive Refusal
  /-- An argument is unusable in itself. -/
  | argument (reason : String)
  /-- The graph refuses the operation. -/
  | graph (cause : GraphError)
  /-- The operation stopped in the middle. -/
  | fault (fault : Fault)
  deriving DecidableEq, Repr

namespace Refusal

def status : Refusal → Status
  | argument _ => .invalidArgument
  | graph cause => .ofGraphError cause
  | fault _ => .internal

def message : Refusal → String
  | argument reason => reason
  | graph cause => cause.message
  | fault _ => "internal panic"

def ofFailure : Failure GraphError → Refusal
  | .error cause => graph cause
  | .fault stop => fault stop

end Refusal

/-- The message of the last call that failed, until it is taken. -/
abbrev LastError := Option String

namespace LastError

/-- The slot after a call failed with a message. The host reads messages up to the first NUL, so a
message that holds one cannot be kept.
-/
def record (message : String) : LastError :=
  if message.toList.contains '\x00' then none else some message

end LastError

end TensorGraph.Host
