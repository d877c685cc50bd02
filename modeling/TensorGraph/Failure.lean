/-! How a computation ends without an answer.

A refused input is reported as an error value of the operation's own error type. A fault is
different: the computation stops in the middle and no error value describes it.
-/

namespace TensorGraph

/-- A stop that no error value describes. -/
inductive Fault
  /-- A buffer was requested whose byte size no machine word holds. -/
  | capacityOverflow
  /-- The least 64-bit integer was divided by minus one. -/
  | divisionOverflow
  /-- An element or an axis beyond the end was touched. -/
  | indexOutOfRange
  deriving DecidableEq, Repr

/-- Either a reported error or a fault. -/
inductive Failure (ε : Type)
  | error (cause : ε)
  | fault (fault : Fault)
  deriving DecidableEq, Repr

namespace Failure

/-- Reads the reported error as one of another error type. -/
def map {ε δ : Type} (f : ε → δ) : Failure ε → Failure δ
  | error cause => error (f cause)
  | fault stop => fault stop

end Failure

/-- Lets an operation that cannot fault be used where faults are possible. -/
def orFailure {ε α : Type} (outcome : Except ε α) : Except (Failure ε) α :=
  outcome.mapError .error

/-- Lets an operation that can only fault be used where errors are possible. -/
def orFault {ε α : Type} (outcome : Except Fault α) : Except (Failure ε) α :=
  outcome.mapError .fault

end TensorGraph
