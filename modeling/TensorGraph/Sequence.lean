/-! Text of bracketed sequences of numbers, shared by shapes, axis sets and errors. -/

namespace TensorGraph

/-- The numbers in order, separated by a comma and a blank. -/
def commaSeparated (numbers : List Nat) : String :=
  ", ".intercalate (numbers.map toString)

/-- The numbers between square brackets. -/
def bracketed (numbers : List Nat) : String :=
  "[" ++ commaSeparated numbers ++ "]"

/-- The numbers between curly braces. -/
def braced (numbers : List Nat) : String :=
  "\x7b" ++ commaSeparated numbers ++ "\x7d"

end TensorGraph
