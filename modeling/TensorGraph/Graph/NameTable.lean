/-! The names in use in a graph and the generation of new ones.

A generated name is a type's name, an underscore and a number. Each type counts its own numbers
and never goes back; numbers whose name is taken are passed over.
-/

namespace TensorGraph

/-- The names in use, and for each type the number at which the search for a free name starts. -/
structure NameTable where
  used : List String
  counters : List (String × Nat)
  deriving DecidableEq, Repr

namespace NameTable

def empty : NameTable :=
  ⟨[], []⟩

/-- The number at which the names of a type are at. -/
def counter (table : NameTable) (type : String) : Nat :=
  (table.counters.lookup type).getD 0

/-- The name of a type with a number. -/
def numbered (type : String) (number : Nat) : String :=
  type ++ "_" ++ toString number

/-- The least number from the counter on whose name is free. One of as many numbers as there are
names in use and one more must be free, so the search is over those.
-/
def freeNumber (table : NameTable) (type : String) : Nat :=
  let start := table.counter type
  (((List.range (table.used.length + 1)).map (start + ·)).find? fun number =>
    numbered type number ∉ table.used).getD start

/-- Takes a generated name into use. -/
def fresh (table : NameTable) (type : String) : NameTable × String :=
  let number := table.freeNumber type
  let name := numbered type number
  (⟨name :: table.used,
      (type, number + 1) :: table.counters.filter fun entry => entry.1 ≠ type⟩,
    name)

/-- Takes one name out of use and another one into use. -/
def rename (table : NameTable) (old new : String) : NameTable :=
  ⟨new :: table.used.erase old, table.counters⟩

end NameTable

end TensorGraph
