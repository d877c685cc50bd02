import TensorGraph.Tensor.Error

/-! Sets of axes, kept as strictly ascending lists.

Two sets are equal exactly when they have the same members, so a set does not remember the
order or the repetitions of the list it was built from.
-/

namespace TensorGraph

/-- A finite set of axis numbers in ascending order. -/
structure AxisSet where
  toList : List Nat
  ascending : toList.Pairwise (· < ·)
  deriving DecidableEq, Repr

namespace AxisSet

def empty : AxisSet :=
  ⟨[], .nil⟩

instance : Inhabited AxisSet :=
  ⟨empty⟩

instance : Membership Nat AxisSet :=
  ⟨fun axes axis => axis ∈ axes.toList⟩

instance (axis : Nat) (axes : AxisSet) : Decidable (axis ∈ axes) :=
  inferInstanceAs (Decidable (axis ∈ axes.toList))

/-- Puts `axis` at its place in an ascending list that may already hold it. -/
def place (axis : Nat) : List Nat → List Nat
  | [] => [axis]
  | head :: rest =>
      if axis < head then axis :: head :: rest
      else if axis = head then head :: rest
      else head :: place axis rest

theorem mem_place {axis other : Nat} {axes : List Nat}
    : other ∈ place axis axes ↔ other = axis ∨ other ∈ axes := by
  induction axes with
  | nil => simp [place]
  | cons head rest ih =>
      simp only [place]
      split
      · simp
      · split
        · subst axis
          simp
        · simp only [List.mem_cons, ih]
          exact or_left_comm

theorem place_ascending {axis : Nat} {axes : List Nat} (h : axes.Pairwise (· < ·))
    : (place axis axes).Pairwise (· < ·) := by
  induction axes with
  | nil => simp [place]
  | cons head rest ih =>
      simp only [place]
      split
      next less =>
        refine List.pairwise_cons.mpr ⟨?_, h⟩
        intro other member
        rcases List.mem_cons.mp member with rfl | later
        · exact less
        · exact Nat.lt_trans less ((List.pairwise_cons.mp h).1 other later)
      next notLess =>
        split
        · exact h
        next different =>
          refine List.pairwise_cons.mpr ⟨?_, ih (List.pairwise_cons.mp h).2⟩
          intro other member
          rcases mem_place.mp member with rfl | later
          · omega
          · exact (List.pairwise_cons.mp h).1 other later

def insert (axis : Nat) (axes : AxisSet) : AxisSet :=
  ⟨place axis axes.toList, place_ascending axes.ascending⟩

/-- The set of the numbers in a list. -/
def ofList (axes : List Nat) : AxisSet :=
  axes.foldr insert empty

def size (axes : AxisSet) : Nat :=
  axes.toList.length

def isEmpty (axes : AxisSet) : Bool :=
  axes.toList.isEmpty

/-- The largest axis. -/
def max? (axes : AxisSet) : Option Nat :=
  axes.toList.getLast?

/-- Every axis is below `rank`. -/
def fitsRank (axes : AxisSet) (rank : Nat) : Bool :=
  match axes.max? with
  | none => true
  | some axis => axis < rank

def render (axes : AxisSet) : String :=
  braced axes.toList

/-- The axis that a signed value names in a tensor of the given rank: a negative value counts
from the last axis. The rank is read as a signed word, so the range is `-rank` to `rank - 1`.
-/
def resolve (rank : Nat) (value : Int64) : Except TensorError Nat :=
  let bound := Int64.ofNat rank
  if value < -bound ∨ bound ≤ value then
    .error (.invalidAxis value rank)
  else
    .ok (if value < 0 then value + bound else value).toNatClampNeg

/-- The axes that signed values name; the first value out of range is the one reported. -/
def normalize (values : List Int64) (rank : Nat) : Except TensorError AxisSet :=
  (values.mapM (resolve rank)).map ofList

@[simp]
theorem mem_toList {axis : Nat} {axes : AxisSet} : axis ∈ axes.toList ↔ axis ∈ axes :=
  .rfl

@[simp]
theorem not_mem_empty (axis : Nat) : axis ∉ empty :=
  List.not_mem_nil

@[simp]
theorem mem_insert {axis other : Nat} {axes : AxisSet}
    : other ∈ axes.insert axis ↔ other = axis ∨ other ∈ axes :=
  mem_place

@[simp]
theorem mem_ofList {axis : Nat} {axes : List Nat} : axis ∈ ofList axes ↔ axis ∈ axes := by
  induction axes with
  | nil => simp [ofList]
  | cons head rest ih =>
      rw [ofList, List.foldr_cons, mem_insert, ← ofList, ih, List.mem_cons]

end AxisSet

end TensorGraph
