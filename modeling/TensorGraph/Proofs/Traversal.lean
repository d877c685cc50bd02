import Mathlib.Data.List.Forall2
import TensorGraph.Failure

/-! Success of computations that may fail: of a sequence of two, of one for every element of a
list, of one that is used where faults are possible, and of one that changes a state in place.
-/

namespace TensorGraph

variable {ε δ α β γ : Type}

/-- A sequence of computations succeeds exactly if both do, by cases on the first. -/
theorem bind_eq_ok_iff {first : Except ε α} {next : α → Except ε β} {result : β}
    : first >>= next = .ok result ↔ ∃ value, first = .ok value ∧ next value = .ok result := by
  cases first with
  | error cause => simp [bind, Except.bind]
  | ok value => simp [bind, Except.bind]

/-- A sequence of computations fails as the first does, or as the second after it, by cases on the
first.
-/
theorem bind_eq_error_iff {first : Except ε α} {next : α → Except ε β} {cause : ε}
    : first >>= next = .error cause
      ↔ first = .error cause ∨ ∃ value, first = .ok value ∧ next value = .error cause := by
  cases first with
  | error other => simp [bind, Except.bind]
  | ok value => simp [bind, Except.bind]

/-- A mapped computation succeeds exactly if the computation does. -/
theorem map_eq_ok_iff {computed : Except ε α} {f : α → β} {result : β}
    : computed.map f = .ok result ↔ ∃ value, computed = .ok value ∧ f value = result := by
  cases computed <;> simp [Except.map]

/-- Reading errors as errors of another type does not change success. -/
theorem mapError_eq_ok_iff {computed : Except ε α} {f : ε → δ} {result : α}
    : computed.mapError f = .ok result ↔ computed = .ok result := by
  cases computed <;> simp [Except.mapError]

theorem orFailure_eq_ok_iff {computed : Except ε α} {result : α}
    : orFailure computed = .ok result ↔ computed = .ok result :=
  mapError_eq_ok_iff

theorem orFault_eq_ok_iff {computed : Except Fault α} {result : α}
    : (orFault computed : Except (Failure ε) α) = .ok result ↔ computed = .ok result :=
  mapError_eq_ok_iff

theorem orFailure_ne_fault {computed : Except ε α} {fault : Fault}
    : orFailure computed ≠ .error (.fault fault) := by
  cases computed <;> simp [orFailure, Except.mapError]

theorem orFault_eq_fault_iff {computed : Except Fault α} {fault : Fault}
    : (orFault computed : Except (Failure ε) α) = .error (.fault fault)
      ↔ computed = .error fault := by
  cases computed <;> simp [orFault, Except.mapError]

/-- A traversal succeeds exactly if each element does, by list induction. -/
theorem mapM_eq_ok_iff {f : α → Except ε β} {xs : List α} {ys : List β}
    : xs.mapM f = .ok ys ↔ List.Forall₂ (fun x y => f x = .ok y) xs ys := by
  induction xs generalizing ys with
  | nil =>
      rw [List.mapM_nil, List.forall₂_nil_left_iff]
      exact ⟨fun same => (Except.ok.inj same).symm, fun same => congrArg Except.ok same.symm⟩
  | cons head rest ih =>
      rw [List.mapM_cons, List.forall₂_cons_left_iff]
      simp only [bind_eq_ok_iff, pure, Except.pure, Except.ok.injEq, ih]
      constructor
      · rintro ⟨y, first, later, all, rfl⟩
        exact ⟨y, later, first, all, rfl⟩
      · rintro ⟨y, later, first, all, rfl⟩
        exact ⟨y, first, later, all, rfl⟩

/-- An optional traversal succeeds exactly if each element does, by list induction. -/
theorem mapM_eq_some_iff {f : α → Option β} {xs : List α} {ys : List β}
    : xs.mapM f = some ys ↔ List.Forall₂ (fun x y => f x = some y) xs ys := by
  induction xs generalizing ys with
  | nil =>
      rw [List.mapM_nil, List.forall₂_nil_left_iff]
      exact ⟨fun same => (Option.some.inj same).symm, fun same => congrArg some same.symm⟩
  | cons head rest ih =>
      rw [List.mapM_cons, List.forall₂_cons_left_iff]
      simp only [Option.bind_eq_bind, Option.bind_eq_some_iff, Option.pure_def, ih,
        Option.some.injEq]
      constructor
      · rintro ⟨y, first, later, all, rfl⟩
        exact ⟨y, later, first, all, rfl⟩
      · rintro ⟨y, later, first, all, rfl⟩
        exact ⟨y, first, later, all, rfl⟩

/-- Each element of the first of two paired lists has a partner at its place, by induction on the
pairing.
-/
theorem exists_partner_at {related : α → β → Prop} {xs : List α} {ys : List β}
    (pairs : List.Forall₂ related xs ys) {place : Nat} {x : α} (present : xs[place]? = some x)
    : ∃ y, ys[place]? = some y ∧ related x y := by
  induction pairs generalizing place with
  | nil => cases present
  | @cons head partner rest partners first later ih =>
      cases place with
      | zero =>
          cases present
          exact ⟨partner, rfl, first⟩
      | succ place => exact ih present

/-- Each element of the first of two paired lists has a partner. -/
theorem exists_partner {related : α → β → Prop} {xs : List α} {ys : List β}
    (pairs : List.Forall₂ related xs ys) {x : α} (member : x ∈ xs)
    : ∃ y ∈ ys, related x y := by
  obtain ⟨place, present⟩ := List.getElem?_of_mem member
  obtain ⟨y, partner, here⟩ := exists_partner_at pairs present
  exact ⟨y, List.mem_of_getElem? partner, here⟩

/-- The elements at one place of two paired lists are related, by induction on the pairing. -/
theorem related_of_getElem? {related : α → β → Prop} {xs : List α} {ys : List β}
    (pairs : List.Forall₂ related xs ys) {place : Nat} {x : α} {y : β}
    (left : xs[place]? = some x) (right : ys[place]? = some y)
    : related x y := by
  induction pairs generalizing place with
  | nil => cases left
  | cons first _ ih =>
      cases place with
      | zero =>
          cases left
          cases right
          exact first
      | succ place => exact ih left right

/-- Partners of the same elements are related, if the elements make them so. By induction on the
first pairing.
-/
theorem relate_partners {first : α → β → Prop} {second : α → γ → Prop} {related : β → γ → Prop}
    {xs : List α} {ys : List β} {zs : List γ} (left : List.Forall₂ first xs ys)
    (right : List.Forall₂ second xs zs)
    (join : ∀ x ∈ xs, ∀ y z, first x y → second x z → related y z)
    : List.Forall₂ related ys zs := by
  induction left generalizing zs with
  | nil =>
      cases right
      exact .nil
  | cons here _ ih =>
      obtain ⟨z, rest, there, later, rfl⟩ := List.forall₂_cons_left_iff.mp right
      refine .cons (join _ List.mem_cons_self _ _ here there) (ih later ?_)
      intro x member
      exact join x (List.mem_cons_of_mem _ member)

/-- A traversal depends on the elements of the list only, by list induction. -/
theorem mapM_congr {m : Type → Type} [Monad m] [LawfulMonad m] {f g : α → m β} {xs : List α}
    (same : ∀ x ∈ xs, f x = g x)
    : xs.mapM f = xs.mapM g := by
  induction xs with
  | nil => rfl
  | cons head rest ih =>
      rw [List.mapM_cons, List.mapM_cons, same head List.mem_cons_self,
        ih fun x member => same x (List.mem_cons_of_mem _ member)]

/-- Why a computation failed, if it did. -/
def failure? : Except ε α → Option ε
  | .ok _ => none
  | .error cause => some cause

@[simp]
theorem failure?_ok (value : α) : failure? (.ok value : Except ε α) = none := rfl

@[simp]
theorem failure?_error (cause : ε) : failure? (.error cause : Except ε α) = some cause := rfl

theorem failure?_eq_none_iff {computed : Except ε α}
    : failure? computed = none ↔ ∃ value, computed = .ok value := by
  cases computed <;> simp

theorem failure?_eq_some_iff {computed : Except ε α} {cause : ε}
    : failure? computed = some cause ↔ computed = .error cause := by
  cases computed <;> simp

/-- A traversal fails as the first element that fails, by list induction. -/
theorem failure?_mapM {f : α → Except ε β} {xs : List α}
    : failure? (xs.mapM f) = xs.findSome? fun x => failure? (f x) := by
  induction xs with
  | nil => rfl
  | cons head rest ih =>
      rw [List.mapM_cons, List.findSome?_cons, ← ih]
      cases f head with
      | error cause => rfl
      | ok y => cases rest.mapM f <;> rfl

theorem run_get_bind {σ : Type} (next : σ → ExceptT ε (StateM σ) α) (state : σ)
    : (get >>= next).run.run state = (next state).run.run state :=
  rfl

/-- A failure on the way leaves the state as it was. -/
theorem run_ofExcept_bind {σ : Type} (outcome : Except ε α) (next : α → ExceptT ε (StateM σ) β)
    (state : σ)
    : (MonadExcept.ofExcept outcome >>= next).run.run state
      = match outcome with
        | .ok value => (next value).run.run state
        | .error cause => (.error cause, state) := by
  cases outcome <;> rfl

end TensorGraph
