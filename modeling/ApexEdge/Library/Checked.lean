import ApexEdge.Library.Sequence
import Mathlib.Algebra.Order.BigOperators.Group.List
import Mathlib.Algebra.Order.Ring.Nat

/-! Computations that check their arithmetic, beside the same ones whose arithmetic wraps
around. A checked one stops where a result leaves its type. -/

namespace ApexEdge.Library.Checked

/-- The result of an operation, if its type has a place for it. -/
def below (limit result : Nat) : Option Nat := if result < limit then some result else none

def sub (first second : Nat) : Option Nat := if second ≤ first then some (first - second) else none

/-- Add up terms one after another. -/
def sum (limit start : Nat) (terms : List Nat) : Option Nat :=
  match terms with
  | [] => some start
  | term :: terms => (below limit (start + term)).bind fun start => sum limit start terms

/-- The checked computation ends just when everything fits, and with what the other one gives. -/
def Exact {α : Type} (checked : Option α) (wrapped : α) (fits : Prop) : Prop :=
  ∀ value, checked = some value ↔ fits ∧ value = wrapped

section Rules
variable {α β γ State Step : Type} {checked : Option α} {wrapped : α} {fits : Prop}

theorem Exact.isSome (exact : Exact checked wrapped fits) : checked.isSome ↔ fits := by
  rw [Option.isSome_iff_exists]
  constructor
  · intro ⟨value, ends⟩
    exact ((exact value).mp ends).1
  · intro fit
    exact ⟨wrapped, (exact wrapped).mpr ⟨fit, rfl⟩⟩

theorem Exact.pure (value : α) : Exact (some value) value True := by
  intro other
  rw [Option.some_inj, true_and]
  exact eq_comm

/-- What fits may be told in other words, and the result may be written otherwise where it fits. -/
theorem Exact.congr {other : α} {holds : Prop} (exact : Exact checked wrapped fits) (same : fits ↔ holds)
    (equal : fits → wrapped = other) : Exact checked other holds := by
  intro value
  rw [exact value, ← same]
  exact and_congr_right fun fit => by rw [equal fit]

theorem Exact.bind {next : α → Option β} {last : β} {rest : Prop} (exact : Exact checked wrapped fits)
    (follows : fits → Exact (next wrapped) last rest) : Exact (checked.bind next) last (fits ∧ rest) := by
  intro value
  rw [Option.bind_eq_some_iff]
  constructor
  · intro ⟨found, ends, rests⟩
    obtain ⟨fit, rfl⟩ := (exact found).mp ends
    obtain ⟨restFits, same⟩ := (follows fit value).mp rests
    exact ⟨⟨fit, restFits⟩, same⟩
  · intro ⟨⟨fit, restFits⟩, same⟩
    exact ⟨wrapped, (exact wrapped).mpr ⟨fit, rfl⟩, (follows fit value).mpr ⟨restFits, same⟩⟩

theorem Exact.map (exact : Exact checked wrapped fits) (f : α → β) : Exact (checked.map f) (f wrapped) fits := by
  intro value
  rw [Option.map_eq_some_iff]
  constructor
  · intro ⟨found, ends, same⟩
    obtain ⟨fit, rfl⟩ := (exact found).mp ends
    exact ⟨fit, same.symm⟩
  · intro ⟨fit, same⟩
    exact ⟨wrapped, (exact wrapped).mpr ⟨fit, rfl⟩, same.symm⟩

theorem below_exact (limit result : Nat) : Exact (below limit result) (result % limit) (result < limit) := by
  intro value
  unfold below
  split
  next fits =>
    rw [Nat.mod_eq_of_lt fits, Option.some_inj]
    exact ⟨fun same => ⟨fits, same.symm⟩, fun held => held.2.symm⟩
  next leaves => exact ⟨fun clash => (by cases clash), fun held => absurd held.1 leaves⟩

theorem sub_exact (first second : Nat) : Exact (sub first second) (first - second) (second ≤ first) := by
  intro value
  unfold sub
  split
  next fits =>
    rw [Option.some_inj]
    exact ⟨fun same => ⟨fits, same.symm⟩, fun held => held.2.symm⟩
  next leaves => exact ⟨fun clash => (by cases clash), fun held => absurd held.1 leaves⟩

/-- A sum ends when all of it fits: none of its parts is more. -/
theorem sum_exact {limit start : Nat} (started : start < limit) (terms : List Nat) :
    Exact (sum limit start terms) ((start + terms.sum) % limit) (start + terms.sum < limit) := by
  induction terms generalizing start with
  | nil =>
    refine (Exact.pure start).congr ?_ fun _ => ?_
    · simp [started]
    · simp [Nat.mod_eq_of_lt started]
  | cons term terms ih =>
    have whole : start + (term :: terms).sum = start + term + terms.sum := by
      rw [List.sum_cons, Nat.add_assoc]
    rw [whole]
    have later : start + term < limit → Exact (sum limit ((start + term) % limit) terms)
        ((start + term + terms.sum) % limit) (start + term + terms.sum < limit) := by
      intro fits
      rw [Nat.mod_eq_of_lt fits]
      exact ih fits
    exact ((below_exact limit (start + term)).bind later).congr (by omega) fun _ => rfl

theorem mapM_exact {f : β → Option α} {g : β → α} {each : β → Prop} {items : List β}
    (exact : ∀ item ∈ items, Exact (f item) (g item) (each item)) :
    Exact (items.mapM f) (items.map g) (∀ item ∈ items, each item) := by
  induction items with
  | nil => exact (Exact.pure []).congr (by simp) fun _ => rfl
  | cons item items ih =>
    have here := exact item List.mem_cons_self
    have later := ih fun other member => exact other (List.mem_cons_of_mem item member)
    rw [List.mapM_cons, List.forall_mem_cons, List.map_cons]
    refine here.bind fun _ => (later.bind fun _ => Exact.pure (g item :: items.map g)).congr ?_ fun _ => rfl
    exact and_iff_left trivial

/-- Checked steps one after another: each of them has to fit in the state it is taken in. -/
theorem foldlM_exact {f : State → Step → Option State} {apply : State → Step → State} {condition : State → Step → Prop}
    {Holds : State → Prop}
    (exact : ∀ state step, Holds state → Exact (f state step) (apply state step) (condition state step))
    (kept : ∀ state step, Holds state → Holds (apply state step)) (steps : List Step) {state : State}
    (start : Holds state) :
    Exact (steps.foldlM f state) (steps.foldl apply state) (Sequence.Meets apply condition state steps) := by
  induction steps generalizing state with
  | nil => exact (Exact.pure state).congr Iff.rfl fun _ => rfl
  | cons step steps ih =>
    rw [List.foldlM_cons, List.foldl_cons]
    exact (exact state step start).bind fun _ => ih (kept state step start)

end Rules
end ApexEdge.Library.Checked
