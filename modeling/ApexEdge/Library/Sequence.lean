import Mathlib.Data.Option.Basic

/-! Steps taken one after another: each of them under a condition on the state it is taken in,
or as long as there is a next state. A process whose steps of one kind bring a measure down
comes to an end once it takes no others. -/

namespace ApexEdge.Library.Sequence
variable {State Step : Type} (apply : State → Step → State) (condition : State → Step → Prop)

def run (state : State) (steps : List Step) : State := steps.foldl apply state

/-- Every step meets the condition in the state it is taken in. -/
def Meets (state : State) (steps : List Step) : Prop :=
  match steps with
  | [] => True
  | step :: steps => condition state step ∧ Meets (apply state step) steps

def decideMeets [∀ state step, Decidable (condition state step)] (state : State) :
    (steps : List Step) → Decidable (Meets apply condition state steps)
  | [] => isTrue trivial
  | step :: steps =>
    have := decideMeets (apply state step) steps
    inferInstanceAs (Decidable (_ ∧ _))

instance [∀ state step, Decidable (condition state step)] (state : State) (steps : List Step) :
    Decidable (Meets apply condition state steps) := decideMeets apply condition state steps

section Lemmas
variable {apply : State → Step → State} {condition : State → Step → Prop} {state : State}

@[simp] theorem run_nil : run apply state [] = state := rfl

@[simp] theorem run_cons (step : Step) (steps : List Step) :
    run apply state (step :: steps) = run apply (apply state step) steps := rfl

theorem run_append (first second : List Step) :
    run apply state (first ++ second) = run apply (run apply state first) second :=
  List.foldl_append

theorem meets_append {first second : List Step} (meets : Meets apply condition state (first ++ second)) :
    Meets apply condition state first ∧ Meets apply condition (run apply state first) second := by
  induction first generalizing state with
  | nil => exact ⟨trivial, meets⟩
  | cons step steps ih =>
    obtain ⟨now, later⟩ := meets
    obtain ⟨kept, rest⟩ := ih later
    exact ⟨⟨now, kept⟩, rest⟩

theorem meets_of_forall (always : ∀ state step, condition state step) {steps : List Step} :
    Meets apply condition state steps := by
  induction steps generalizing state with
  | nil => trivial
  | cons step steps ih => exact ⟨always state step, ih⟩

/-- The condition is met along a run when it follows from what every step keeps. -/
theorem meets_of_kept {Holds : State → Prop} (kept : ∀ state step, Holds state → Holds (apply state step))
    {steps : List Step} (meets : ∀ state, Holds state → ∀ step ∈ steps, condition state step) (start : Holds state) :
    Meets apply condition state steps := by
  induction steps generalizing state with
  | nil => trivial
  | cons step steps ih =>
    refine ⟨meets state start step List.mem_cons_self, ih ?_ (kept state step start)⟩
    exact fun state holds later member => meets state holds later (List.mem_cons_of_mem step member)

/-- The condition is met along a run when it is met at the end of every part of it. -/
theorem meets_of_splits {steps : List Step}
    (each : ∀ before step after, steps = before ++ step :: after → condition (run apply state before) step) :
    Meets apply condition state steps := by
  induction steps generalizing state with
  | nil => trivial
  | cons step steps ih =>
    refine ⟨each [] step steps rfl, ih ?_⟩
    intro before later after split
    exact each (step :: before) later after (by rw [split]; rfl)

/-- What every allowed step keeps holds in the state a run ends in. -/
theorem keeps {Holds : State → Prop}
    (kept : ∀ state step, Holds state → condition state step → Holds (apply state step))
    {steps : List Step} (start : Holds state) (meets : Meets apply condition state steps) :
    Holds (run apply state steps) := by
  induction steps generalizing state with
  | nil => exact start
  | cons step steps ih => exact ih (kept state step start meets.1) meets.2

end Lemmas

end ApexEdge.Library.Sequence

namespace ApexEdge.Library.Halting
variable {σ : Type} {step : σ → Option σ} {measure : σ → Nat} {falls : σ → Prop} {state : σ}

/-- The state after so many steps, if the process gets that far. -/
def steps (step : σ → Option σ) : Nat → σ → Option σ
  | 0, state => some state
  | count + 1, state => (step state).bind (steps step count)

def Halts (step : σ → Option σ) (start : σ) : Prop := ∃ count, steps step count start = none

theorem steps_add (first rest : Nat) (state : σ) :
    steps step (first + rest) state = (steps step first state).bind (steps step rest) := by
  induction first generalizing state with
  | zero => rw [Nat.zero_add]; rfl
  | succ first ih =>
    rw [Nat.succ_add, steps, steps, Option.bind_assoc]
    exact congrArg _ (funext ih)

/-- A process that has ended stays ended. -/
theorem steps_none {count more : Nat} (ended : steps step count state = none) (later : count ≤ more) :
    steps step more state = none := by
  obtain ⟨rest, rfl⟩ := Nat.exists_eq_add_of_le later
  rw [steps_add, ended, Option.bind_none]

variable (decreases : ∀ {state next}, step state = some next → falls state → measure next < measure state)
include decreases

/-- A process whose steps all bring the measure down takes no more of them than that. -/
theorem steps_within {start : σ} (all : ∀ count state, steps step count start = some state → falls state) :
    steps step (measure start + 1) start = none := by
  rw [steps]
  cases taken : step start with
  | none => rfl
  | some next =>
    have less : measure next < measure start := decreases taken (all 0 start rfl)
    have ended : steps step (measure next + 1) next = none := by
      refine steps_within fun count state reached => all (count + 1) state ?_
      rw [steps, taken]
      exact reached
    exact steps_none ended less
termination_by measure start

/-- A process ends exactly when from some point on all its steps bring the measure down. -/
theorem halts_iff (start : σ) :
    Halts step start ↔
      ∃ first, ∀ count, first ≤ count → ∀ state, steps step count start = some state → falls state := by
  constructor
  · rintro ⟨count, ended⟩
    refine ⟨count, fun more later state reached => ?_⟩
    rw [steps_none ended later] at reached
    cases reached
  · rintro ⟨first, falling⟩
    cases reached : steps step first start with
    | none => exact ⟨first, reached⟩
    | some state =>
      have ended : steps step (measure state + 1) state = none := by
        refine steps_within decreases fun count later there => falling (first + count) (Nat.le_add_right ..) later ?_
        rw [steps_add, reached]
        exact there
      refine ⟨first + (measure state + 1), ?_⟩
      rw [steps_add, reached]
      exact ended

end ApexEdge.Library.Halting
