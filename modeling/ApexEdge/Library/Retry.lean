import ApexEdge.Library.Program

/-! A program that is tried again until an attempt gets through. An attempt that is given
no further choice stops there, as in a crash. When all attempts but the last stop before
they write, or settle the matter, the attempts together do what one of them does. -/

namespace ApexEdge.Library

/-- Statements on a world: which of them write, and which choices are failures. -/
structure Statements (Op : Type) (Reply : Op → Type) (World Choice : Type) where
  perform : Choice → World → (op : Op) → Reply op × World
  writes : Op → Bool
  fails : Choice → Bool
  reads : ∀ choice world op, writes op = false → (perform choice world op).2 = world

namespace Statements
variable {Op : Type} {Reply : Op → Type} {α World Choice : Type}

/-- The answer of an attempt, if it gets that far, and the world that it leaves. -/
def attempt (statements : Statements Op Reply World Choice) (program : Program Op Reply α) (choices : List Choice)
    (world : World) : Option α × World :=
  match program, choices with
  | .pure value, _ => (some value, world)
  | .request .., [] => (none, world)
  | .request op next, choice :: choices =>
    let answered := statements.perform choice world op
    statements.attempt (next answered.1) choices answered.2

/-- The statements that an attempt gets to. -/
def trace (statements : Statements Op Reply World Choice) (program : Program Op Reply α) (choices : List Choice)
    (world : World) : List Op :=
  match program, choices with
  | .pure _, _ => []
  | .request .., [] => []
  | .request op next, choice :: choices =>
    let answered := statements.perform choice world op
    op :: statements.trace (next answered.1) choices answered.2

/-- One attempt after the other. -/
def retries (statements : Statements Op Reply World Choice) (program : Program Op Reply α)
    (attempts : List (List Choice)) (world : World) : World :=
  attempts.foldl (fun world choices => (statements.attempt program choices world).2) world

def Smooth (statements : Statements Op Reply World Choice) (choices : List Choice) : Prop :=
  ∀ choice ∈ choices, statements.fails choice = false

def Finishes (statements : Statements Op Reply World Choice) (program : Program Op Reply α) (choices : List Choice)
    (world : World) : Prop :=
  (statements.attempt program choices world).1.isSome

/-- The attempt stops before its first write, or it meets no failure and ends with a
statement that settles the matter. -/
def Clean (statements : Statements Op Reply World Choice) (settling : Op → Prop) (program : Program Op Reply α)
    (choices : List Choice) (world : World) : Prop :=
  (∀ op ∈ statements.trace program choices world, statements.writes op = false) ∨
    statements.Smooth choices ∧ statements.Finishes program choices world ∧
      ∃ op ∈ (statements.trace program choices world).getLast?, settling op

/-- Every attempt is clean in the world that the ones before it have left. -/
def CleanRetries (statements : Statements Op Reply World Choice) (settling : Op → Prop) (program : Program Op Reply α)
    (attempts : List (List Choice)) (world : World) : Prop :=
  match attempts with
  | [] => True
  | choices :: attempts =>
    statements.Clean settling program choices world ∧
      statements.CleanRetries settling program attempts (statements.attempt program choices world).2

instance (statements : Statements Op Reply World Choice) (choices : List Choice) :
    Decidable (statements.Smooth choices) := inferInstanceAs (Decidable (∀ choice ∈ choices, _))

instance (statements : Statements Op Reply World Choice) (program : Program Op Reply α) (choices : List Choice)
    (world : World) : Decidable (statements.Finishes program choices world) := inferInstanceAs (Decidable (_ = true))

section Attempts
variable {statements : Statements Op Reply World Choice} {program : Program Op Reply α} {choices : List Choice}
  {world : World}

theorem retries_cons (attempts : List (List Choice)) :
    statements.retries program (choices :: attempts) world =
      statements.retries program attempts (statements.attempt program choices world).2 := rfl

/-- An attempt that only reads leaves the world as it was. -/
theorem attempt_reads (reading : ∀ op ∈ statements.trace program choices world, statements.writes op = false) :
    (statements.attempt program choices world).2 = world := by
  induction choices generalizing program world with
  | nil => cases program <;> rfl
  | cons choice choices ih =>
    cases program with
    | pure value => rfl
    | request op next =>
      obtain ⟨first, rest⟩ := List.forall_mem_cons.mp reading
      have unchanged := statements.reads choice world op first
      exact (ih rest).trans unchanged

/-- The last statement of an attempt leaves the world that the attempt leaves. -/
theorem attempt_last {op : Op} (last : op ∈ (statements.trace program choices world).getLast?) :
    ∃ choice ∈ choices, ∃ before, (statements.attempt program choices world).2 = (statements.perform choice before op).2 := by
  induction choices generalizing program world with
  | nil => cases program <;> cases last
  | cons choice choices ih =>
    cases program with
    | pure value => cases last
    | request own next =>
      rw [trace, List.getLast?_cons] at last
      cases ended : (statements.trace (next (statements.perform choice world own).1) choices
          (statements.perform choice world own).2).getLast? with
      | none =>
        rw [ended] at last
        obtain rfl : own = op := Option.some.inj last
        have silent := List.getLast?_eq_none_iff.mp ended
        refine ⟨choice, List.mem_cons_self, world, ?_⟩
        rw [attempt]
        apply attempt_reads
        rw [silent]
        exact fun _ impossible => by cases impossible
      | some later =>
        rw [ended] at last
        obtain rfl : later = op := Option.some.inj last
        obtain ⟨chosen, member, before, left⟩ := ih ended
        exact ⟨chosen, List.mem_cons_of_mem _ member, before, left⟩

variable {settling : Op → Prop} {settled : World → Prop}

/-- Once settled, clean attempts change nothing. -/
theorem retries_settled (repeats : ∀ world choices, settled world → statements.Smooth choices →
      (statements.attempt program choices world).2 = world) {attempts : List (List Choice)}
    (clean : statements.CleanRetries settling program attempts world) (holds : settled world) :
    statements.retries program attempts world = world := by
  induction attempts generalizing world with
  | nil => rfl
  | cons choices attempts ih =>
    have same : (statements.attempt program choices world).2 = world := by
      rcases clean.1 with reading | ⟨smooth, -⟩
      · exact attempt_reads reading
      · exact repeats world choices holds smooth
    rw [retries_cons, same]
    exact ih (same ▸ clean.2) holds

/-- Clean attempts and one that gets through do what one of them does alone. -/
theorem retries_one (repeats : ∀ world choices, settled world → statements.Smooth choices →
      (statements.attempt program choices world).2 = world)
    (settles : ∀ choice world op, statements.fails choice = false → settling op →
      settled (statements.perform choice world op).2)
    {earlier : List (List Choice)} {last : List Choice}
    (clean : statements.CleanRetries settling program earlier world) (smooth : statements.Smooth last)
    (finishes : statements.Finishes program last (statements.retries program earlier world)) :
    ∃ one ∈ earlier ++ [last], statements.Smooth one ∧ statements.Finishes program one world ∧
      statements.retries program (earlier ++ [last]) world = (statements.attempt program one world).2 := by
  induction earlier generalizing world with
  | nil => exact ⟨last, List.mem_singleton.mpr rfl, smooth, finishes, rfl⟩
  | cons choices earlier ih =>
    obtain ⟨reading | ⟨fine, answers, op, ended, settle⟩, rest⟩ := clean
    · have same := attempt_reads reading
      rw [same] at rest
      rw [retries_cons, same] at finishes
      obtain ⟨one, member, found⟩ := ih rest finishes
      refine ⟨one, List.mem_cons_of_mem _ member, ?_⟩
      rwa [List.cons_append, retries_cons, same]
    · obtain ⟨choice, member, before, left⟩ := attempt_last ended
      have holds : settled (statements.attempt program choices world).2 := by
        rw [left]
        exact settles choice before op (fine choice member) settle
      refine ⟨choices, List.mem_cons_self, fine, answers, ?_⟩
      rw [List.cons_append, retries_cons, retries, List.foldl_append]
      show (statements.attempt program last (statements.retries program earlier _)).2 = _
      rw [retries_settled repeats rest holds]
      exact repeats _ last holds smooth

end Attempts
end Statements
end ApexEdge.Library
