import Mathlib.Data.List.Basic

/-! Writes that replace the rows they clash with. Of the writes, those remain that no later
one clashes with; of the rows that were there, those that no write clashes with. -/

namespace ApexEdge.Library.Overwrites

variable {Row : Type}

/-- What was written, and what no write has removed. -/
structure Wrote (fresh gone : Row → Prop) (before after : List Row) : Prop where
  mem_iff : ∀ row, row ∈ after ↔ fresh row ∨ row ∈ before ∧ ¬gone row
  replaces : ∀ row, fresh row → gone row

/-- What is written is what the removed rows already said. -/
def Restates (fresh gone : Row → Prop) (rows : List Row) : Prop := ∀ row, fresh row ↔ row ∈ rows ∧ gone row

namespace Wrote
variable {fresh gone : Row → Prop} {before after otherBefore otherAfter : List Row}

/-- The same rows as before: what was removed was written again, and nothing else was. -/
theorem same_iff (wrote : Wrote fresh gone before after) :
    (∀ row, row ∈ after ↔ row ∈ before) ↔ Restates fresh gone before := by
  constructor
  · intro same row
    constructor
    · intro written
      exact ⟨(same row).mp ((wrote.mem_iff row).mpr (.inl written)), wrote.replaces row written⟩
    · rintro ⟨present, removed⟩
      rcases (wrote.mem_iff row).mp ((same row).mpr present) with written | ⟨_, kept⟩
      · exact written
      · exact absurd removed kept
  · intro restated row
    rw [wrote.mem_iff, restated]
    by_cases removed : gone row <;> simp [removed]

/-- Two copies that were written alike agree if they agreed on what was not removed. -/
theorem agree_iff (wrote : Wrote fresh gone before after) (other : Wrote fresh gone otherBefore otherAfter)
    (selects : Row → Prop) :
    (∀ row, selects row → (row ∈ after ↔ row ∈ otherAfter)) ↔
      ∀ row, selects row → ¬gone row → (row ∈ before ↔ row ∈ otherBefore) := by
  constructor
  · intro agree row selected kept
    have unwritten : ¬fresh row := fun written => kept (wrote.replaces row written)
    have same := agree row selected
    rw [wrote.mem_iff, other.mem_iff] at same
    simpa [unwritten, kept] using same
  · intro agree row selected
    rw [wrote.mem_iff, other.mem_iff]
    by_cases removed : gone row
    · simp [removed]
    · rw [agree row selected removed]

end Wrote

section Clashes
variable (clash : Row → Row → Bool)

/-- INSERT OR REPLACE: what the row clashes with goes. -/
def insertOrReplace (rows : List Row) (row : Row) : List Row := rows.filter (fun old => !clash row old) ++ [row]

/-- A write that no later one clashes with. -/
def Latest : List Row → Row → Prop
  | [], _ => False
  | write :: later, row => Latest later row ∨ row = write ∧ ∀ next ∈ later, clash next row = false

/-- Some write clashes with the row. -/
def Struck (writes : List Row) (row : Row) : Prop := ∃ write ∈ writes, clash write row = true

variable {clash} {writes before middle after : List Row} {row : Row}

theorem mem_insertOrReplace (write : Row) :
    row ∈ insertOrReplace clash before write ↔ row = write ∨ row ∈ before ∧ clash write row = false := by
  simp [insertOrReplace, or_comm]

theorem Latest.mem (latest : Latest clash writes row) : row ∈ writes := by
  induction writes with
  | nil => exact latest.elim
  | cons write later ih =>
    rcases latest with still | ⟨rfl, _⟩
    · exact List.mem_cons_of_mem _ (ih still)
    · exact List.mem_cons_self

/-- Where no two writes clash, all of them remain. -/
theorem latest_of_apart (apart : writes.Pairwise fun first later => clash later first = false) (member : row ∈ writes) :
    Latest clash writes row := by
  induction writes with
  | nil => cases member
  | cons write later ih =>
    rw [List.pairwise_cons] at apart
    rcases List.mem_cons.mp member with rfl | behind
    · exact .inr ⟨rfl, apart.1⟩
    · exact .inl (ih apart.2 behind)

/-- What each write puts in force, and a write that does not clash with it keeps, is in force
for the latest ones at the end. -/
theorem Latest.in_force {State : Type} {step : State → Row → State} (InForce : Row → State → Prop)
    (puts : ∀ state write, InForce write (step state write))
    (keeps : ∀ state write row, clash write row = false → InForce row state → InForce row (step state write))
    (latest : Latest clash writes row) (state : State) : InForce row (writes.foldl step state) := by
  induction writes generalizing state with
  | nil => exact latest.elim
  | cons write later ih =>
    rcases latest with still | ⟨rfl, unchallenged⟩
    · exact ih still _
    · have kept : ∀ (rest : List Row) (state : State), (∀ next ∈ rest, clash next row = false) →
          InForce row state → InForce row (rest.foldl step state) := by
        intro rest
        induction rest with
        | nil => exact fun _ _ held => held
        | cons next rest ihRest =>
          intro state apart held
          exact ihRest _ (fun later member => apart later (List.mem_cons_of_mem _ member))
            (keeps state next row (apart next List.mem_cons_self) held)
      exact kept later _ unchallenged (puts state row)

/-- One write, and then the others. -/
theorem wrote_cons {write : Row} (own : clash write write = true)
    (first : ∀ row, row ∈ middle ↔ row = write ∨ row ∈ before ∧ clash write row = false)
    (rest : Wrote (Latest clash writes) (Struck clash writes) middle after) :
    Wrote (Latest clash (write :: writes)) (Struck clash (write :: writes)) before after where
  mem_iff row := by
    rw [rest.mem_iff, first]
    simp only [Latest, Struck, List.mem_cons, exists_eq_or_imp, not_or, not_exists, not_and, Bool.not_eq_true]
    constructor
    · rintro (latest | ⟨rfl | ⟨present, apart⟩, unstruck⟩)
      · exact .inl (.inl latest)
      · exact .inl (.inr ⟨rfl, unstruck⟩)
      · exact .inr ⟨present, apart, unstruck⟩
    · rintro ((latest | ⟨rfl, unstruck⟩) | ⟨present, apart, unstruck⟩)
      · exact .inl latest
      · exact .inr ⟨.inl rfl, unstruck⟩
      · exact .inr ⟨.inr ⟨present, apart⟩, unstruck⟩
  replaces row latest := by
    rcases latest with still | ⟨rfl, _⟩
    · obtain ⟨other, member, struck⟩ := rest.replaces row still
      exact ⟨other, List.mem_cons_of_mem _ member, struck⟩
    · exact ⟨row, List.mem_cons_self, own⟩

theorem wrote_nil : Wrote (Latest clash []) (Struck clash []) before before where
  mem_iff row := by simp [Latest, Struck]
  replaces _ absurd := absurd.elim

end Clashes
end ApexEdge.Library.Overwrites
