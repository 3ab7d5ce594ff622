import Mathlib.Algebra.GroupWithZero.Nat
import Mathlib.Algebra.Ring.Int.Defs
import Mathlib.Data.List.Basic

/-! Words broken into rows. A row is filled as long as the next word fits, and no other way of
breaking needs fewer rows. -/

namespace ApexEdge.Library.Wrapping
variable {α : Type}

/-- The length of a row with one blank between its words. -/
def width (row : List (List α)) : Nat := (row.map List.length).sum + (row.length - 1)

/-- The rows have all the words in their order, and none is too long. -/
structure Division (limit : Nat) (words : List (List α)) (rows : List (List (List α))) : Prop where
  whole : rows.flatten = words
  filled : ∀ row ∈ rows, row ≠ []
  fits : ∀ row ∈ rows, width row ≤ limit

/-- A word that does not fit behind the others starts a row. -/
def greedy (limit : Nat) (current : List (List α)) : List (List α) → List (List (List α))
  | [] => if current = [] then [] else [current]
  | word :: words =>
    if current ≠ [] ∧ limit < width (current ++ [word]) then current :: greedy limit [word] words
    else greedy limit (current ++ [word]) words

variable {limit count : Nat} {row current words : List (List α)} {rows : List (List (List α))} {word : List α}

theorem width_cons_le (word : List α) (row : List (List α)) : width row ≤ width (word :: row) := by
  simp only [width, List.map_cons, List.sum_cons, List.length_cons]
  omega

theorem width_append_le (row more : List (List α)) : width row ≤ width (row ++ more) := by
  simp only [width, List.map_append, List.sum_append, List.length_append]
  omega

theorem length_le_width (member : word ∈ row) : word.length ≤ width row := by
  induction row with
  | nil => cases member
  | cons first row ih =>
    rcases List.mem_cons.mp member with rfl | later
    · simp only [width, List.map_cons, List.sum_cons]
      omega
    · exact Nat.le_trans (ih later) (width_cons_le first row)

/-- All words are in the rows. -/
theorem greedy_flatten (limit : Nat) (current words : List (List α)) : (greedy limit current words).flatten = current ++ words := by
  induction words generalizing current with
  | nil =>
    rw [greedy]
    split
    · rename_i none
      rw [none]
      rfl
    · rw [List.flatten_singleton, List.append_nil]
  | cons word words ih =>
    rw [greedy]
    split
    · rw [List.flatten_cons, ih]
      rfl
    · rw [ih, List.append_assoc]
      rfl

theorem greedy_filled (limit : Nat) (current words : List (List α)) : ∀ row ∈ greedy limit current words, row ≠ [] := by
  induction words generalizing current with
  | nil =>
    rw [greedy]
    split
    · exact fun _ impossible => (nomatch impossible)
    · rename_i filled
      exact fun row member => List.mem_singleton.mp member ▸ filled
  | cons word words ih =>
    rw [greedy]
    split
    · rename_i full
      exact List.forall_mem_cons.mpr ⟨full.1, ih [word]⟩
    · exact ih _

/-- Where every word has a row of its own length, every row fits. -/
theorem greedy_fits (short : ∀ word ∈ words, word.length ≤ limit) (fits : width current ≤ limit) :
    ∀ row ∈ greedy limit current words, width row ≤ limit := by
  induction words generalizing current with
  | nil =>
    rw [greedy]
    split
    · exact fun _ impossible => (nomatch impossible)
    · exact fun row member => List.mem_singleton.mp member ▸ fits
  | cons word words ih =>
    obtain ⟨here, others⟩ := List.forall_mem_cons.mp short
    have alone : width [word] ≤ limit := by simpa [width] using here
    rw [greedy]
    split
    · exact List.forall_mem_cons.mpr ⟨fits, ih others alone⟩
    · rename_i room
      refine ih others ?_
      by_cases first : current = []
      · rw [first]
        exact alone
      · exact Nat.le_of_not_lt fun long => room ⟨first, long⟩

/-- Without its first word a text needs no more rows. -/
theorem Division.tail (division : Division limit (word :: words) rows) :
    ∃ fewer, Division limit words fewer ∧ fewer.length ≤ rows.length := by
  obtain ⟨whole, filled, fits⟩ := division
  cases rows with
  | nil => cases whole
  | cons row rows =>
    obtain ⟨here, others⟩ := List.forall_mem_cons.mp filled
    obtain ⟨hereFits, othersFit⟩ := List.forall_mem_cons.mp fits
    cases row with
    | nil => exact absurd rfl here
    | cons first row =>
      obtain ⟨rfl, rest⟩ := List.cons.inj whole
      by_cases empty : row = []
      · refine ⟨rows, ⟨?_, others, othersFit⟩, Nat.le_succ _⟩
        rw [← rest, empty]
        rfl
      · exact ⟨row :: rows, ⟨rest, List.forall_mem_cons.mpr ⟨empty, others⟩,
          List.forall_mem_cons.mpr ⟨Nat.le_trans (width_cons_le first row) hereFits, othersFit⟩⟩, Nat.le_refl _⟩

theorem Division.drop (division : Division limit (row ++ words) rows) :
    ∃ fewer, Division limit words fewer ∧ fewer.length ≤ rows.length := by
  induction row generalizing rows with
  | nil => exact ⟨rows, division, Nat.le_refl _⟩
  | cons word row ih =>
    obtain ⟨fewer, divided, less⟩ := division.tail
    obtain ⟨fewest, done, lesser⟩ := ih divided
    exact ⟨fewest, done, Nat.le_trans lesser less⟩

/-- Filling each row needs the fewest rows. -/
theorem greedy_fewest (division : Division limit (current ++ words) rows) :
    (greedy limit current words).length ≤ rows.length := by
  induction words generalizing current rows with
  | nil =>
    rw [greedy]
    split
    · exact Nat.zero_le _
    · rename_i filled
      rw [List.append_nil] at division
      refine List.length_pos_of_ne_nil fun none => filled ?_
      rw [← division.whole, none]
      rfl
  | cons word words ih =>
    rw [greedy]
    split
    · rename_i full
      obtain ⟨whole, filled, fits⟩ := division
      cases rows with
      | nil => exact absurd whole.symm (List.append_ne_nil_of_right_ne_nil _ (List.cons_ne_nil _ _))
      | cons first rows =>
        obtain ⟨_, others⟩ := List.forall_mem_cons.mp filled
        obtain ⟨firstFits, othersFit⟩ := List.forall_mem_cons.mp fits
        rw [List.flatten_cons] at whole
        -- The first row of the other breaking has no word behind the current row.
        obtain ⟨left, split⟩ : ∃ left, current = first ++ left := by
          rcases List.append_eq_append_iff.mp whole with ⟨left, split, _⟩ | ⟨left, split, behind⟩
          · exact ⟨left, split⟩
          · cases left with
            | nil => exact ⟨[], by rw [split, List.append_nil, List.append_nil]⟩
            | cons next left =>
              obtain ⟨rfl, _⟩ := List.cons.inj behind
              have long := width_append_le (current ++ [word]) left
              rw [List.append_assoc, List.singleton_append, ← split] at long
              omega
        rw [split, List.append_assoc] at whole
        have behind : Division limit (left ++ word :: words) rows := ⟨List.append_cancel_left whole, others, othersFit⟩
        obtain ⟨fewer, divided, less⟩ := behind.drop
        exact Nat.succ_le_succ (Nat.le_trans (@ih [word] fewer divided) less)
    · rw [List.append_cons] at division
      exact ih division

end ApexEdge.Library.Wrapping
