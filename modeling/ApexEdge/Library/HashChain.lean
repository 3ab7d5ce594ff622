import Mathlib.Data.List.Nodup

/-! Rows that are linked by a mark: each row repeats the mark of the row before it. Where a
mark fixes the mark that it follows, no mark is used twice, so rows that were copied out of a
chain and are linked again are the beginning of that chain. -/

namespace ApexEdge.Library.HashChain

variable {Row Mark : Type} (previous mark : Row → Mark)

def Linked (start : Mark) : List Row → Prop
  | [] => True
  | row :: rows => previous row = start ∧ Linked (mark row) rows

/-- The mark that the next row has to repeat. -/
def tip (start : Mark) (rows : List Row) : Mark := (rows.getLast?.map mark).getD start

/-- The marks that the rows repeat, and after them the tip. -/
def marks (start : Mark) (rows : List Row) : List Mark := start :: rows.map mark

@[simp] theorem tip_nil (start : Mark) : tip mark start [] = start := rfl

@[simp] theorem tip_cons (start : Mark) (row : Row) (rows : List Row) :
    tip mark start (row :: rows) = tip mark (mark row) rows := by
  rw [tip, tip, List.getLast?_cons, Option.map_some, Option.getD_some, Option.getD_map]

@[simp] theorem tip_append (start : Mark) (first second : List Row) :
    tip mark start (first ++ second) = tip mark (tip mark start first) second := by
  induction first generalizing start with
  | nil => rfl
  | cons row first ih => simpa using ih (mark row)

theorem linked_append (start : Mark) (first second : List Row) :
    Linked previous mark start (first ++ second) ↔
      Linked previous mark start first ∧ Linked previous mark (tip mark start first) second := by
  induction first generalizing start with
  | nil => simp [Linked]
  | cons row first ih => simp [Linked, ih, and_assoc]

section Positions
variable {previous mark} {start : Mark} {rows : List Row}

/-- A row repeats the mark at its own position. -/
theorem Linked.previous_eq (linked : Linked previous mark start rows) (position : Nat)
    (present : position < rows.length) :
    some (previous rows[position]) = (marks mark start rows)[position]? := by
  induction rows generalizing start position with
  | nil => exact absurd present (Nat.not_lt_zero _)
  | cons row rows ih =>
    cases position with
    | zero => simp [marks, linked.1]
    | succ position =>
      have later := ih linked.2 position (by simpa using present)
      simpa [marks] using later

theorem tip_eq (start : Mark) (rows : List Row) : some (tip mark start rows) = (marks mark start rows)[rows.length]? := by
  induction rows generalizing start with
  | nil => rfl
  | cons row rows ih => simpa [marks] using ih (mark row)

/-- No mark is used twice: the rows after two equal marks would repeat equal marks as well,
back to the start. -/
theorem Linked.marks_nodup (linked : Linked previous mark start rows) (fresh : ∀ row ∈ rows, mark row ≠ start)
    (fixes : ∀ first ∈ rows, ∀ second ∈ rows, mark first = mark second → previous first = previous second) :
    (marks mark start rows).Nodup := by
  have apart : ∀ later earlier : Nat, earlier < later → later < (marks mark start rows).length →
      (marks mark start rows)[earlier]? ≠ (marks mark start rows)[later]? := by
    intro later
    induction later with
    | zero => exact fun earlier before => absurd before (Nat.not_lt_zero _)
    | succ later ih =>
      intro earlier before present same
      have here : later < rows.length := by simpa [marks] using present
      cases earlier with
      | zero =>
        simp only [marks, List.getElem?_cons_zero, List.getElem?_cons_succ, List.getElem?_map,
          List.getElem?_eq_getElem here, Option.map_some, Option.some.injEq] at same
        exact fresh _ (List.getElem_mem here) same.symm
      | succ earlier =>
        have there : earlier < rows.length := by omega
        simp only [marks, List.getElem?_cons_succ, List.getElem?_map, List.getElem?_eq_getElem here,
          List.getElem?_eq_getElem there, Option.map_some, Option.some.injEq] at same
        have repeated := fixes _ (List.getElem_mem there) _ (List.getElem_mem here) same
        refine ih earlier (by omega) (by simp [marks]; omega) ?_
        rw [← linked.previous_eq earlier there, ← linked.previous_eq later here, repeated]
  rw [List.nodup_iff_getElem?_ne_getElem?]
  exact fun earlier later before present => apart later earlier before present

/-- The row that repeats the tip of some first rows is the row after them. -/
theorem Linked.next_row {done todo : List Row} (linked : Linked previous mark start (done ++ todo))
    (unique : (marks mark start (done ++ todo)).Nodup) {row : Row} (member : row ∈ done ++ todo)
    (repeats : previous row = tip mark start done) : ∃ rest, todo = row :: rest := by
  obtain ⟨position, present, rfl⟩ := List.getElem_of_mem member
  have front : (marks mark start (done ++ todo))[done.length]? = (marks mark start done)[done.length]? := by
    have split : marks mark start (done ++ todo) = marks mark start done ++ todo.map mark := by simp [marks]
    rw [split, List.getElem?_append_left (by simp [marks])]
  have same : (marks mark start (done ++ todo))[position]? = (marks mark start (done ++ todo))[done.length]? := by
    rw [← linked.previous_eq position present, front, ← tip_eq, repeats]
  have placed : position = done.length := by
    by_contra moved
    rcases Nat.lt_or_gt_of_ne moved with before | after
    · exact List.nodup_iff_getElem?_ne_getElem?.mp unique position done.length before
        (by simp only [marks, List.length_cons, List.length_map, List.length_append]; omega) same
    · exact List.nodup_iff_getElem?_ne_getElem?.mp unique done.length position after
        (by simp only [marks, List.length_cons, List.length_map]; omega) same.symm
  subst placed
  cases todo with
  | nil => exact absurd present (by simp)
  | cons next rest => exact ⟨rest, by simp⟩

/-- Copies of rows of a chain that are linked from the tip of some first rows are copies of
the rows that come next. -/
theorem Linked.copies_follow {copies : List Row} {Copy : Row → Row → Prop} {done todo : List Row}
    (linked : Linked previous mark start (done ++ todo)) (unique : (marks mark start (done ++ todo)).Nodup)
    (same : ∀ row copy, Copy row copy → previous row = previous copy ∧ mark row = mark copy)
    (again : Linked previous mark (tip mark start done) copies)
    (copied : ∀ copy ∈ copies, ∃ row ∈ done ++ todo, Copy row copy) :
    ∃ kept, kept <+: todo ∧ List.Forall₂ Copy kept copies := by
  induction copies generalizing done todo with
  | nil => exact ⟨[], List.nil_prefix, .nil⟩
  | cons copy copies ih =>
    obtain ⟨row, member, copies_row⟩ := copied copy List.mem_cons_self
    obtain ⟨keeps_previous, keeps_mark⟩ := same row copy copies_row
    obtain ⟨rest, rfl⟩ := linked.next_row unique member (keeps_previous.trans again.1)
    have moved : done ++ row :: rest = (done ++ [row]) ++ rest := by simp
    have next : tip mark start (done ++ [row]) = mark copy := by simp [keeps_mark]
    obtain ⟨kept, first, matched⟩ := ih (moved ▸ linked) (moved ▸ unique) (next ▸ again.2)
      (moved ▸ fun other later => copied other (List.mem_cons_of_mem _ later))
    exact ⟨row :: kept, List.cons_prefix_cons.mpr ⟨rfl, first⟩, .cons copies_row matched⟩

end Positions

end ApexEdge.Library.HashChain
