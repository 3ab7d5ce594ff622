import Mathlib.Data.List.Perm.Basic
import Mathlib.Data.List.Sort

/-! Rows listed by a key that several of them may share, and read page by page. How rows of
one key are arranged is left open, each time anew; a page is still always of the same rows
when no key stands on both sides of its ends. -/

namespace ApexEdge.Library.Paging

variable {Row Key : Type} [LinearOrder Key]

/-- Rows in an order by their keys. -/
structure Arrangement (key : Row → Key) (rows : List Row) where
  listed : List Row
  perm : listed.Perm rows
  sorted : (listed.map key).Pairwise (· ≤ ·)

/-- The keys of rows in order. -/
def keysOf (key : Row → Key) (rows : List Row) : List Key := (rows.map key).insertionSort (· ≤ ·)

/-- A key stands on both sides of a place. -/
def Splits (keys : List Key) (place : Nat) : Prop := ∃ key ∈ keys.take place, key ∈ keys.drop place

def window (start length : Nat) (rows : List Row) : List Row := (rows.drop start).take length

section Arrangements
variable {key : Row → Key} {rows : List Row}

/-- An insertion sort by keys. -/
def arranged (key : Row → Key) (rows : List Row) : Arrangement key rows where
  listed := rows.insertionSort (key · ≤ key ·)
  perm := List.perm_insertionSort _ rows
  sorted := List.pairwise_map.mpr (List.pairwise_insertionSort _ rows)

theorem Arrangement.keys_eq (arrangement : Arrangement key rows) : arrangement.listed.map key = keysOf key rows :=
  List.Perm.eq_of_pairwise' arrangement.sorted (List.pairwise_insertionSort _ _)
    ((arrangement.perm.map key).trans (List.perm_insertionSort _ _).symm)

/-- What stands before a place that splits no key is what has a key that stands there. -/
theorem take_eq_filter (arrangement : Arrangement key rows) {place : Nat} (whole : ¬Splits (keysOf key rows) place) :
    arrangement.listed.take place =
      arrangement.listed.filter fun row => decide (key row ∈ (keysOf key rows).take place) := by
  have keys := arrangement.keys_eq
  have before : (arrangement.listed.take place).filter (fun row => decide (key row ∈ (keysOf key rows).take place)) =
      arrangement.listed.take place := by
    refine List.filter_eq_self.mpr fun row member => decide_eq_true ?_
    rw [← keys, ← List.map_take]
    exact List.mem_map_of_mem member
  have behind : (arrangement.listed.drop place).filter (fun row => decide (key row ∈ (keysOf key rows).take place)) = [] := by
    refine List.filter_eq_nil_iff.mpr fun row member listed => whole ⟨key row, of_decide_eq_true listed, ?_⟩
    rw [← keys, ← List.map_drop]
    exact List.mem_map_of_mem member
  calc arrangement.listed.take place
      = (arrangement.listed.take place ++ arrangement.listed.drop place).filter
          (fun row => decide (key row ∈ (keysOf key rows).take place)) := by
        rw [List.filter_append, before, behind, List.append_nil]
    _ = _ := by rw [List.take_append_drop]

theorem take_perm (first second : Arrangement key rows) {place : Nat} (whole : ¬Splits (keysOf key rows) place) :
    (first.listed.take place).Perm (second.listed.take place) := by
  rw [take_eq_filter first whole, take_eq_filter second whole]
  exact (first.perm.trans second.perm.symm).filter _

theorem take_window (start length : Nat) (rows : List Row) :
    rows.take (start + length) = rows.take start ++ window start length rows := List.take_add

/-- A window between places that split no key has the same rows in every arrangement. -/
theorem window_perm (first second : Arrangement key rows) {start length : Nat}
    (opens : ¬Splits (keysOf key rows) start) (closes : ¬Splits (keysOf key rows) (start + length)) :
    (window start length first.listed).Perm (window start length second.listed) := by
  have whole := take_perm first second closes
  rw [take_window, take_window] at whole
  exact (List.perm_append_left_iff _).mp (((take_perm second first opens).append_right _).trans whole)

/-- Where a key is split, two rows of one key meet. -/
theorem meeting_rows (arrangement : Arrangement key rows) {place : Nat} (split : Splits (keysOf key rows) place) :
    ∃ before first second after, arrangement.listed = before ++ first :: second :: after ∧
      before.length + 1 = place ∧ key first = key second := by
  obtain ⟨shared, low, high⟩ := split
  rw [← arrangement.keys_eq, ← List.map_take] at low
  rw [← arrangement.keys_eq, ← List.map_drop] at high
  obtain ⟨lower, ahead_of, equal⟩ := List.mem_map.mp low
  obtain ⟨upper, behind, same⟩ := List.mem_map.mp high
  have sorted := List.pairwise_map.mp arrangement.sorted
  have within : place < arrangement.listed.length := by
    by_contra beyond
    rw [List.drop_of_length_le (Nat.not_lt.mp beyond)] at behind
    cases behind
  rcases List.eq_nil_or_concat (arrangement.listed.take place) with none | ⟨before, first, taken⟩
  · rw [none] at ahead_of
    cases ahead_of
  rw [List.concat_eq_append] at taken
  cases dropped : arrangement.listed.drop place with
  | nil =>
    rw [dropped] at behind
    cases behind
  | cons second after =>
    have whole : arrangement.listed = before ++ first :: second :: after := by
      rw [← List.take_append_drop place arrangement.listed, taken, dropped, List.append_assoc]
      rfl
    have count := congrArg List.length taken
    rw [List.length_take, List.length_append, List.length_singleton] at count
    refine ⟨before, first, second, after, whole, by omega, ?_⟩
    rw [whole] at sorted
    rw [taken] at ahead_of
    rw [dropped] at behind
    obtain ⟨-, rest, apart⟩ := List.pairwise_append.mp sorted
    obtain ⟨ahead, tail⟩ := List.pairwise_cons.mp rest
    have lower_first : key lower ≤ key first := by
      rcases List.mem_append.mp ahead_of with earlier | own
      · exact apart lower earlier first List.mem_cons_self
      · rw [List.mem_singleton.mp own]
    have second_upper : key second ≤ key upper := by
      rcases List.mem_cons.mp behind with rfl | later
      · exact le_refl _
      · exact (List.pairwise_cons.mp tail).1 upper later
    have middle := ahead second List.mem_cons_self
    exact le_antisymm middle (second_upper.trans (same.trans equal.symm ▸ lower_first))

/-- The arrangement with two rows of one key the other way round. -/
def swapped (arrangement : Arrangement key rows) {before after : List Row} {first second : Row}
    (whole : arrangement.listed = before ++ first :: second :: after) (same : key first = key second) :
    Arrangement key rows where
  listed := before ++ second :: first :: after
  perm := by
    refine List.Perm.trans ?_ arrangement.perm
    rw [whole]
    exact (List.Perm.swap first second after).append_left before
  sorted := by
    have sorted := arrangement.sorted
    rw [whole] at sorted
    simpa [same] using sorted

/-- A window has the same rows in every arrangement exactly when neither end splits a key. -/
theorem window_perm_iff (distinct : rows.Nodup) (order : Arrangement key rows) {start length : Nat} (some : 0 < length) :
    (∀ other : Arrangement key rows, (window start length other.listed).Perm (window start length order.listed)) ↔
      ¬Splits (keysOf key rows) start ∧ ¬Splits (keysOf key rows) (start + length) := by
  have apart := order.perm.nodup_iff.mpr distinct
  refine ⟨fun always => ⟨fun split => ?_, fun split => ?_⟩, fun both other => window_perm other order both.1 both.2⟩
  · obtain ⟨before, first, second, after, whole, place, same⟩ := meeting_rows order split
    have moved : first ∈ window start length (swapped order whole same).listed := by
      show first ∈ ((before ++ second :: first :: after).drop start).take length
      have rest : (before ++ second :: first :: after).drop start = first :: after := by
        rw [← place, ← List.length_singleton (a := second), ← List.length_append]
        exact (congrArg (List.drop _) (List.append_cons _ _ _)).trans List.drop_left
      rw [rest]
      exact List.mem_take_iff_getElem.mpr ⟨0, by simpa using some, rfl⟩
    have kept := List.mem_of_mem_take ((always _).mem_iff.mp moved)
    have rest : order.listed.drop start = second :: after := by
      rw [whole, ← place, ← List.length_singleton (a := first), ← List.length_append]
      exact (congrArg (List.drop _) (List.append_cons _ _ _)).trans List.drop_left
    rw [rest] at kept
    rw [whole] at apart
    exact (List.nodup_cons.mp (List.nodup_append.mp apart).2.1).1 kept
  · obtain ⟨before, first, second, after, whole, place, same⟩ := meeting_rows order split
    have front (row : Row) (rest : List Row) : (before ++ row :: rest).take (start + length) = before ++ [row] := by
      rw [← place, ← List.length_singleton (a := row), ← List.length_append]
      exact (congrArg (List.take _) (List.append_cons _ _ _)).trans List.take_left
    have moved : second ∈ window start length (swapped order whole same).listed := by
      show second ∈ ((before ++ second :: first :: after).drop start).take length
      rw [List.take_drop, front, List.drop_append_of_le_length (by omega)]
      exact List.mem_append_right _ List.mem_cons_self
    have kept := (always _).mem_iff.mp moved
    rw [window, List.take_drop, whole, front] at kept
    rw [whole] at apart
    rcases List.mem_append.mp (List.mem_of_mem_drop kept) with earlier | own
    · exact (List.nodup_append.mp apart).2.2 second earlier second (by simp) rfl
    · have first_apart := (List.nodup_cons.mp (List.nodup_append.mp apart).2.1).1
      exact first_apart (List.mem_singleton.mp own ▸ List.mem_cons_self)

/-- Of distinct rows, two windows apart from one another have the same only when both are empty. -/
theorem window_apart {listed : List Row} (distinct : listed.Nodup) {low high length : Nat} (some : 0 < length)
    (apart : low + length ≤ high) (same : (window low length listed).Perm (window high length listed)) :
    listed.length ≤ low := by
  by_contra within
  have early : listed[low] ∈ window low length listed := by
    rw [window, List.drop_eq_getElem_cons (Nat.not_le.mp within)]
    exact List.mem_take_iff_getElem.mpr ⟨0, by simp only [List.length_cons]; omega, rfl⟩
  have late := List.mem_of_mem_take (same.mem_iff.mp early)
  have front : listed[low] ∈ listed.take high :=
    List.mem_take_iff_getElem.mpr ⟨low, by omega, rfl⟩
  exact List.disjoint_take_drop distinct (le_refl high) front late

theorem windows_flat (length pages : Nat) (listed : List Row) :
    (List.range pages).flatMap (fun page => window (page * length) length listed) = listed.take (pages * length) := by
  induction pages with
  | zero => simp
  | succ pages ih => rw [List.range_succ, List.flatMap_append, ih, Nat.succ_mul, take_window, List.flatMap_singleton]

/-- Pages that each have the rows of their window have all rows, each of them once. -/
theorem walk_perm (order : Arrangement key rows) {length pages : Nat} {page : Nat → List Row}
    (each : ∀ number < pages, (page number).Perm (window (number * length) length order.listed))
    (covers : rows.length ≤ pages * length) : ((List.range pages).flatMap page).Perm rows := by
  have pagewise : ((List.range pages).flatMap page).Perm
      ((List.range pages).flatMap fun number => window (number * length) length order.listed) :=
    List.Perm.flatMap_left _ fun number member => each number (List.mem_range.mp member)
  refine pagewise.trans ?_
  rw [windows_flat, List.take_of_length_le (order.perm.length_eq ▸ covers)]
  exact order.perm

end Arrangements
end ApexEdge.Library.Paging
