import Mathlib.Algebra.BigOperators.Group.Finset.Piecewise
import Mathlib.Algebra.Order.BigOperators.Group.Finset
import ApexEdge.Library.Table

/-! Totals of a column over the rows that count, and the same totals taken apart by a key. -/

namespace ApexEdge.Library.Table

variable {Row Key : Type}

def total (counts : Row → Bool) (value : Row → Int) (rows : List Row) : Int := ((rows.filter counts).map value).sum

/-- Rows outside a part of them that are worth nothing do not add to its total. -/
theorem sum_part {key : Row → Key} {value : Row → Nat} {part rows : List Row}
    (within : part.Sublist rows) (unique : (rows.map key).Nodup)
    (worthless : ∀ row ∈ rows, key row ∉ part.map key → value row = 0) : (rows.map value).sum = (part.map value).sum := by
  induction within with
  | slnil => rfl
  | @cons part rows row within ih =>
    obtain ⟨fresh, unique⟩ := List.nodup_cons.mp unique
    have outside : key row ∉ part.map key := fun listed => fresh ((within.map key).subset listed)
    rw [List.map_cons, List.sum_cons, worthless row (by simp) outside, Nat.zero_add]
    exact ih unique fun other member => worthless other (List.mem_cons_of_mem row member)
  | @cons_cons part rows row within ih =>
    obtain ⟨fresh, unique⟩ := List.nodup_cons.mp unique
    rw [List.map_cons, List.map_cons, List.sum_cons, List.sum_cons, ih unique]
    intro other member outside
    refine worthless other (List.mem_cons_of_mem row member) fun listed => ?_
    rcases List.mem_cons.mp listed with same | later
    · exact fresh (same ▸ List.mem_map_of_mem member)
    · exact outside later

/-- Totals that agree although each value is at most the other: all of them agree. -/
theorem eq_of_sum_le {value worth : Row → Nat} {rows : List Row} (each : ∀ row ∈ rows, value row ≤ worth row)
    (whole : (rows.map worth).sum ≤ (rows.map value).sum) : ∀ row ∈ rows, value row = worth row := by
  induction rows with
  | nil => simp
  | cons row rows ih =>
    obtain ⟨here, later⟩ := List.forall_mem_cons.mp each
    have rest := List.sum_le_sum later
    simp only [List.map_cons, List.sum_cons] at whole
    exact List.forall_mem_cons.mpr ⟨by omega, ih later (by omega)⟩

section Totals
variable {counts : Row → Bool} {value : Row → Int} {rows : List Row}

@[simp] theorem total_nil : total counts value [] = 0 := rfl

theorem total_cons (row : Row) :
    total counts value (row :: rows) = (if counts row then value row else 0) + total counts value rows := by
  unfold total
  cases counted : counts row <;> simp [counted]

theorem total_append (first second : List Row) :
    total counts value (first ++ second) = total counts value first + total counts value second := by
  simp [total]

theorem total_add {worth : Row → Int} : total counts (fun row => value row + worth row) rows =
    total counts value rows + total counts worth rows := List.sum_map_add

theorem total_map {Source : Type} (f : Source → Row) (rows : List Source) :
    total counts value (rows.map f) = total (counts ∘ f) (value ∘ f) rows := by
  rw [total, List.filter_map, List.map_map]
  rfl

theorem total_congr {others : Row → Bool} {worth : Row → Int} (same : ∀ row ∈ rows, counts row = others row)
    (equal : ∀ row ∈ rows, value row = worth row) : total counts value rows = total others worth rows := by
  induction rows with
  | nil => rfl
  | cons row rows ih =>
    obtain ⟨same_here, same_later⟩ := List.forall_mem_cons.mp same
    obtain ⟨equal_here, equal_later⟩ := List.forall_mem_cons.mp equal
    rw [total_cons, total_cons, same_here, equal_here, ih same_later equal_later]

/-- A statement that changes neither what counts nor what it counts for. -/
theorem total_run {update : Update Row} (kept : ∀ row, counts (update.row row) = counts row)
    (same : ∀ row, value (update.row row) = value row) :
    total counts value (update.run rows) = total counts value rows := by
  induction rows with
  | nil => rfl
  | cons row rows ih =>
    rw [Update.run, List.map_cons, total_cons, total_cons, kept, same]
    rw [Update.run] at ih
    rw [ih]

/-- A statement after which the selected rows no longer count. -/
theorem filter_dropped {update : Update Row} (drops : ∀ row, update.selects row = true → counts (update.set row) = false) :
    (update.run rows).filter counts = (rows.filter fun row => !update.selects row).filter counts := by
  induction rows with
  | nil => rfl
  | cons row rows ih =>
    rw [Update.run] at ih ⊢
    rcases update.row_cases row with ⟨selected, became⟩ | ⟨kept, became⟩
    · rw [List.map_cons, became, List.filter_cons_of_neg (by simp [drops row selected]),
        List.filter_cons_of_neg (by simp [selected]), ih]
    · have listed : (row :: rows).filter (fun row => !update.selects row) =
          row :: rows.filter fun row => !update.selects row := List.filter_cons_of_pos (by simp [kept])
      rw [List.map_cons, became, listed, List.filter_cons, List.filter_cons, ih]

theorem total_dropped {update : Update Row} (drops : ∀ row, update.selects row = true → counts (update.set row) = false) :
    total counts value (update.run rows) = total counts value (rows.filter fun row => !update.selects row) := by
  rw [total, filter_dropped drops, total]

theorem total_nonneg (nonneg : ∀ row ∈ rows, 0 ≤ value row) : 0 ≤ total counts value rows := by
  apply List.sum_nonneg
  intro amount member
  obtain ⟨row, counted, rfl⟩ := List.mem_map.mp member
  exact nonneg row (List.mem_filter.mp counted).1

theorem total_mono {more : List Row} (nonneg : ∀ row ∈ more, 0 ≤ value row) :
    total counts value rows ≤ total counts value (rows ++ more) := by
  have rest : 0 ≤ total counts value more := total_nonneg nonneg
  rw [total_append]
  omega

/-- A row that does not count comes on top of those that do. -/
theorem total_add_le (nonneg : ∀ row ∈ rows, 0 ≤ value row) {row : Row} (member : row ∈ rows)
    (uncounted : counts row = false) : total counts value rows + value row ≤ (rows.map value).sum := by
  induction rows with
  | nil => cases member
  | cons first rest ih =>
    have others := fun row member => nonneg row (List.mem_cons_of_mem first member)
    have mine := nonneg first List.mem_cons_self
    rw [total_cons, List.map_cons, List.sum_cons]
    rcases List.mem_cons.mp member with rfl | later
    · have less : total counts value rest ≤ (rest.map value).sum := by
        unfold total
        refine List.Sublist.sum_le_sum (List.filter_sublist.map value) fun amount listed => ?_
        obtain ⟨row, present, rfl⟩ := List.mem_map.mp listed
        exact others row present
      rw [uncounted]
      simp only [Bool.false_eq_true, if_false]
      omega
    · have rest := ih others later
      split <;> omega

theorem total_split {first second : Row → Bool} (apart : ∀ row, ¬(first row = true ∧ second row = true))
    (all : ∀ row, counts row = (first row || second row)) :
    total counts value rows = total first value rows + total second value rows := by
  induction rows with
  | nil => rfl
  | cons row rows ih =>
    have not := apart row
    rw [total_cons, total_cons, total_cons, all, ih]
    cases one : first row <;> cases two : second row <;> simp_all <;> omega

/-- Every row counts under its own key. -/
theorem total_by_key [DecidableEq Key] (key : Row → Key) {keys : Finset Key} (all : ∀ row ∈ rows, key row ∈ keys) :
    ∑ k ∈ keys, total (fun row => counts row && decide (key row = k)) value rows = total counts value rows := by
  induction rows with
  | nil => simp
  | cons row rows ih =>
    have rest := ih fun other member => all other (List.mem_cons_of_mem _ member)
    have own := all row List.mem_cons_self
    simp only [total_cons, Finset.sum_add_distrib, rest]
    congr 1
    cases counted : counts row with
    | false => simp
    | true => simp [own]

/-- Rows with a listed key, by keys, and the others. -/
theorem sum_listed [DecidableEq Key] (key : Row → Key) (value : Row → Int) (rows : List Row) {keys : List Key}
    (distinct : keys.Nodup) : (rows.map value).sum = total (fun row => decide (key row ∉ keys)) value rows +
      (keys.map fun k => total (fun row => decide (key row = k)) value rows).sum := by
  induction keys with
  | nil => simp [total]
  | cons first keys ih =>
    obtain ⟨fresh, distinct⟩ := List.nodup_cons.mp distinct
    have split : total (fun row => decide (key row ∉ keys)) value rows =
        total (fun row => decide (key row ∉ first :: keys)) value rows +
          total (fun row => decide (key row = first)) value rows := by
      refine total_split (fun row => by simp +contextual) fun row => ?_
      by_cases own : key row = first
      · simp [own, fresh]
      · simp [own]
    rw [ih distinct, split, List.map_cons, List.sum_cons]
    omega

/-- Rows that count, with and without a property. -/
theorem sum_split (counts has : Row → Bool) (amount : Row → Nat) (rows : List Row) :
    ((rows.filter fun row => counts row ∧ has row).map amount).sum +
      ((rows.filter fun row => counts row ∧ !has row).map amount).sum = ((rows.filter counts).map amount).sum := by
  induction rows with
  | nil => rfl
  | cons row rows ih =>
    cases counted : counts row
    · simpa [counted] using ih
    · cases had : has row <;> simp [counted, had] at ih ⊢ <;> omega

theorem cast_sum (amount : Row → Nat) (rows : List Row) :
    (rows.map fun row => (amount row : Int)).sum = ((rows.map amount).sum : Nat) := by
  induction rows with
  | nil => rfl
  | cons row rows ih => simp [ih]

private theorem sum_of_one [DecidableEq Key] {keys : List Key} (distinct : keys.Nodup) {wanted : Key}
    (member : wanted ∈ keys) (amount : Nat) : (keys.map fun k => if wanted = k then amount else 0).sum = amount := by
  induction keys with
  | nil => cases member
  | cons first keys ih =>
    obtain ⟨fresh, distinct⟩ := List.nodup_cons.mp distinct
    rw [List.map_cons, List.sum_cons]
    by_cases own : wanted = first
    · have others : keys.map (fun k => if wanted = k then amount else 0) = keys.map fun _ => 0 :=
        List.map_congr_left fun k later => if_neg fun same : wanted = k => fresh (own ▸ same ▸ later)
      rw [if_pos own, others]
      simp
    · have later := (List.mem_cons.mp member).resolve_left own
      rw [if_neg own, ih distinct later, Nat.zero_add]

/-- Amounts of rows, listed by key. -/
theorem sum_by_key [DecidableEq Key] {key : Row → Key} {keys : List Key} (distinct : keys.Nodup)
    (all : ∀ row ∈ rows, key row ∈ keys) (amount : Row → Nat) :
    (keys.map fun k => ((rows.filter (key · = k)).map amount).sum).sum = (rows.map amount).sum := by
  induction rows with
  | nil => simp
  | cons row rows ih =>
    have rest := ih fun other member => all other (List.mem_cons_of_mem _ member)
    have split : (keys.map fun k => (((row :: rows).filter (key · = k)).map amount).sum) =
        keys.map fun k => (if key row = k then amount row else 0) + ((rows.filter (key · = k)).map amount).sum := by
      refine List.map_congr_left fun k _ => ?_
      by_cases own : key row = k <;> simp [own]
    rw [split, List.sum_map_add, rest, sum_of_one distinct (all row List.mem_cons_self), List.map_cons, List.sum_cons]

/-- Under a key without duplicates there is one amount, if any. -/
theorem sum_filter_key [DecidableEq Key] {key : Row → Key} (unique : (rows.map key).Nodup) (wanted : Key)
    (amount : Row → Nat) : ((rows.filter (key · = wanted)).map amount).sum =
      ((rows.find? (key · = wanted)).map amount).getD 0 := by
  cases found : rows.find? (key · = wanted) with
  | none =>
    have none : rows.filter (key · = wanted) = [] := List.filter_eq_nil_iff.mpr (List.find?_eq_none.mp found)
    rw [none]
    rfl
  | some row =>
    obtain rfl : key row = wanted := by simpa using List.find?_some found
    rw [filter_key unique (List.mem_of_find?_eq_some found)]
    simp

/-- An upsert under a key without duplicates counts one row anew. -/
theorem sum_upsert [DecidableEq Key] {key : Row → Key} {wanted : Key} {set : Row → Row} {fresh : Row}
    (unique : (rows.map key).Nodup) :
    ((upsert (key · = wanted) set fresh rows).map value).sum = (rows.map value).sum +
      match rows.find? (key · = wanted) with
      | none => value fresh
      | some row => value (set row) - value row := by
  unfold upsert
  cases found : rows.find? (key · = wanted) with
  | none =>
    have absent : ¬rows.any (key · = wanted) = true := by
      simpa using List.find?_eq_none.mp found
    rw [if_neg absent, List.map_append, List.sum_append]
    simp
  | some row =>
    have present : rows.any (key · = wanted) = true :=
      List.any_eq_true.mpr (List.find?_isSome.mp (by rw [found]; rfl))
    rw [if_pos present]
    induction rows with
    | nil => cases found
    | cons first rest ih =>
      obtain ⟨apart, unique⟩ := List.nodup_cons.mp unique
      by_cases own : key first = wanted
      · have same : first = row := by simpa [own] using found
        have others : ∀ other ∈ rest, decide (key other = wanted) = false := by
          intro other member
          refine decide_eq_false fun equal => apart ?_
          rw [own, ← equal]
          exact List.mem_map_of_mem member
        have kept : (Update.mk (key · = wanted) set).run rest = rest := by
          refine (List.map_congr_left fun other member => ?_).trans (List.map_id _)
          exact Update.row_kept (others other member)
        rw [Update.run] at kept ⊢
        rw [List.map_cons, kept, Update.row_selected (decide_eq_true own), ← same, List.map_cons, List.map_cons,
          List.sum_cons, List.sum_cons]
        show value (set first) + _ = value first + _ + (value (set first) - value first)
        omega
      · have later : rest.find? (key · = wanted) = some row := by simpa [own] using found
        have rest := ih unique later
          (List.any_eq_true.mpr (List.find?_isSome.mp (by rw [later]; rfl)))
        rw [Update.run] at rest ⊢
        rw [List.map_cons, Update.row_kept (decide_eq_false own), List.map_cons, List.map_cons, List.sum_cons,
          List.sum_cons, rest]
        omega

end Totals

section Ranks
variable {rank : Row → Nat} {value : Row → Int} {rows : List Row}

/-- What the rows of a lower rank come to. -/
def totalBefore (rank : Row → Nat) (value : Row → Int) (rows : List Row) (row : Row) : Int :=
  total (rank · < rank row) value rows

theorem totalBefore_perm {others : List Row} (same : rows.Perm others) (row : Row) :
    totalBefore rank value rows row = totalBefore rank value others row :=
  ((same.filter _).map value).sum_eq

private theorem telescopes_sorted (value : Row → Int) (sorted : rows.Pairwise (rank · < rank ·)) (f : Int → Int) :
    (rows.map fun row => f (totalBefore rank value rows row + value row) - f (totalBefore rank value rows row)).sum =
      f (rows.map value).sum - f 0 := by
  induction rows generalizing f with
  | nil => simp
  | cons first rest ih =>
    obtain ⟨least, sorted⟩ := List.pairwise_cons.mp sorted
    have none : totalBefore rank value (first :: rest) first = 0 := by
      have empty : (first :: rest).filter (rank · < rank first) = [] := by
        refine List.filter_eq_nil_iff.mpr fun row member => ?_
        rcases List.mem_cons.mp member with rfl | later
        · simp
        · simpa using (least row later).le
      simp only [totalBefore, total, empty, List.map_nil, List.sum_nil]
    have later : ∀ row ∈ rest, totalBefore rank value (first :: rest) row = value first + totalBefore rank value rest row := by
      intro row member
      rw [totalBefore, total_cons, if_pos (decide_eq_true (least row member))]
      rfl
    have moved := ih sorted fun n => f (value first + n)
    rw [List.map_cons, List.sum_cons, none, List.map_cons, List.sum_cons]
    rw [List.map_congr_left fun row member => by rw [later row member, Int.add_assoc]]
    rw [moved]
    simp

/-- Each row's share of a running amount is what the amount gains at it; all shares
together are the whole of it, in whatever order the rows are listed. -/
theorem telescopes (distinct : (rows.map rank).Nodup) (f : Int → Int) :
    (rows.map fun row => f (totalBefore rank value rows row + value row) - f (totalBefore rank value rows row)).sum =
      f (rows.map value).sum - f 0 := by
  have same : (rows.insertionSort (rank · ≤ rank ·)).Perm rows := List.perm_insertionSort _ rows
  have sorted : (rows.insertionSort (rank · ≤ rank ·)).Pairwise (rank · < rank ·) := by
    have weakly := List.pairwise_insertionSort (rank · ≤ rank ·) rows
    have apart : (rows.insertionSort (rank · ≤ rank ·)).Pairwise (rank · ≠ rank ·) :=
      List.pairwise_map.mp ((same.map rank).nodup_iff.mpr distinct)
    exact (weakly.and apart).imp fun both => lt_of_le_of_ne both.1 both.2
  have total := telescopes_sorted value sorted f
  rw [(same.map value).sum_eq] at total
  rw [← total]
  refine Eq.trans ?_ ((same.map _).sum_eq).symm
  exact congrArg List.sum (List.map_congr_left fun row _ => by rw [totalBefore_perm same])

end Ranks

section Parts
variable {value : Row → Int} {counts : Row → Bool} {rows put : List Row}

theorem total_perm (counts : Row → Bool) (value : Row → Int) {others : List Row} (same : rows.Perm others) :
    total counts value rows = total counts value others := ((same.filter _).map value).sum_eq

theorem total_pos (positive : ∀ row ∈ rows, 0 < value row) {row : Row} (member : row ∈ rows)
    (counted : counts row = true) : 0 < total counts value rows := by
  obtain ⟨before, after, rfl⟩ := List.append_of_mem member
  have first : 0 ≤ total counts value before := total_nonneg fun other present =>
    (positive other (List.mem_append_left _ present)).le
  have last : 0 ≤ total counts value after := total_nonneg fun other present =>
    (positive other (List.mem_append_right _ (List.mem_cons_of_mem _ present))).le
  have this := positive row member
  rw [total_append, total_cons, if_pos counted]
  omega

/-- A part of the rows is replaced. That changes neither one's own rows nor any total exactly
when the part was what has been put in its place: rows that are not one's own would be missed
in the total of their key. -/
theorem replaced_iff [DecidableEq Key] (key : Row → Key) (part own : Row → Bool) (positive : ∀ row ∈ rows, 0 < value row)
    (mine : ∀ row ∈ put, own row = true) :
    ((rows.filter (!part ·) ++ put).filter own).Perm (rows.filter own) ∧
        (∀ k, total (key · = k) value (rows.filter (!part ·) ++ put) = total (key · = k) value rows) ↔
      (rows.filter part).Perm put := by
  have split : (rows.filter (!part ·) ++ rows.filter part).Perm rows :=
    List.perm_append_comm.trans (List.filter_append_perm part rows)
  constructor
  · rintro ⟨same, totals⟩
    have kept : (rows.filter part).filter own |>.Perm put := by
      have parts := same.trans (split.filter own).symm
      rw [List.filter_append, List.filter_append, List.filter_eq_self.mpr mine, List.perm_append_left_iff] at parts
      exact parts.symm
    have others : ∀ row ∈ rows.filter part, own row = true := by
      intro row member
      by_contra strange
      have missed : 0 < total (key · = key row) value ((rows.filter part).filter (!own ·)) :=
        total_pos (fun row member => positive row (List.mem_filter.mp (List.mem_filter.mp member).1).1)
          (List.mem_filter.mpr ⟨member, by simpa using strange⟩) (decide_eq_true rfl)
      have whole := totals (key row)
      rw [← total_perm _ _ split, total_append, total_append, ← total_perm _ _ kept] at whole
      have both := total_perm (key · = key row) value (List.filter_append_perm own (rows.filter part))
      rw [total_append] at both
      omega
    rwa [List.filter_eq_self.mpr others] at kept
  · intro same
    have all : (rows.filter (!part ·) ++ put).Perm rows := (same.symm.append_left _).trans split
    exact ⟨all.filter own, fun k => total_perm _ _ all⟩

end Parts
end ApexEdge.Library.Table
