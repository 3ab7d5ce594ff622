import Mathlib.Algebra.GroupWithZero.Nat
import Mathlib.Algebra.Ring.Int.Defs
import Mathlib.Data.List.Sort

/-! Tables as lists of rows: UPDATE … SET … WHERE, upsert by key, ORDER BY … LIMIT. -/

namespace ApexEdge.Library.Table

/-- An UPDATE statement: what it sets, on the rows it selects. -/
structure Update (Row : Type) where
  selects : Row → Bool
  set : Row → Row

variable {Row : Type}

namespace Update

/-- What becomes of one row. -/
def row (update : Update Row) (old : Row) : Row := if update.selects old then update.set old else old

def run (update : Update Row) (rows : List Row) : List Row := rows.map update.row

theorem row_selected {update : Update Row} {old : Row} (selected : update.selects old = true) :
    update.row old = update.set old := if_pos selected

theorem row_kept {update : Update Row} {old : Row} (kept : update.selects old = false) :
    update.row old = old := by simp [row, kept]

theorem row_cases (update : Update Row) (old : Row) :
    update.selects old = true ∧ update.row old = update.set old ∨
      update.selects old = false ∧ update.row old = old := by
  cases selected : update.selects old with
  | true => exact .inl ⟨rfl, row_selected selected⟩
  | false => exact .inr ⟨rfl, row_kept selected⟩

/-- A column that the statement does not set. -/
theorem row_column {β : Type} (update : Update Row) (column : Row → β)
    (unset : ∀ old, column (update.set old) = column old) (old : Row) :
    column (update.row old) = column old := by
  rcases update.row_cases old with ⟨_, same⟩ | ⟨_, same⟩
  · rw [same, unset]
  · rw [same]

end Update

/-- Insert, or replace the rows with the same key by what they become. -/
def upsert (same : Row → Bool) (set : Row → Row) (fresh : Row) (rows : List Row) : List Row :=
  if rows.any same then (Update.mk same set).run rows else rows ++ [fresh]

def orderedBy (key : Row → Nat) (rows : List Row) : List Row :=
  rows.insertionSort fun first second => key first ≤ key second

theorem mem_upsert {same : Row → Bool} {set : Row → Row} {fresh row : Row} {rows : List Row}
    (member : row ∈ upsert same set fresh rows) :
    row = fresh ∨ row ∈ rows ∨ ∃ old ∈ rows, row = set old := by
  unfold upsert at member
  split at member
  · obtain ⟨old, present, changed⟩ := List.mem_map.mp member
    rcases Update.row_cases _ old with ⟨_, became⟩ | ⟨_, became⟩
    · exact .inr (.inr ⟨old, present, changed.symm.trans became⟩)
    · exact .inr (.inl (changed.symm.trans became ▸ present))
  · rcases List.mem_append.mp member with present | added
    · exact .inr (.inl present)
    · exact .inl (List.mem_singleton.mp added)

theorem mem_upsert_of_unselected {same : Row → Bool} {set : Row → Row} {fresh row : Row} {rows : List Row}
    (member : row ∈ rows) (other : same row = false) : row ∈ upsert same set fresh rows := by
  unfold upsert
  split
  · exact List.mem_map.mpr ⟨row, member, Update.row_kept other⟩
  · exact List.mem_append_left _ member

/-- An upsert that sets whole rows. -/
theorem mem_upsert_iff {same : Row → Bool} {fresh row : Row} {rows : List Row} :
    row ∈ upsert same (fun _ => fresh) fresh rows ↔ row = fresh ∨ row ∈ rows ∧ same row = false := by
  constructor
  · intro member
    by_cases selected : same row = true
    · unfold upsert at member
      split at member
      · obtain ⟨old, _, changed⟩ := List.mem_map.mp member
        rcases Update.row_cases _ old with ⟨_, became⟩ | ⟨kept, became⟩
        · exact .inl (changed.symm.trans became)
        · rw [became.symm.trans changed] at kept
          exact absurd selected (by simpa using kept)
      · rename_i none
        rcases List.mem_append.mp member with present | added
        · exact absurd (List.any_eq_true.mpr ⟨row, present, selected⟩) none
        · exact .inl (List.mem_singleton.mp added)
    · rcases mem_upsert member with written | present | ⟨_, _, written⟩
      · exact .inl written
      · exact .inr ⟨present, Bool.eq_false_iff.mpr selected⟩
      · exact .inl written
  · rintro (rfl | ⟨present, other⟩)
    · unfold upsert
      split
      · rename_i some
        obtain ⟨old, present, selected⟩ := List.any_eq_true.mp some
        exact List.mem_map.mpr ⟨old, present, Update.row_selected selected⟩
      · simp
    · exact mem_upsert_of_unselected present other

/-- Statements run one after another change every row on its own. -/
theorem foldl_run {Cause : Type} (update : Cause → Update Row) (causes : List Cause) (rows : List Row) :
    causes.foldl (fun rows cause => (update cause).run rows) rows =
      rows.map fun row => causes.foldl (fun row cause => (update cause).row row) row := by
  induction causes generalizing rows with
  | nil => simp
  | cons cause causes ih =>
    rw [List.foldl_cons, ih, Update.run, List.map_map]
    rfl

/-- Looking a row up by what the statement does not change on the rows it selects. -/
theorem find?_run_of_selected (update : Update Row) (same : Row → Bool)
    (unset : ∀ row, update.selects row = true → same (update.set row) = same row) (rows : List Row) :
    (update.run rows).find? same = (rows.find? same).map update.row := by
  have kept (row : Row) : same (update.row row) = same row := by
    rcases update.row_cases row with ⟨selected, changed⟩ | ⟨_, changed⟩
    · rw [changed, unset row selected]
    · rw [changed]
  induction rows with
  | nil => rfl
  | cons row rows ih =>
    simp only [Update.run, List.map_cons, List.find?_cons, kept]
    cases same row with
    | true => rfl
    | false => exact ih

/-- Looking a row up by a column that the statement does not set. -/
theorem find?_run (update : Update Row) (same : Row → Bool) (unset : ∀ row, same (update.set row) = same row)
    (rows : List Row) : (update.run rows).find? same = (rows.find? same).map update.row :=
  find?_run_of_selected update same (fun row _ => unset row) rows

theorem key_of_found {Key : Type} [DecidableEq Key] (key : Row → Key) {wanted : Key} {rows : List Row} {row : Row}
    (found : rows.find? (key · = wanted) = some row) : key row = wanted := by
  simpa using List.find?_some found

/-- What a statement on the rows of one key leaves under each key. -/
theorem find?_where {Key : Type} [DecidableEq Key] (key : Row → Key) (set : Row → Row) (target wanted : Key)
    (keeps : ∀ row, key row = target → key (set row) = target) (rows : List Row) :
    ((Update.mk (key · = target) set).run rows).find? (key · = wanted) =
      if wanted = target then (rows.find? (key · = target)).map set else rows.find? (key · = wanted) := by
  have unset (row : Row) (selected : decide (key row = target) = true) :
      decide (key (set row) = wanted) = decide (key row = wanted) := by
    have own := of_decide_eq_true selected
    rw [keeps row own, own]
  rw [find?_run_of_selected _ (key · = wanted) unset]
  by_cases same : wanted = target
  · subst same
    rw [if_pos rfl]
    cases found : rows.find? (key · = wanted) with
    | none => rfl
    | some row =>
      rw [Option.map_some, Option.map_some, Update.row_selected (by simpa using key_of_found key found)]
  · rw [if_neg same]
    cases found : rows.find? (key · = wanted) with
    | none => rfl
    | some row => rw [Option.map_some, Update.row_kept (by simpa [key_of_found key found] using same)]

/-- What an upsert leaves under each key. -/
theorem find?_upsert {Key : Type} [DecidableEq Key] (key : Row → Key) (set : Row → Row) (fresh : Row)
    (keeps : ∀ row, key row = key fresh → key (set row) = key fresh) (wanted : Key) (rows : List Row) :
    (upsert (key · = key fresh) set fresh rows).find? (key · = wanted) =
      if wanted = key fresh then some (((rows.find? (key · = key fresh)).map set).getD fresh)
      else rows.find? (key · = wanted) := by
  by_cases known : rows.any (key · = key fresh) = true
  · rw [upsert, if_pos known, find?_where key set _ wanted keeps]
    obtain ⟨row, found⟩ := Option.isSome_iff_exists.mp (List.find?_isSome.mpr (List.any_eq_true.mp known))
    rw [found, Option.map_some, Option.getD_some]
  · have none : rows.find? (key · = key fresh) = none :=
      List.find?_eq_none.mpr fun row member same => known (List.any_eq_true.mpr ⟨row, member, same⟩)
    rw [upsert, if_neg known, List.find?_append]
    by_cases same : wanted = key fresh
    · subst same
      simp [none]
    · have other : key fresh ≠ wanted := fun clash => same clash.symm
      simp [same, other]

/-- A key without duplicates finds the row that has it. -/
theorem find?_of_unique {Key : Type} [DecidableEq Key] {key : Row → Key} {rows : List Row} {row : Row}
    (unique : (rows.map key).Nodup) (member : row ∈ rows) : rows.find? (key · = key row) = some row := by
  induction rows with
  | nil => cases member
  | cons first rows ih =>
    obtain ⟨fresh, unique⟩ := List.nodup_cons.mp unique
    rcases List.mem_cons.mp member with rfl | later
    · simp
    · have other : key first ≠ key row := fun same => fresh (same ▸ List.mem_map_of_mem later)
      simpa [other] using ih unique later

/-- One row has the key of a row, when keys are unique. -/
theorem filter_key {Key : Type} [DecidableEq Key] {key : Row → Key} {rows : List Row}
    (unique : (rows.map key).Nodup) {row : Row} (member : row ∈ rows) : rows.filter (key · = key row) = [row] := by
  induction rows with
  | nil => cases member
  | cons first rows ih =>
    obtain ⟨fresh, unique⟩ := List.nodup_cons.mp unique
    rcases List.mem_cons.mp member with rfl | later
    · have none : rows.filter (key · = key row) = [] := by
        refine List.filter_eq_nil_iff.mpr fun other present same => ?_
        exact fresh (List.mem_map.mpr ⟨other, present, of_decide_eq_true same⟩)
      rw [List.filter_cons_of_pos (by simp), none]
    · have other : key first ≠ key row := fun same => fresh (same ▸ List.mem_map_of_mem later)
      rw [List.filter_cons_of_neg (by simpa using other), ih unique later]

/-- Replacing what is under one key leaves the others. -/
theorem lookup_replaced {Key Value : Type} [DecidableEq Key] (rows : List (Key × Value)) {key other : Key}
    (apart : other ≠ key) (value : Value) :
    ((key, value) :: rows.filter (·.1 ≠ key)).lookup other = rows.lookup other := by
  have off (k : Key) (same : k = key) : (other == k) = false := by
    rw [same]
    exact beq_false_of_ne apart
  rw [List.lookup_cons, off key rfl]
  show (rows.filter (·.1 ≠ key)).lookup other = rows.lookup other
  induction rows with
  | nil => rfl
  | cons row rows ih =>
    by_cases own : row.1 = key
    · rw [List.filter_cons_of_neg (by simpa using own), List.lookup_cons, off row.1 own]
      exact ih
    · rw [List.filter_cons_of_pos (by simpa using own), List.lookup_cons, List.lookup_cons, ih]

/-- Which rows a filter keeps is told by their keys, and stays so when no row that is selected comes or goes. -/
theorem keys_run {Key : Type} {key : Row → Key} {update : Update Row} {keep : Row → Bool} {rows : List Row}
    (unset : ∀ row, key (update.set row) = key row)
    (same : ∀ row ∈ rows, update.selects row = true → keep (update.set row) = keep row) :
    ((update.run rows).filter keep).map key = (rows.filter keep).map key := by
  have kept : rows.filter (keep ∘ update.row) = rows.filter keep := by
    refine List.filter_congr fun row member => ?_
    rcases update.row_cases row with ⟨selected, changed⟩ | ⟨_, changed⟩
    · rw [Function.comp_apply, changed, same row member selected]
    · rw [Function.comp_apply, changed]
  rw [Update.run, List.filter_map, kept, List.map_map]
  exact List.map_congr_left fun row _ => update.row_column key unset row

/-- The rows of one key come to those that a filter keeps. -/
theorem mem_keys_run {Key : Type} [DecidableEq Key] {key : Row → Key} {set : Row → Row} {keep : Row → Bool}
    {rows : List Row} {target : Key} (unset : ∀ row, key (set row) = key row) (comes : ∀ row, keep (set row) = true)
    (present : ∃ row ∈ rows, key row = target) (wanted : Key) :
    wanted ∈ (((Update.mk (key · = target) set).run rows).filter keep).map key ↔
      wanted ∈ (rows.filter keep).map key ∨ wanted = target := by
  simp only [List.mem_map, List.mem_filter]
  constructor
  · rintro ⟨_, ⟨member, stays⟩, rfl⟩
    obtain ⟨old, present, rfl⟩ := List.mem_map.mp member
    rcases Update.row_cases ⟨(key · = target), set⟩ old with ⟨selected, changed⟩ | ⟨_, changed⟩
    · rw [changed]
      exact .inr ((unset old).trans (of_decide_eq_true selected))
    · rw [changed] at stays ⊢
      exact .inl ⟨old, ⟨present, stays⟩, rfl⟩
  · have stays (row : Row) (member : row ∈ rows) (kept : keep row = true ∨ key row = target) :
        ∃ after, (after ∈ (Update.mk (key · = target) set).run rows ∧ keep after = true) ∧ key after = key row := by
      refine ⟨_, ⟨List.mem_map_of_mem member, ?_⟩, Update.row_column _ key unset row⟩
      rcases Update.row_cases ⟨(key · = target), set⟩ row with ⟨_, changed⟩ | ⟨other, changed⟩
      · rw [changed]
        exact comes row
      · rw [changed]
        exact kept.resolve_right (of_decide_eq_false other)
    rintro (⟨row, ⟨member, kept⟩, rfl⟩ | rfl)
    · exact stays row member (.inl kept)
    · obtain ⟨row, member, rfl⟩ := present
      exact stays row member (.inr rfl)

/-- Updates that leave the key of what they select alone keep it unique. -/
theorem unique_run_of_selected {Key : Type} {key : Row → Key} {update : Update Row} {rows : List Row}
    (unset : ∀ row, update.selects row = true → key (update.set row) = key row) (unique : (rows.map key).Nodup) :
    ((update.run rows).map key).Nodup := by
  have same : (update.run rows).map key = rows.map key := by
    simp only [Update.run, List.map_map]
    refine List.map_congr_left fun row _ => ?_
    show key (update.row row) = key row
    rcases update.row_cases row with ⟨selected, changed⟩ | ⟨_, changed⟩
    · rw [changed, unset row selected]
    · rw [changed]
  rw [same]
  exact unique

/-- Updates that leave the key alone keep it unique. -/
theorem unique_run {Key : Type} {key : Row → Key} {update : Update Row} {rows : List Row}
    (unset : ∀ row, key (update.set row) = key row) (unique : (rows.map key).Nodup) :
    ((update.run rows).map key).Nodup :=
  unique_run_of_selected (fun row _ => unset row) unique

/-- A row with a new key keeps the keys unique. -/
theorem unique_append {Key : Type} {key : Row → Key} {fresh : Row} {rows : List Row} (unique : (rows.map key).Nodup)
    (absent : ∀ row ∈ rows, key row ≠ key fresh) : ((rows ++ [fresh]).map key).Nodup := by
  rw [List.map_append, List.nodup_append]
  refine ⟨unique, by simp, ?_⟩
  intro taken member added same
  obtain ⟨row, present, keyed⟩ := List.mem_map.mp member
  simp only [List.map_cons, List.map_nil, List.mem_singleton] at same
  exact keyed ▸ same ▸ absent row present

theorem unique_upsert {Key : Type} [DecidableEq Key] {key : Row → Key} {set : Row → Row} {fresh : Row}
    {rows : List Row} (keeps : ∀ row, key row = key fresh → key (set row) = key fresh)
    (unique : (rows.map key).Nodup) : ((upsert (key · = key fresh) set fresh rows).map key).Nodup := by
  unfold upsert
  split
  · refine unique_run_of_selected (fun row selected => ?_) unique
    have own := of_decide_eq_true selected
    exact (keeps row own).trans own.symm
  · rename_i absent
    exact unique_append unique (by simpa using absent)

theorem mem_orderedBy {key : Row → Nat} {rows : List Row} {row : Row} :
    row ∈ orderedBy key rows ↔ row ∈ rows :=
  List.mem_insertionSort _

/-- The order of rows among which no two are equal in the order does not depend on where they come from. -/
theorem insertionSort_perm {before : Row → Row → Prop} [DecidableRel before] [Std.Total before] [IsTrans Row before]
    {rows others : List Row} (same : rows.Perm others)
    (distinct : ∀ first ∈ rows, ∀ second ∈ rows, before first second → before second first → first = second) :
    rows.insertionSort before = others.insertionSort before := by
  refine List.Perm.eq_of_pairwise (fun first second listed other => ?_) (List.pairwise_insertionSort before rows)
    (List.pairwise_insertionSort before others)
    ((List.perm_insertionSort before rows).trans (same.trans (List.perm_insertionSort before others).symm))
  have here := (List.mem_insertionSort before).mp listed
  have there := same.mem_iff.mpr ((List.mem_insertionSort before).mp other)
  exact distinct first here second there

theorem orderedInsert_filter {before : Row → Row → Prop} [DecidableRel before] [IsTrans Row before] {rows : List Row}
    (sorted : rows.Pairwise before) (keep : Row → Bool) {row : Row} (kept : keep row = true) :
    (rows.orderedInsert before row).filter keep = (rows.filter keep).orderedInsert before row := by
  induction rows with
  | nil => simp [kept]
  | cons first rows ih =>
    obtain ⟨least, sorted⟩ := List.pairwise_cons.mp sorted
    by_cases here : before row first
    · have ahead : ∀ other ∈ (first :: rows).filter keep, before row other := by
        intro other listed
        rcases List.mem_cons.mp (List.mem_filter.mp listed).1 with rfl | later
        · exact here
        · exact IsTrans.trans _ _ _ here (least other later)
      rw [List.orderedInsert_cons, if_pos here, List.filter_cons_of_pos kept]
      cases rest : (first :: rows).filter keep with
      | nil => rfl
      | cons next others => rw [List.orderedInsert_cons, if_pos (ahead next (by simp [rest]))]
    · rw [List.orderedInsert_cons, if_neg here]
      by_cases stays : keep first = true
      · rw [List.filter_cons_of_pos stays, List.filter_cons_of_pos stays, List.orderedInsert_cons, if_neg here,
          ih sorted]
      · rw [List.filter_cons_of_neg stays, List.filter_cons_of_neg stays, ih sorted]

/-- Sorting keeps what is equal in the order in its place, so that rows may be left out before or after it. -/
theorem insertionSort_filter (before : Row → Row → Prop) [DecidableRel before] [Std.Total before] [IsTrans Row before]
    (keep : Row → Bool) (rows : List Row) :
    (rows.insertionSort before).filter keep = (rows.filter keep).insertionSort before := by
  induction rows with
  | nil => rfl
  | cons row rows ih =>
    rw [List.insertionSort_cons]
    by_cases kept : keep row = true
    · rw [orderedInsert_filter (List.pairwise_insertionSort before rows) keep kept, ih, List.filter_cons_of_pos kept,
        List.insertionSort_cons]
    · have gone : (List.orderedInsert before row (rows.insertionSort before)).filter keep =
          (rows.insertionSort before).filter keep := by
        rw [List.orderedInsert_eq_take_drop, List.filter_append, List.filter_cons_of_neg kept, ← List.filter_append,
          List.takeWhile_append_dropWhile]
      rw [gone, ih, List.filter_cons_of_neg kept]

end ApexEdge.Library.Table
