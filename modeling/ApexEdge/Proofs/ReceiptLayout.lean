import ApexEdge.Hardware.Document

/-! What layout does to text, whatever the cells are: it breaks lines at spaces, and neither
loses nor invents anything else. -/

namespace ApexEdge.Proofs.ReceiptLayout
open Hardware Codepage

section Chunks
variable {α β : Type} {width : Nat} {cells : List α}

theorem chunks_done (short : width = 0 ∨ cells = []) : chunks width cells = [] := by
  rw [chunks, dif_pos short]

theorem chunks_more (long : ¬ (width = 0 ∨ cells = [])) :
    chunks width cells = cells.take width :: chunks width (cells.drop width) := by
  rw [chunks, dif_neg long]

theorem chunks_map (f : α → β) (width : Nat) (cells : List α) :
    chunks width (cells.map f) = (chunks width cells).map (List.map f) := by
  induction cells using chunks.induct width with
  | case1 cells short =>
    rw [chunks_done short, chunks_done (short.imp_right (congrArg (List.map f)))]
    rfl
  | case2 cells long ih =>
    rw [chunks_more long, chunks_more fun short => long (short.imp_right List.map_eq_nil_iff.mp),
      List.map_cons, ← ih, List.map_take, List.map_drop]

theorem chunks_flatten (wide : width ≠ 0) (cells : List α) : (chunks width cells).flatten = cells := by
  induction cells using chunks.induct width with
  | case1 cells short => rw [chunks_done short, short.resolve_left wide, List.flatten_nil]
  | case2 cells long ih => rw [chunks_more long, List.flatten_cons, ih, List.take_append_drop]

end Chunks

section Splitting
variable {α β : Type} [DecidableEq α] [DecidableEq β] {space : α}

theorem splitOn_flatten (space : α) (cells : List α) : (cells.splitOn space).flatten = cells.filter (· ≠ space) := by
  induction cells with
  | nil => rfl
  | cons cell cells ih =>
    rw [List.splitOn_cons_eq_if_modifyHead]
    by_cases same : cell = space
    · rw [if_pos (beq_iff_eq.mpr same), List.flatten_cons, List.nil_append, ih,
        List.filter_cons_of_neg (by simpa using same)]
    · rw [if_neg (mt beq_iff_eq.mp same), List.filter_cons_of_pos (by simpa using same), ← ih]
      cases split : cells.splitOn space with
      | nil => cases List.splitOn_ne_nil space cells split
      | cons word words => rfl

theorem splitOn_map {f : α → β} {cells : List α} (agree : ∀ cell ∈ cells, f cell = f space ↔ cell = space) :
    (cells.map f).splitOn (f space) = (cells.splitOn space).map (List.map f) := by
  induction cells with
  | nil => rfl
  | cons cell cells ih =>
    rw [List.map_cons, List.splitOn_cons_eq_if_modifyHead, List.splitOn_cons_eq_if_modifyHead,
      ih fun other member => agree other (List.mem_cons_of_mem _ member)]
    by_cases same : cell = space
    · rw [if_pos (beq_iff_eq.mpr same), if_pos (beq_iff_eq.mpr (congrArg f same))]
      rfl
    · rw [if_neg (mt beq_iff_eq.mp same), if_neg (mt beq_iff_eq.mp (mt (agree cell List.mem_cons_self).mp same))]
      cases cells.splitOn space <;> rfl

end Splitting

section Words
variable {α β : Type} {space : α} {width : Nat} {page after : Page α} {word : List α}

/-- The line being filled, if there is one, is done. -/
def closed (page : Page α) : Page α := if page.current = [] then page else page.take

theorem layoutWord_long (wide : width ≠ 0) (long : width < word.length) :
    layoutWord space width page word = some ⟨(closed page).lines ++ chunks width word, []⟩ := by
  rw [layoutWord, if_pos long, if_neg wide, closed]
  by_cases idle : page.current = []
  · rw [if_pos idle, if_neg (not_not_intro idle), ← idle]
  · rw [if_neg idle, if_pos idle]
    rfl

/-- The word starts a line. -/
theorem layoutWord_first (short : word.length ≤ width)
    (first : page.current = [] ∨ width < page.current.length + 1 + word.length) :
    layoutWord space width page word = some ⟨(closed page).lines, word⟩ := by
  rw [layoutWord, if_neg (Nat.not_lt.mpr short), closed]
  by_cases idle : page.current = []
  · simp only [idle, if_true, ne_eq, not_true_eq_false, if_false, gt_iff_lt, Nat.not_lt.mpr short, List.nil_append]
  · simp only [idle, if_false, gt_iff_lt, first.resolve_left idle, if_true, Page.take, ne_eq,
      not_true_eq_false, List.nil_append]

/-- The word follows another. -/
theorem layoutWord_next (busy : page.current ≠ []) (fits : page.current.length + 1 + word.length ≤ width) :
    layoutWord space width page word = some ⟨page.lines, page.current ++ space :: word⟩ := by
  have short : ¬ word.length > width := by omega
  simp only [layoutWord, if_neg short, busy, if_false, gt_iff_lt, Nat.not_lt.mpr fits, ne_eq, not_false_eq_true, if_true]
  rw [List.append_assoc]
  rfl

theorem layoutWord_stops (long : word ≠ []) : layoutWord space 0 page word = none := by
  rw [layoutWord, if_pos (List.length_pos_of_ne_nil long), if_pos rfl]

/-- The cases of one word: too long for a line, at the start of one, or after another. -/
theorem layoutWord_cases (width : Nat) (page : Page α) (word : List α) :
    (width = 0 ∧ word ≠ []) ∨ (width ≠ 0 ∧ width < word.length) ∨
      (word.length ≤ width ∧ (page.current = [] ∨ width < page.current.length + 1 + word.length)) ∨
      (page.current ≠ [] ∧ page.current.length + 1 + word.length ≤ width) := by
  rw [← List.length_pos_iff]
  by_cases idle : page.current = [] <;> simp only [idle, true_or, and_true, ne_eq, not_true_eq_false, false_or,
    false_and, or_false, not_false_eq_true, true_and] <;> omega

theorem layoutWord_some : (∃ after, layoutWord space width page word = some after) ↔ (width = 0 → word = []) := by
  obtain ⟨rfl, long⟩ | ⟨wide, long⟩ | ⟨short, first⟩ | ⟨busy, fits⟩ := layoutWord_cases width page word
  · rw [layoutWord_stops long]
    exact ⟨fun ⟨_, impossible⟩ => (nomatch impossible), fun empty => absurd (empty rfl) long⟩
  · rw [layoutWord_long wide long]
    exact ⟨fun _ none => absurd none wide, fun _ => ⟨_, rfl⟩⟩
  · rw [layoutWord_first short first]
    exact ⟨fun _ none => List.length_eq_zero_iff.mp (Nat.le_zero.mp (none ▸ short)), fun _ => ⟨_, rfl⟩⟩
  · rw [layoutWord_next busy fits]
    exact ⟨fun _ none => by omega, fun _ => ⟨_, rfl⟩⟩

def renamed (f : α → β) (page : Page α) : Page β := ⟨page.lines.map (List.map f), page.current.map f⟩

theorem closed_renamed (f : α → β) (page : Page α) : closed (renamed f page) = renamed f (closed page) := by
  by_cases idle : page.current = []
  · have still : (renamed f page).current = [] := List.map_eq_nil_iff.mpr idle
    rw [closed, closed, if_pos idle, if_pos still]
  · have still : (renamed f page).current ≠ [] := mt List.map_eq_nil_iff.mp idle
    rw [closed, closed, if_neg idle, if_neg still]
    simp only [renamed, Page.take, List.map_append, List.map_cons, List.map_nil]

theorem layoutWord_renamed (f : α → β) (page : Page α) (word : List α) :
    layoutWord (f space) width (renamed f page) (word.map f) = (layoutWord space width page word).map (renamed f) := by
  have idle : (renamed f page).current = [] ↔ page.current = [] := List.map_eq_nil_iff
  have filled : (renamed f page).current.length = page.current.length := List.length_map ..
  obtain ⟨rfl, long⟩ | ⟨wide, long⟩ | ⟨short, first⟩ | ⟨busy, fits⟩ := layoutWord_cases width page word
  · rw [layoutWord_stops long, layoutWord_stops (mt List.map_eq_nil_iff.mp long), Option.map_none]
  · rw [layoutWord_long wide long, layoutWord_long wide (by rwa [List.length_map]), closed_renamed, chunks_map]
    simp only [Option.map_some, renamed, List.map_append, List.map_nil]
  · rw [layoutWord_first short first, layoutWord_first (by rwa [List.length_map]) (by rwa [idle, filled, List.length_map]),
      closed_renamed]
    rfl
  · rw [layoutWord_next busy fits, layoutWord_next (mt idle.mp busy) (by rwa [filled, List.length_map])]
    simp only [Option.map_some, renamed, List.map_append, List.map_cons]

/-- All cells of a page in their order. -/
def cellsOf (page : Page α) : List α := page.lines.flatten ++ page.current

theorem cellsOf_closed (page : Page α) : (closed page).lines.flatten = cellsOf page := by
  by_cases idle : page.current = []
  · rw [closed, if_pos idle, cellsOf, idle, List.append_nil]
  · rw [closed, if_neg idle, Page.take, List.flatten_append, cellsOf, List.flatten_singleton]

/-- A word is added whole; nothing else is but a space. -/
theorem layoutWord_keeps [DecidableEq α] (laid : layoutWord space width page word = some after) :
    (cellsOf after).filter (· ≠ space) = (cellsOf page ++ word).filter (· ≠ space) := by
  obtain ⟨rfl, long⟩ | ⟨wide, long⟩ | ⟨short, first⟩ | ⟨busy, fits⟩ := layoutWord_cases width page word
  · rw [layoutWord_stops long] at laid
    cases laid
  · rw [layoutWord_long wide long] at laid
    cases laid
    rw [cellsOf, List.flatten_append, cellsOf_closed, chunks_flatten wide, List.append_nil]
  · rw [layoutWord_first short first] at laid
    cases laid
    rw [cellsOf, cellsOf_closed]
  · rw [layoutWord_next busy fits] at laid
    cases laid
    simp [cellsOf, List.filter_append]

theorem finish_flatten (page : Page α) : page.finish.flatten = cellsOf page := by
  rw [Page.finish, cellsOf]
  split
  · rw [List.flatten_append, List.flatten_singleton]
  · rename_i ready
    rw [not_not.mp (not_or.mp ready).1, List.append_nil]

theorem finish_some (page : Page α) : page.finish ≠ [] := by
  rw [Page.finish]
  split
  · exact List.append_ne_nil_of_right_ne_nil _ (List.cons_ne_nil _ _)
  · rename_i ready
    exact (not_or.mp ready).2

theorem finish_renamed (f : α → β) (page : Page α) : (renamed f page).finish = page.finish.map (List.map f) := by
  simp only [Page.finish, renamed, ne_eq, List.map_eq_nil_iff]
  split
  · rw [List.map_append, List.map_cons, List.map_nil]
  · rfl

theorem words_renamed (space : α) (width : Nat) (f : α → β) (words : List (List α)) (page : Page α) :
    (words.map (List.map f)).foldlM (layoutWord (f space) width) (renamed f page) =
      (words.foldlM (layoutWord space width) page).map (renamed f) := by
  induction words generalizing page with
  | nil => rfl
  | cons word words ih =>
    rw [List.map_cons, List.foldlM_cons, List.foldlM_cons, layoutWord_renamed]
    cases layoutWord space width page word with
    | none => rfl
    | some middle => exact ih middle

theorem words_some {words : List (List α)} (space : α) (page : Page α) :
    (∃ after, words.foldlM (layoutWord space width) page = some after) ↔ (width = 0 → ∀ word ∈ words, word = []) := by
  induction words generalizing page with
  | nil => exact ⟨fun _ _ _ impossible => (nomatch impossible), fun _ => ⟨page, rfl⟩⟩
  | cons word words ih =>
    rw [List.foldlM_cons, Option.bind_eq_bind]
    constructor
    · intro ⟨after, laid⟩ none
      obtain ⟨middle, first, laid⟩ := Option.bind_eq_some_iff.mp laid
      exact List.forall_mem_cons.mpr ⟨layoutWord_some.mp ⟨middle, first⟩ none, (ih _).mp ⟨after, laid⟩ none⟩
    · intro empty
      obtain ⟨middle, first⟩ := layoutWord_some.mpr fun none => empty none word List.mem_cons_self
      obtain ⟨after, laid⟩ := (ih _).mpr fun none other member => empty none other (List.mem_cons_of_mem _ member)
      exact ⟨after, Option.bind_eq_some_iff.mpr ⟨middle, first, laid⟩⟩

/-- A row is renamed cell by cell. -/
theorem layoutRow_renamed (f : α → β) (space : α) (left right : List α) (width : Nat) :
    layoutRow (f space) (left.map f) (right.map f) width = (layoutRow space left right width).map f := by
  simp only [layoutRow, List.length_map, ← List.map_take, List.map_append, List.map_replicate]

theorem mem_row {cell : α} {left right : List α} (visible : cell ≠ space) :
    cell ∈ layoutRow space left right width ↔ cell ∈ left.take (width - (right.length + 1)) ∨ cell ∈ right := by
  simp only [layoutRow, List.mem_append, List.mem_replicate, visible, and_false, or_false]

end Words

section Lines
variable {α β : Type} [DecidableEq α] [DecidableEq β] {space : α} {width : Nat} {cells : List α} {lines : List (List α)}

theorem words_keep {words : List (List α)} {page after : Page α}
    (laid : words.foldlM (layoutWord space width) page = some after) :
    (cellsOf after).filter (· ≠ space) = (cellsOf page ++ words.flatten).filter (· ≠ space) := by
  induction words generalizing page with
  | nil =>
    cases laid
    rw [List.flatten_nil, List.append_nil]
  | cons word words ih =>
    rw [List.foldlM_cons, Option.bind_eq_bind, Option.bind_eq_some_iff] at laid
    obtain ⟨middle, first, laid⟩ := laid
    rw [ih laid, List.filter_append, layoutWord_keeps first, ← List.filter_append, List.flatten_cons, List.append_assoc]

/-- The lines hold the cells in their order; only spaces may be gone or new. -/
theorem lines_keep (laid : layoutCells space cells width = some lines) :
    lines.flatten.filter (· ≠ space) = cells.filter (· ≠ space) := by
  rw [layoutCells] at laid
  split at laid
  · rename_i empty
    cases laid
    rw [empty]
    rfl
  · obtain ⟨page, reached, rfl⟩ := Option.map_eq_some_iff.mp laid
    rw [finish_flatten, words_keep reached, splitOn_flatten, cellsOf, List.flatten_nil, List.nil_append, List.nil_append,
      List.filter_filter]
    simp only [Bool.and_self]

theorem mem_lines {cell : α} (laid : layoutCells space cells width = some lines) (visible : cell ≠ space) :
    (∃ line ∈ lines, cell ∈ line) ↔ cell ∈ cells := by
  have kept : cell ∈ lines.flatten.filter (· ≠ space) ↔ cell ∈ cells.filter (· ≠ space) := by rw [lines_keep laid]
  simpa only [List.mem_filter, decide_eq_true visible, and_true, List.mem_flatten] using kept

theorem lines_some (laid : layoutCells space cells width = some lines) : lines ≠ [] := by
  rw [layoutCells] at laid
  split at laid
  · cases laid
    exact List.cons_ne_nil _ _
  · obtain ⟨page, _, rfl⟩ := Option.map_eq_some_iff.mp laid
    exact finish_some page

/-- Renaming the cells renames the lines, as long as just the spaces become spaces. -/
theorem layoutCells_renamed {f : α → β} (agree : ∀ cell ∈ cells, f cell = f space ↔ cell = space) :
    layoutCells (f space) (cells.map f) width = (layoutCells space cells width).map (List.map (List.map f)) := by
  rw [layoutCells, layoutCells]
  by_cases empty : cells = []
  · rw [if_pos empty, if_pos (List.map_eq_nil_iff.mpr empty)]
    rfl
  · have same := words_renamed space width f (cells.splitOn space) ⟨[], []⟩
    rw [if_neg empty, if_neg (mt List.map_eq_nil_iff.mp empty), splitOn_map agree]
    change (((cells.splitOn space).map (List.map f)).foldlM (layoutWord (f space) width) (renamed f ⟨[], []⟩)).map
      Page.finish = _
    rw [same, Option.map_map, Option.map_map]
    congr 1
    funext page
    exact finish_renamed f page

/-- Layout panics for words where a line has no width. -/
theorem layoutCells_some : (∃ lines, layoutCells space cells width = some lines) ↔
    (width = 0 → ∀ cell ∈ cells, cell = space) := by
  have blank : (∀ word ∈ cells.splitOn space, word = []) ↔ ∀ cell ∈ cells, cell = space := by
    rw [← List.flatten_eq_nil_iff, splitOn_flatten, List.filter_eq_nil_iff]
    simp only [ne_eq, decide_not, Bool.not_eq_true', decide_eq_false_iff_not, not_not]
  rw [← blank, layoutCells]
  split
  · rename_i empty
    refine ⟨fun _ _ word member => ?_, fun _ => ⟨_, rfl⟩⟩
    rw [empty, List.splitOn_nil, List.mem_singleton] at member
    exact member
  · rw [← words_some space ⟨[], []⟩]
    simp only [Option.map_eq_some_iff]
    exact ⟨fun ⟨_, page, laid, _⟩ => ⟨page, laid⟩, fun ⟨page, laid⟩ => ⟨_, page, laid, rfl⟩⟩

end Lines

end ApexEdge.Proofs.ReceiptLayout
