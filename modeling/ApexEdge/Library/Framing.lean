import Mathlib.Data.List.Basic

/-! Reading a stream with a cursor. Each turn is shown all that is left and says how much of
it it took; what it takes as a frame it takes whatever follows. -/

namespace ApexEdge.Library.Framing
variable {σ α : Type}

/-- How much was taken and the state it leaves, or nothing when the reader breaks off. -/
abbrev Turn (σ α : Type) := σ → List α → Option (Nat × σ)

/-- Turns until the input is used up. Each takes at least one item; `skip` counts the items
taken that the cursor has still to pass. -/
def scan (turn : Turn σ α) : Nat → σ → List α → Option σ
  | _, state, [] => some state
  | skip + 1, state, _ :: rest => scan turn skip state rest
  | 0, state, item :: rest => do
    let (taken, next) ← turn state (item :: rest)
    scan turn (max taken 1 - 1) next rest

/-- The turn takes the whole frame, whatever follows it. -/
structure Reads (turn : Turn σ α) (state : σ) (frame : List α) (next : σ) : Prop where
  nonempty : frame ≠ []
  takes : ∀ rest, turn state (frame ++ rest) = some (frame.length, next)

/-- One frame after the other. -/
inductive ReadsAll (turn : Turn σ α) : σ → List (List α) → σ → Prop where
  | nil (state : σ) : ReadsAll turn state [] state
  | cons {state middle next : σ} {frame : List α} {frames : List (List α)}
      (first : Reads turn state frame middle) (others : ReadsAll turn middle frames next) :
      ReadsAll turn state (frame :: frames) next

/-- The reader that keeps a log of what it takes. -/
def logged (turn : Turn σ α) : Turn (σ × List (List α)) α := fun (state, log) input =>
  (turn state input).map fun (taken, next) => (taken, next, log ++ [input.take (max taken 1)])

/-- A reading of the whole input: each turn takes some of what is left and no more than that. -/
inductive Tiles (turn : Turn σ α) : σ → List α → List (List α) → σ → Prop where
  | done (state : σ) : Tiles turn state [] [] state
  | step {state middle next : σ} {frame rest : List α} {frames : List (List α)} (nonempty : frame ≠ [])
      (taking : turn state (frame ++ rest) = some (frame.length, middle)) (others : Tiles turn middle rest frames next) :
      Tiles turn state (frame ++ rest) (frame :: frames) next

/-- What is left at the start of each turn, when how much a turn takes depends on the input alone. -/
def positions (width : List α → Nat) : Nat → List α → List (List α)
  | _, [] => []
  | skip + 1, _ :: rest => positions width skip rest
  | 0, item :: rest => (item :: rest) :: positions width (width (item :: rest) - 1) rest

section Scan
variable {turn : Turn σ α} {state middle next : σ} {frame : List α} {frames others : List (List α)}

theorem scan_skips (before rest : List α) : scan turn before.length state (before ++ rest) = scan turn 0 state rest := by
  induction before with
  | nil => rfl
  | cons item before ih => exact ih

theorem Reads.scan (reads : Reads turn state frame next) (rest : List α) :
    scan turn 0 state (frame ++ rest) = Framing.scan turn 0 next rest := by
  obtain ⟨item, tail, rfl⟩ := List.exists_cons_of_ne_nil reads.nonempty
  have taken := reads.takes rest
  rw [List.cons_append] at taken ⊢
  rw [Framing.scan, taken]
  change Framing.scan turn (max (tail.length + 1) 1 - 1) next (tail ++ rest) = _
  rw [Nat.max_eq_left (Nat.le_add_left 1 _), Nat.add_sub_cancel]
  exact scan_skips tail rest

theorem ReadsAll.scan (reads : ReadsAll turn state frames next) (rest : List α) :
    scan turn 0 state (frames.flatten ++ rest) = Framing.scan turn 0 next rest := by
  induction reads with
  | nil => rfl
  | cons first _ ih => rw [List.flatten_cons, List.append_assoc, first.scan, ih]

theorem ReadsAll.append (first : ReadsAll turn state frames middle) (last : ReadsAll turn middle others next) :
    ReadsAll turn state (frames ++ others) next := by
  induction first with
  | nil => exact last
  | cons head _ ih => exact .cons head (ih last)

theorem Reads.one (reads : Reads turn state frame next) : ReadsAll turn state [frame] next := .cons reads (.nil next)

theorem Reads.logged (reads : Reads turn state frame next) (log : List (List α)) :
    Reads (logged turn) (state, log) frame (next, log ++ [frame]) where
  nonempty := reads.nonempty
  takes rest := by
    have long : 1 ≤ frame.length := List.length_pos_of_ne_nil reads.nonempty
    rw [Framing.logged, reads.takes, Option.map_some]
    change some (frame.length, next, log ++ [(frame ++ rest).take (max frame.length 1)]) = _
    rw [Nat.max_eq_left long, List.take_left]

theorem ReadsAll.logged (reads : ReadsAll turn state frames next) (log : List (List α)) :
    ReadsAll (logged turn) (state, log) frames (next, log ++ frames) := by
  induction reads generalizing log with
  | nil => rw [List.append_nil]; exact .nil _
  | @cons _ _ _ frame _ first _ ih =>
    refine .cons (first.logged log) ?_
    have grown := ih (log ++ [frame])
    rwa [List.append_assoc] at grown

/-- What every turn preserves, the whole reading preserves. -/
theorem scan_keeps (kept : σ → Prop) (preserves : ∀ {state input taken next}, turn state input = some (taken, next) →
      kept state → kept next) {skip : Nat} {input : List α} (start : kept state)
    (done : scan turn skip state input = some next) : kept next := by
  induction input generalizing skip state with
  | nil =>
    cases skip <;> exact (Option.some.inj done) ▸ start
  | cons item rest ih =>
    cases skip with
    | succ skip => exact ih start done
    | zero =>
      rw [scan, Option.bind_eq_bind, Option.bind_eq_some_iff] at done
      obtain ⟨⟨taken, middle⟩, taking, done⟩ := done
      exact ih (preserves taking start) done

/-- The log only grows. -/
theorem log_grows {skip : Nat} {input : List α} {log after : List (List α)}
    (done : scan (logged turn) skip (state, log) input = some (next, after)) : log <+: after := by
  refine scan_keeps (fun reading => log <+: reading.2) ?_ (List.prefix_refl log) done
  intro reading input taken reached step grown
  obtain ⟨_, _, same⟩ := Option.map_eq_some_iff.mp step
  cases same
  exact grown.trans (List.prefix_append ..)

theorem Tiles.flatten {input : List α} (tiles : Tiles turn state input frames next) : frames.flatten = input := by
  induction tiles with
  | done => rfl
  | step _ _ _ ih => rw [List.flatten_cons, ih]

theorem Tiles.scan {input : List α} (tiles : Tiles turn state input frames next) : scan turn 0 state input = some next := by
  induction tiles with
  | done => rfl
  | @step state middle next frame rest frames nonempty taking others ih =>
    obtain ⟨item, tail, rfl⟩ := List.exists_cons_of_ne_nil nonempty
    rw [List.cons_append] at taking ⊢
    rw [Framing.scan, taking]
    change Framing.scan turn (max (tail.length + 1) 1 - 1) middle (tail ++ rest) = some next
    rw [Nat.max_eq_left (Nat.le_add_left 1 _), Nat.add_sub_cancel, scan_skips, ih]

end Scan

section Widths
variable {turn : Turn σ α} {width : List α → Nat} {kept : σ → Prop} {fails : List α → Prop}

theorem positions_skips (width : List α → Nat) (before rest : List α) :
    positions width before.length (before ++ rest) = positions width 0 rest := by
  induction before with
  | nil => rfl
  | cons item before ih => exact ih

theorem positions_frame {frame rest : List α} (nonempty : frame ≠ []) (wide : width (frame ++ rest) = frame.length) :
    positions width 0 (frame ++ rest) = (frame ++ rest) :: positions width 0 rest := by
  obtain ⟨item, tail, rfl⟩ := List.exists_cons_of_ne_nil nonempty
  rw [List.cons_append] at wide ⊢
  rw [positions, wide, List.length_cons, Nat.add_sub_cancel, positions_skips]

/-- A turn takes what the input alone says, and breaks off at given inputs. -/
structure Measured (turn : Turn σ α) (width : List α → Nat) (kept : σ → Prop) (fails : List α → Prop) : Prop where
  wide : ∀ input, input ≠ [] → 0 < width input ∧ width input ≤ input.length
  takes : ∀ {state input}, kept state → input ≠ [] → ¬ fails input →
    ∃ next, turn state input = some (width input, next) ∧ kept next
  breaks : ∀ {state input}, kept state → fails input → turn state input = none

variable (measured : Measured turn width kept fails)
include measured

theorem Tiles.passes {state next : σ} {input : List α} {frames : List (List α)} (start : kept state)
    (tiles : Tiles turn state input frames next) : ∀ rest ∈ positions width 0 input, ¬ fails rest := by
  induction tiles with
  | done => exact fun _ member => absurd member List.not_mem_nil
  | @step state middle next frame rest frames nonempty taking others ih =>
    have good : ¬ fails (frame ++ rest) := fun bad => by
      rw [measured.breaks start bad] at taking
      cases taking
    have something : frame ++ rest ≠ [] := List.append_ne_nil_of_left_ne_nil nonempty rest
    obtain ⟨reached, taken, kept⟩ := measured.takes start something good
    obtain ⟨wide, rfl⟩ := Prod.mk.inj (Option.some.inj (taken.symm.trans taking))
    rw [positions_frame nonempty wide, List.forall_mem_cons]
    exact ⟨good, ih kept⟩

theorem tiles_of_passes {state : σ} (start : kept state) (input : List α)
    (passes : ∀ rest ∈ positions width 0 input, ¬ fails rest) : ∃ frames next, Tiles turn state input frames next := by
  by_cases empty : input = []
  · exact ⟨[], state, empty ▸ .done state⟩
  obtain ⟨something, enough⟩ := measured.wide input empty
  have split : input.take (width input) ++ input.drop (width input) = input := List.take_append_drop ..
  have length : (input.take (width input)).length = width input := List.length_take_of_le enough
  have nonempty : input.take (width input) ≠ [] := by
    rw [← List.length_pos_iff, length]
    exact something
  have wide : width (input.take (width input) ++ input.drop (width input)) = (input.take (width input)).length := by
    rw [split, length]
  have listed := positions_frame nonempty wide
  rw [split] at listed
  rw [listed, List.forall_mem_cons] at passes
  obtain ⟨middle, taken, kept⟩ := measured.takes start empty passes.1
  obtain ⟨frames, next, tiles⟩ := tiles_of_passes kept (input.drop (width input)) passes.2
  have first := Tiles.step nonempty (by rw [split, length]; exact taken) tiles
  rw [split] at first
  exact ⟨_, next, first⟩
termination_by input.length
decreasing_by
  rw [List.length_drop]
  have := List.length_pos_iff.mpr empty
  omega

/-- The whole input is read if and only if no turn comes upon an input it breaks off at. -/
theorem tiles_iff {state : σ} (start : kept state) (input : List α) :
    (∃ frames next, Tiles turn state input frames next) ↔ ∀ rest ∈ positions width 0 input, ¬ fails rest :=
  ⟨fun ⟨_, _, tiles⟩ => tiles.passes measured start, tiles_of_passes measured start input⟩

end Widths

end ApexEdge.Library.Framing
