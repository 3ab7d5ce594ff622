import Mathlib.Data.List.Basic

/-! Replacing every occurrence of a pattern in a text, from left to right; occurrences do not
overlap, and what is put in is not looked at again. -/

namespace ApexEdge.Library.Replacing
variable {α : Type} [DecidableEq α] {pattern value text rest : List α} {item : α}

/-- `skip` items still belong to the occurrence that was replaced last. -/
def replaceFrom (pattern value : List α) : Nat → List α → List α
  | _, [] => []
  | skip + 1, _ :: rest => replaceFrom pattern value skip rest
  | 0, item :: rest =>
    if pattern <+: item :: rest then value ++ replaceFrom pattern value (pattern.length - 1) rest
    else item :: replaceFrom pattern value 0 rest

def replaceAll (pattern value text : List α) : List α := replaceFrom pattern value 0 text

/-- What stands before and behind the first occurrence of a pattern. -/
def cut (pattern : List α) : List α → Option (List α × List α)
  | [] => none
  | item :: rest =>
    if pattern <+: item :: rest then some ([], (item :: rest).drop pattern.length)
    else (cut pattern rest).map fun (before, after) => (item :: before, after)

/-- How many occurrences begin in a text, overlapping or not. -/
def occurrences (pattern : List α) : List α → Nat
  | [] => 0
  | item :: rest => (if pattern <+: item :: rest then 1 else 0) + occurrences pattern rest

/-- No occurrence begins in the first text when the second follows it. -/
def Free (pattern : List α) : List α → List α → Prop
  | [], _ => True
  | item :: before, after => ¬ pattern <+: item :: (before ++ after) ∧ Free pattern before after

instance decidableFree (pattern : List α) : (before after : List α) → Decidable (Free pattern before after)
  | [], _ => isTrue trivial
  | _ :: before, after =>
    have := decidableFree pattern before after
    inferInstanceAs (Decidable (_ ∧ _))

@[simp] theorem replaceAll_nil : replaceAll pattern value [] = [] := rfl

theorem replaceFrom_skips (before rest : List α) :
    replaceFrom pattern value before.length (before ++ rest) = replaceAll pattern value rest := by
  induction before with
  | nil => rfl
  | cons item before ih => exact ih

/-- An occurrence at the front is replaced. -/
theorem replaceAll_occurrence (some : pattern ≠ []) (value rest : List α) :
    replaceAll pattern value (pattern ++ rest) = value ++ replaceAll pattern value rest := by
  obtain ⟨item, tail, rfl⟩ := List.exists_cons_of_ne_nil some
  have here : item :: tail <+: item :: (tail ++ rest) := List.prefix_append ..
  rw [replaceAll, List.cons_append, replaceFrom, if_pos here]
  exact congrArg _ (replaceFrom_skips tail rest)

/-- What is not the start of an occurrence stays. -/
theorem replaceAll_other (value : List α) (other : ¬pattern <+: item :: rest) :
    replaceAll pattern value (item :: rest) = item :: replaceAll pattern value rest := by
  rw [replaceAll, replaceFrom, if_neg other]
  rfl

/-- One item is replaced wherever it stands. -/
theorem replaceAll_singleton (item : α) (value text : List α) :
    replaceAll [item] value text = text.flatMap fun other => if other = item then value else [other] := by
  induction text with
  | nil => rfl
  | cons first text ih =>
    rw [List.flatMap_cons, ← ih]
    by_cases same : first = item
    · rw [if_pos same, same]
      exact replaceAll_occurrence (List.cons_ne_nil item []) value text
    · rw [if_neg same, replaceAll_other value fun here => same (List.cons_prefix_cons.mp here).1.symm]
      rfl

theorem cut_some {before after : List α} (found : cut pattern text = some (before, after)) :
    text = before ++ (pattern ++ after) := by
  induction text generalizing before with
  | nil => cases found
  | cons item text ih =>
    rw [cut] at found
    split at found
    next here =>
      cases found
      exact (List.prefix_iff_eq_append.mp here).symm
    next =>
      obtain ⟨⟨first, last⟩, later, same⟩ := Option.map_eq_some_iff.mp found
      cases same
      exact congrArg _ (ih later)

/-- Texts put together hold at least the occurrences of each. -/
theorem occurrences_append_le (pattern before after : List α) :
    occurrences pattern before + occurrences pattern after ≤ occurrences pattern (before ++ after) := by
  induction before with
  | nil => simp [occurrences]
  | cons item before ih =>
    rw [List.cons_append, occurrences, occurrences]
    have kept : (if pattern <+: item :: before then 1 else 0) ≤
        if pattern <+: item :: (before ++ after) then 1 else 0 := by
      split
      next here =>
        have whole : pattern <+: item :: (before ++ after) := here.trans (List.prefix_append (item :: before) after)
        exact Nat.le_of_eq (if_pos whole).symm
      next => exact Nat.zero_le _
    omega

theorem occurrences_self (some : pattern ≠ []) : 0 < occurrences pattern pattern := by
  obtain ⟨item, tail, rfl⟩ := List.exists_cons_of_ne_nil some
  rw [occurrences, if_pos (List.prefix_refl _)]
  omega

/-- What no occurrence begins in is passed over. -/
theorem replaceAll_free {before after : List α} (free : Free pattern before after) :
    replaceAll pattern value (before ++ after) = before ++ replaceAll pattern value after := by
  induction before with
  | nil => rfl
  | cons item before ih => rw [List.cons_append, replaceAll_other value free.1, ih free.2, List.cons_append]

theorem cut_free {before after : List α} (free : Free pattern before after) :
    cut pattern (before ++ after) = (cut pattern after).map fun (first, last) => (before ++ first, last) := by
  induction before with
  | nil => exact Option.map_id'.symm
  | cons item before ih => rw [List.cons_append, cut, if_neg free.1, ih free.2, Option.map_map]; rfl

omit [DecidableEq α] in
/-- An occurrence begins with an item of the pattern. -/
theorem free_of_strange {before : List α} (some : pattern ≠ []) (strange : ∀ item ∈ before, item ∉ pattern)
    (after : List α) : Free pattern before after := by
  induction before with
  | nil => trivial
  | cons item before ih =>
    obtain ⟨first, others⟩ := List.forall_mem_cons.mp strange
    refine ⟨fun here => first ?_, ih others⟩
    obtain ⟨start, tail, rfl⟩ := List.exists_cons_of_ne_nil some
    exact (List.cons_prefix_cons.mp here).1 ▸ List.mem_cons_self

omit [DecidableEq α] in
theorem prefix_within {first after : List α} (strange : item ∉ pattern) (here : pattern <+: first ++ item :: after) :
    pattern <+: first := by
  rw [List.append_cons] at here
  rcases List.prefix_or_prefix_of_prefix here (List.prefix_append (first ++ [item]) after) with inside | outside
  · refine (List.prefix_concat_iff.mp inside).resolve_left fun whole => strange ?_
    rw [whole]
    exact List.mem_append_right _ List.mem_cons_self
  · exact absurd (outside.subset (List.mem_append_right _ List.mem_cons_self)) strange

/-- Nothing reaches over an item that the pattern does not have. -/
theorem replaceAll_over (some : pattern ≠ []) (strange : item ∉ pattern) (value before after : List α) :
    replaceAll pattern value (before ++ item :: after) =
      replaceAll pattern value before ++ item :: replaceAll pattern value after := by
  have alone : ¬ pattern <+: item :: after := fun here => some (List.prefix_nil.mp (prefix_within strange here))
  cases before with
  | nil => exact replaceAll_other value alone
  | cons first before =>
    by_cases here : pattern <+: first :: before
    · obtain ⟨rest, split⟩ := here
      have shorter : rest.length ≤ before.length := by
        have length := congrArg List.length split
        have := List.length_pos_iff.mpr some
        rw [List.length_append, List.length_cons] at length
        omega
      rw [← split, List.append_assoc, replaceAll_occurrence some, replaceAll_occurrence some,
        replaceAll_over some strange value rest after, List.append_assoc]
    · have kept : ¬ pattern <+: first :: (before ++ item :: after) := fun found =>
        here (@prefix_within α pattern item (first :: before) after strange found)
      rw [List.cons_append, replaceAll_other value kept, replaceAll_other value here,
        replaceAll_over some strange value before after, List.cons_append]
termination_by before.length

end ApexEdge.Library.Replacing
