import ApexEdge.Library.Replacing

/-! Several patterns replaced in one pass over a text, and one pass after the other. A marked
text tells its own items from what was put into it. -/

namespace ApexEdge.Library.Substitution
open Replacing

/-- A pattern and what is put in its place. -/
abbrev Rule (α : Type) := List α × List α

section Passes
variable {α : Type} [DecidableEq α] {rules : List (Rule α)} {rule : Rule α} {text rest : List α} {item : α}

/-- The first rule whose pattern stands at the front. -/
def ruleAt (rules : List (Rule α)) (text : List α) : Option (Rule α) :=
  rules.find? fun rule => decide (rule.1 <+: text)

/-- `skip` items still belong to the occurrence that was replaced last. -/
def replaceEachFrom (rules : List (Rule α)) : Nat → List α → List α
  | _, [] => []
  | skip + 1, _ :: rest => replaceEachFrom rules skip rest
  | 0, item :: rest =>
    match ruleAt rules (item :: rest) with
    | some rule => rule.2 ++ replaceEachFrom rules (rule.1.length - 1) rest
    | none => item :: replaceEachFrom rules 0 rest

/-- From left to right, at each place the first pattern that is there. -/
def replaceEach (rules : List (Rule α)) (text : List α) : List α := replaceEachFrom rules 0 text

/-- Pass after pass over the text as it then is. -/
def replaceInTurn (rules : List (Rule α)) (text : List α) : List α :=
  rules.foldl (fun text rule => replaceAll rule.1 rule.2 text) text

/-- No occurrence of the other pattern begins within one of the first. -/
def Clear (pattern other : List α) : Prop :=
  ∀ first last, pattern = first ++ last → last ≠ [] → ∀ rest, ¬ other <+: last ++ rest

theorem ruleAt_some (found : ruleAt rules text = some rule) : rule ∈ rules ∧ rule.1 <+: text :=
  ⟨List.mem_of_find?_eq_some found, by simpa using List.find?_some found⟩

theorem ruleAt_none : ruleAt rules text = none ↔ ∀ rule ∈ rules, ¬ rule.1 <+: text := by
  simp only [ruleAt, List.find?_eq_none, decide_eq_true_eq]

theorem replaceEachFrom_skips (before rest : List α) :
    replaceEachFrom rules before.length (before ++ rest) = replaceEach rules rest := by
  induction before with
  | nil => rfl
  | cons item before ih => exact ih

theorem replaceEach_rule (found : ruleAt rules (rule.1 ++ rest) = some rule) (nonempty : rule.1 ≠ []) :
    replaceEach rules (rule.1 ++ rest) = rule.2 ++ replaceEach rules rest := by
  obtain ⟨pattern, value⟩ := rule
  obtain ⟨item, tail, rfl⟩ := List.exists_cons_of_ne_nil nonempty
  rw [List.cons_append] at found
  rw [replaceEach, List.cons_append, replaceEachFrom, found]
  exact congrArg _ (replaceEachFrom_skips tail rest)

theorem replaceEach_other (other : ruleAt rules (item :: rest) = none) :
    replaceEach rules (item :: rest) = item :: replaceEach rules rest := by
  rw [replaceEach, replaceEachFrom, other]
  rfl

@[simp] theorem replaceEach_nil : replaceEach rules [] = [] := rfl

theorem replaceEach_none (text : List α) : replaceEach [] text = text := by
  induction text with
  | nil => rfl
  | cons item text ih => rw [replaceEach_other rfl, ih]

/-- Where no pattern begins the text stays. -/
theorem replaceEach_clear {before : List α}
    (clear : ∀ first last, before = first ++ last → last ≠ [] → ruleAt rules (last ++ rest) = none) :
    replaceEach rules (before ++ rest) = before ++ replaceEach rules rest := by
  induction before with
  | nil => rfl
  | cons item before ih =>
    have here := clear [] (item :: before) rfl (List.cons_ne_nil _ _)
    rw [List.cons_append] at here ⊢
    rw [replaceEach_other here, List.cons_append]
    exact congrArg _ (ih fun first last split => clear (item :: first) last (congrArg _ split))

/-- What is put in is there to be seen, and the pattern has none of it. -/
def Strange (rules : List (Rule α)) (pattern : List α) : Prop :=
  ∀ rule ∈ rules, rule.1 ≠ [] ∧ rule.2 ≠ [] ∧ ∀ item ∈ rule.2, item ∉ pattern

/-- A stretch that nothing put in is part of was there before. -/
theorem prefix_of_replaceEach {pattern stretch : List α} (strange : Strange rules pattern)
    (part : ∀ item ∈ stretch, item ∈ pattern) (here : stretch <+: replaceEach rules text) : stretch <+: text := by
  induction stretch generalizing text with
  | nil => exact List.nil_prefix
  | cons item stretch ih =>
    cases text with
    | nil => exact here
    | cons first text =>
      cases found : ruleAt rules (first :: text) with
      | some rule =>
        obtain ⟨known, occurs⟩ := ruleAt_some found
        obtain ⟨pattern_some, value_some, foreign⟩ := strange rule known
        obtain ⟨rest, split⟩ := occurs
        rw [← split] at found here
        rw [replaceEach_rule found pattern_some] at here
        obtain ⟨put, others, shape⟩ := List.exists_cons_of_ne_nil value_some
        rw [shape, List.cons_append] at here
        have same := (List.cons_prefix_cons.mp here).1
        have inside : put ∈ rule.2 := shape ▸ List.mem_cons_self
        exact absurd (part item List.mem_cons_self) (same ▸ foreign put inside)
      | none =>
        rw [replaceEach_other found] at here
        obtain ⟨same, later⟩ := List.cons_prefix_cons.mp here
        have others := ih (fun item member => part item (List.mem_cons_of_mem _ member)) later
        exact List.cons_prefix_cons.mpr ⟨same, others⟩

omit [DecidableEq α] in
theorem rest_shorter {pattern : List α} (nonempty : pattern ≠ []) (split : pattern ++ rest = item :: text) :
    rest.length ≤ text.length := by
  have length := congrArg List.length split
  have := List.length_pos_iff.mpr nonempty
  rw [List.length_append, List.length_cons] at length
  omega

/-- A pass after a pass is one pass, when the later pattern is one of the earlier ones or none
of them begins within it. -/
theorem replaceAll_replaceEach (strange : Strange rules rule.1) (nonempty : rule.1 ≠ [])
    (apart : ∀ earlier ∈ rules, earlier.1 = rule.1 ∨ Clear rule.1 earlier.1) (text : List α) :
    replaceAll rule.1 rule.2 (replaceEach rules text) = replaceEach (rules ++ [rule]) text := by
  cases text with
  | nil => rfl
  | cons item text =>
    cases found : ruleAt rules (item :: text) with
    | some earlier =>
      obtain ⟨known, rest, split⟩ := ruleAt_some found
      obtain ⟨pattern_some, -, foreign⟩ := strange earlier known
      have first : ruleAt (rules ++ [rule]) (earlier.1 ++ rest) = some earlier := by
        rw [split, ruleAt, List.find?_append]
        exact (congrArg (Option.or · _) found)
      have shorter := rest_shorter pattern_some split
      rw [← split] at found ⊢
      rw [replaceEach_rule found pattern_some, replaceEach_rule first pattern_some,
        replaceAll_free (free_of_strange nonempty foreign _), replaceAll_replaceEach strange nonempty apart rest]
    | none =>
      have absent := ruleAt_none.mp found
      by_cases here : rule.1 <+: item :: text
      · have last : ruleAt (rules ++ [rule]) (item :: text) = some rule := by
          rw [ruleAt, List.find?_append]
          change (ruleAt rules (item :: text)).or _ = some rule
          rw [found, Option.none_or, List.find?_singleton, if_pos (decide_eq_true here)]
        have clear : ∀ earlier ∈ rules, Clear rule.1 earlier.1 := fun earlier known =>
          (apart earlier known).resolve_left fun same => absent earlier known (same ▸ here)
        obtain ⟨rest, split⟩ := here
        have shorter := rest_shorter nonempty split
        rw [← split] at last ⊢
        rw [replaceEach_rule last nonempty, replaceEach_clear fun first last split filled => ruleAt_none.mpr
          fun earlier known => clear earlier known first last split filled rest,
          replaceAll_occurrence nonempty, replaceAll_replaceEach strange nonempty apart rest]
      · have nowhere : ruleAt (rules ++ [rule]) (item :: text) = none := by
          rw [ruleAt_none, List.forall_mem_append]
          exact ⟨absent, List.forall_mem_singleton.mpr here⟩
        have kept : ¬ rule.1 <+: item :: replaceEach rules text := by
          rw [← replaceEach_other found]
          exact fun put => here (prefix_of_replaceEach strange (fun _ member => member) put)
        rw [replaceEach_other found, replaceEach_other nowhere, replaceAll_other _ kept,
          replaceAll_replaceEach strange nonempty apart text]
termination_by text.length

/-- The passes over a text do not get in each other's way. -/
structure InTurn (rules : List (Rule α)) : Prop where
  strange : ∀ rule ∈ rules, Strange rules rule.1
  apart : rules.Pairwise fun earlier later => earlier.1 = later.1 ∨ Clear later.1 earlier.1

theorem replaceInTurn_replaceEach {earlier later : List (Rule α)} (fit : InTurn (earlier ++ later)) (text : List α) :
    replaceInTurn later (replaceEach earlier text) = replaceEach (earlier ++ later) text := by
  induction later generalizing earlier with
  | nil => rw [List.append_nil]; rfl
  | cons rule later ih =>
    have known : rule ∈ earlier ++ rule :: later := List.mem_append_right _ List.mem_cons_self
    have strange : Strange earlier rule.1 := fun other member =>
      fit.strange rule known other (List.mem_append_left _ member)
    have nonempty := (fit.strange rule known rule known).1
    have apart := fun other member => (List.pairwise_append.mp fit.apart).2.2 other member rule List.mem_cons_self
    rw [List.append_cons] at fit ⊢
    rw [← ih fit, ← replaceAll_replaceEach strange nonempty apart]
    rfl

/-- One pass after the other comes to one pass over the text. -/
theorem replaceInTurn_eq (fit : InTurn rules) (text : List α) : replaceInTurn rules text = replaceEach rules text := by
  have turns := @replaceInTurn_replaceEach α _ [] rules fit text
  rwa [replaceEach_none] at turns

end Passes

/-! ### Marked texts -/

/-- The text's own items, and values put in between. -/
abbrev Marked (α : Type) := List (α ⊕ List α)

section Marks
variable {α : Type} [DecidableEq α] {pattern : List α} {rules : List (Rule α)}

def own (text : List α) : Marked α := text.map Sum.inl

/-- The text without its marks. -/
def flat (marked : Marked α) : List α := marked.flatMap (Sum.elim (fun item => [item]) id)

/-- A rule for the text's own items. -/
def mark (rule : Rule α) : Rule (α ⊕ List α) := (own rule.1, [.inr rule.2])

/-- Every occurrence of the pattern is the text's own from end to end. -/
def Own (pattern : List α) : Marked α → Prop
  | [] => True
  | .inl item :: marked =>
    (pattern <+: item :: flat marked → own pattern <+: .inl item :: marked) ∧ Own pattern marked
  | .inr value :: marked => Free pattern value (flat marked) ∧ Own pattern marked

instance decidableOwn (pattern : List α) : (marked : Marked α) → Decidable (Own pattern marked)
  | [] => isTrue trivial
  | .inl _ :: marked =>
    have := decidableOwn pattern marked
    inferInstanceAs (Decidable (_ ∧ _))
  | .inr _ :: marked =>
    have := decidableOwn pattern marked
    inferInstanceAs (Decidable (_ ∧ _))

omit [DecidableEq α] in
@[simp] theorem flat_append (first last : Marked α) : flat (first ++ last) = flat first ++ flat last :=
  List.flatMap_append

omit [DecidableEq α] in
@[simp] theorem flat_own (text : List α) : flat (own text) = text := by
  rw [flat, own, List.flatMap_map]
  exact List.flatMap_singleton' text

omit [DecidableEq α] in
theorem flat_prefix {first last : Marked α} (here : first <+: last) : flat first <+: flat last := by
  obtain ⟨rest, rfl⟩ := here
  rw [flat_append]
  exact List.prefix_append ..

omit [DecidableEq α] in
theorem own_ne_nil (nonempty : pattern ≠ []) : own pattern ≠ [] := mt List.map_eq_nil_iff.mp nonempty

omit [DecidableEq α] in
theorem own_rest {first last : Marked α} (held : Own pattern (first ++ last)) : Own pattern last := by
  induction first with
  | nil => exact held
  | cons mark first ih => cases mark with
    | inl item => exact ih held.2
    | inr value => exact ih held.2

omit [DecidableEq α] in
/-- What was put in begins no occurrence. -/
theorem own_not_begun (nonempty : pattern ≠ []) (value : List α) (marked : Marked α) :
    ¬ own pattern <+: .inr value :: marked := by
  obtain ⟨item, tail, rfl⟩ := List.exists_cons_of_ne_nil nonempty
  exact fun here => nomatch (List.cons_prefix_cons.mp here).1

/-- A pass that finds the text's own occurrences only does not see what was put in. -/
theorem flat_replaceAll {marked : Marked α} (nonempty : pattern ≠ []) (value : List α) (held : Own pattern marked) :
    flat (replaceAll (own pattern) [.inr value] marked) = replaceAll pattern value (flat marked) := by
  cases marked with
  | nil => rfl
  | cons first marked =>
    cases first with
    | inl item =>
      by_cases here : pattern <+: item :: flat marked
      · obtain ⟨rest, split⟩ := held.1 here
        have shorter : rest.length < (.inl item :: marked : Marked α).length :=
          Nat.lt_succ_of_le (rest_shorter (own_ne_nil nonempty) split)
        rw [← split] at held ⊢
        rw [replaceAll_occurrence (own_ne_nil nonempty), flat_append, flat_append, flat_own,
          replaceAll_occurrence nonempty, flat_replaceAll nonempty value (own_rest held)]
        exact congrArg (· ++ _) (List.append_nil value)
      · have kept : ¬ own pattern <+: .inl item :: marked := fun found => by
          have plain := flat_prefix found
          rw [flat_own] at plain
          exact here plain
        have whole : flat (.inl item :: marked) = item :: flat marked := rfl
        rw [replaceAll_other _ kept, whole, replaceAll_other value here, ← flat_replaceAll nonempty value held.2]
        rfl
    | inr put =>
      have whole : flat (.inr put :: marked) = put ++ flat marked := rfl
      rw [replaceAll_other _ (own_not_begun nonempty put marked), whole, replaceAll_free held.1,
        ← flat_replaceAll nonempty value held.2]
      rfl
termination_by marked.length

theorem ruleAt_mark (rules : List (Rule α)) (text : List α) :
    ruleAt (rules.map mark) (own text) = (ruleAt rules text).map mark := by
  rw [ruleAt, List.find?_map, ruleAt]
  congr 2
  funext rule
  refine decide_eq_decide.mpr ⟨fun here => ?_, fun here => List.IsPrefix.map Sum.inl here⟩
  have plain := flat_prefix here
  rwa [mark, flat_own, flat_own] at plain

/-- Replaced in one pass, with marks or without. -/
theorem flat_replaceEach (filled : ∀ rule ∈ rules, rule.1 ≠ []) (text : List α) :
    flat (replaceEach (rules.map mark) (own text)) = replaceEach rules text := by
  cases text with
  | nil => rfl
  | cons item text =>
    have marks := ruleAt_mark rules (item :: text)
    cases found : ruleAt rules (item :: text) with
    | some rule =>
      obtain ⟨known, rest, split⟩ := ruleAt_some found
      have shorter := rest_shorter (filled rule known) split
      rw [found, Option.map_some] at marks
      rw [← split] at found marks ⊢
      have shape : own (rule.1 ++ rest) = (mark rule).1 ++ own rest := List.map_append
      rw [shape] at marks ⊢
      rw [replaceEach_rule found (filled rule known), replaceEach_rule marks (own_ne_nil (filled rule known)),
        flat_append, flat_replaceEach filled rest]
      exact congrArg (· ++ _) (List.append_nil rule.2)
    | none =>
      rw [found, Option.map_none] at marks
      have shape : own (item :: text) = .inl item :: own text := rfl
      rw [shape] at marks ⊢
      rw [replaceEach_other found, replaceEach_other marks, ← flat_replaceEach filled text]
      rfl
termination_by text.length

omit [DecidableEq α] in
theorem clear_own {other : List α} (clear : Clear pattern other) : Clear (own pattern) (own other) := by
  intro first last split filled rest here
  obtain ⟨start, tail, whole, rfl, rfl⟩ := List.map_eq_append_iff.mp split
  have plain := flat_prefix here
  rw [flat_append, flat_own] at plain
  refine clear start tail whole (fun none => filled (congrArg (List.map _) none)) (flat rest) ?_
  rwa [← flat_own tail]

omit [DecidableEq α] in
/-- With marks no pass sees what another has put in. -/
theorem inTurn_mark (filled : ∀ rule ∈ rules, rule.1 ≠ [])
    (apart : rules.Pairwise fun earlier later => earlier.1 = later.1 ∨ Clear later.1 earlier.1) :
    InTurn (rules.map mark) where
  strange rule member other known := by
    obtain ⟨plain, _, rfl⟩ := List.mem_map.mp member
    obtain ⟨earlier, present, rfl⟩ := List.mem_map.mp known
    refine ⟨own_ne_nil (filled earlier present), List.cons_ne_nil _ _, fun item put inside => ?_⟩
    obtain rfl := List.mem_singleton.mp put
    obtain ⟨_, _, same⟩ := List.mem_map.mp inside
    cases same
  apart := by
    rw [List.pairwise_map]
    exact apart.imp fun either => either.imp (congrArg own) clear_own

end Marks
end ApexEdge.Library.Substitution
