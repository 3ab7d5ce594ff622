import Mathlib.Data.List.Basic
import Mathlib.Data.List.TakeWhile

/-! The words of a text, which are its stretches without a blank, and how blanks between
texts keep their words apart. -/

namespace ApexEdge.Library.Words
variable {α : Type} {blank : α → Bool} {text other word : List α} {item : α}

def words (blank : α → Bool) (text : List α) : List (List α) :=
  (text.splitOnP blank).filter fun stretch => !stretch.isEmpty

@[simp] theorem words_nil : words blank [] = [] := by
  rw [words, List.splitOnP_nil]
  rfl

/-- A blank parts the words before it from those after it. -/
theorem words_append_blank (parts : blank item = true) (text other : List α) :
    words blank (text ++ item :: other) = words blank text ++ words blank other := by
  unfold words
  rw [List.splitOnP_append_cons text other parts, List.filter_append]

theorem words_blank_cons (parts : blank item = true) (text : List α) : words blank (item :: text) = words blank text := by
  have apart := words_append_blank parts [] text
  rwa [words_nil] at apart

theorem words_blanks (blanks : ∀ item ∈ text, blank item = true) : words blank text = [] := by
  induction text with
  | nil => exact words_nil
  | cons item text ih =>
    rw [words_blank_cons (blanks item List.mem_cons_self)]
    exact ih fun other member => blanks other (List.mem_cons_of_mem _ member)

theorem words_append_blanks (blanks : ∀ item ∈ other, blank item = true) (text : List α) :
    words blank (text ++ other) = words blank text := by
  cases other with
  | nil => rw [List.append_nil]
  | cons item other =>
    obtain ⟨here, others⟩ := List.forall_mem_cons.mp blanks
    rw [words_append_blank here, words_blanks others, List.append_nil]

theorem words_dropWhile (blank : α → Bool) (text : List α) : words blank (text.dropWhile blank) = words blank text := by
  induction text with
  | nil => rfl
  | cons item text ih =>
    by_cases parts : blank item = true
    · rw [List.dropWhile_cons_of_pos parts, ih, words_blank_cons parts]
    · rw [List.dropWhile_cons_of_neg parts]

/-- Blanks on either end belong to no word. -/
theorem words_trim (blank : α → Bool) (text : List α) :
    words blank ((text.dropWhile blank).reverse.dropWhile blank).reverse = words blank text := by
  have whole := List.takeWhile_append_dropWhile (p := blank) (l := (text.dropWhile blank).reverse)
  have blanks : ∀ item ∈ ((text.dropWhile blank).reverse.takeWhile blank).reverse, blank item = true :=
    fun item member => List.mem_takeWhile_imp (List.mem_reverse.mp member)
  rw [← words_append_blanks blanks, ← List.reverse_append, whole, List.reverse_reverse, words_dropWhile]

/-- A stretch without a blank is one word. -/
theorem words_visible (some : word ≠ []) (visible : ∀ item ∈ word, blank item = false) : words blank word = [word] := by
  rw [words, List.splitOnP_eq_singleton visible]
  exact List.filter_cons_of_pos (by simpa using some)

/-- A text is a stretch without a blank, or such a stretch, a blank, and another text. -/
theorem text_induction {motive : List α → Prop} (blank : α → Bool)
    (last : ∀ stretch, (∀ item ∈ stretch, blank item = false) → motive stretch)
    (next : ∀ stretch item rest, (∀ item ∈ stretch, blank item = false) → blank item = true → motive rest →
      motive (stretch ++ item :: rest)) (text : List α) : motive text := by
  suffices reached : ∀ stretch, (∀ item ∈ stretch, blank item = false) → motive (stretch ++ text) from
    reached [] fun _ impossible => (nomatch impossible)
  induction text with
  | nil =>
    intro stretch visible
    rw [List.append_nil]
    exact last stretch visible
  | cons item text ih =>
    intro stretch visible
    cases parts : blank item with
    | true => exact next stretch item text visible parts (ih [] fun _ impossible => (nomatch impossible))
    | false =>
      rw [List.append_cons]
      refine ih _ fun other member => ?_
      rcases List.mem_append.mp member with before | here
      · exact visible other before
      · exact List.mem_singleton.mp here ▸ parts

theorem words_stretch (visible : ∀ item ∈ text, blank item = false) :
    words blank text = [] ∧ text = [] ∨ words blank text = [text] ∧ text ≠ [] := by
  by_cases none : text = []
  · exact .inl ⟨none ▸ words_nil, none⟩
  · exact .inr ⟨words_visible none visible, none⟩

/-- A word is not empty and has no blank. -/
theorem mem_words (member : word ∈ words blank text) : word ≠ [] ∧ ∀ item ∈ word, blank item = false := by
  have first : ∀ {stretch : List α}, (∀ item ∈ stretch, blank item = false) → word ∈ words blank stretch →
      word ≠ [] ∧ ∀ item ∈ word, blank item = false := by
    intro stretch visible inside
    obtain ⟨none, _⟩ | ⟨one, some⟩ := words_stretch visible
    · rw [none] at inside
      cases inside
    · rw [one, List.mem_singleton] at inside
      exact inside ▸ ⟨some, visible⟩
  induction text using text_induction blank with
  | last stretch visible => exact first visible member
  | next stretch item rest visible parts ih =>
    rw [words_append_blank parts] at member
    exact (List.mem_append.mp member).elim (first visible) ih

/-- All the words together are the text without its blanks. -/
theorem words_flatten (blank : α → Bool) (text : List α) : (words blank text).flatten = text.filter (!blank ·) := by
  have first : ∀ {stretch : List α}, (∀ item ∈ stretch, blank item = false) →
      (words blank stretch).flatten = stretch.filter (!blank ·) := by
    intro stretch visible
    rw [List.filter_eq_self.mpr fun item member => by rw [visible item member]; rfl]
    obtain ⟨none, empty⟩ | ⟨one, _⟩ := words_stretch visible
    · rw [none, empty, List.flatten_nil]
    · rw [one, List.flatten_singleton]
  induction text using text_induction blank with
  | last stretch visible => exact first visible
  | next stretch item rest visible parts ih =>
    rw [words_append_blank parts, List.flatten_append, first visible, ih, List.filter_append,
      List.filter_cons_of_neg (by rw [parts]; exact Bool.false_ne_true)]

end ApexEdge.Library.Words

/-! The text of a document with tags and character references, under rules that say what
opens a tag, which tags end a line, and which characters have names. -/

namespace ApexEdge.Library.HtmlText

/-- The characters that are written as "&" and a name. -/
abbrev Names := List (List Char × Char)

/-- The first of the names that stands here. -/
def matching (names : Names) (behind : List Char) : Option (List Char × Char) :=
  names.find? fun entry => decide (entry.1 <+: behind)

/-- References are read from left to right; `skip` characters belong to the last one. -/
def decodeFrom (names : Names) : Nat → List Char → List Char
  | _, [] => []
  | skip + 1, _ :: rest => decodeFrom names skip rest
  | 0, c :: rest =>
    if c = '&' then
      match matching names rest with
      | some (name, value) => value :: decodeFrom names name.length rest
      | none => c :: decodeFrom names 0 rest
    else c :: decodeFrom names 0 rest

def decode (names : Names) (text : List Char) : List Char := decodeFrom names 0 text

structure Rules where
  /-- Whether a "<" opens a tag, by what stands behind it. -/
  opens : List Char → Bool
  /-- Whether a tag ends the line, by what stands in it. -/
  endsLine : List Char → Bool
  names : Names

/-- The text behind what has been read: the tag that is open, if one is, whether the line has
just ended, and how much of a reference is left. A tag that is never closed has no text. -/
def Rules.read (rules : Rules) : Option (List Char) → Bool → Nat → List Char → List Char
  | _, _, _, [] => []
  | some raw, ended, _, c :: rest =>
    if c = '>' then
      if rules.endsLine raw ∧ ended = false then '\n' :: rules.read none true 0 rest
      else rules.read none ended 0 rest
    else rules.read (some (raw ++ [c])) ended 0 rest
  | none, ended, skip + 1, _ :: rest => rules.read none ended skip rest
  | none, ended, 0, c :: rest =>
    if c = '<' ∧ rules.opens rest then rules.read (some []) ended 0 rest
    else if c = '&' then
      match matching rules.names rest with
      | some (name, value) => value :: rules.read none false name.length rest
      | none => c :: rules.read none false 0 rest
    else c :: rules.read none (decide (c = '\n')) 0 rest

def Rules.text (rules : Rules) (html : List Char) : List Char := rules.read none false 0 html

section References
variable {names : Names} {name rest : List Char} {value c : Char}

theorem matching_some (found : matching names rest = some (name, value)) : (name, value) ∈ names ∧ name <+: rest :=
  ⟨List.mem_of_find?_eq_some found, by simpa using List.find?_some found⟩

theorem matching_none : matching names rest = none ↔ ∀ entry ∈ names, ¬entry.1 <+: rest := by
  simp [matching, List.find?_eq_none]

theorem decodeFrom_skips (names : Names) (before rest : List Char) :
    decodeFrom names before.length (before ++ rest) = decode names rest := by
  induction before with
  | nil => rfl
  | cons c before ih => exact ih

theorem decode_reference (found : matching names (name ++ rest) = some (name, value)) :
    decode names ('&' :: (name ++ rest)) = value :: decode names rest := by
  rw [decode, decodeFrom, if_pos rfl, found]
  exact congrArg _ (decodeFrom_skips names name rest)

theorem decode_other (other : c = '&' → matching names rest = none) : decode names (c :: rest) = c :: decode names rest := by
  rw [decode, decodeFrom]
  split
  · rename_i ampersand
    rw [other ampersand]
    rfl
  · rfl

/-- A text is empty, or starts with a reference or with a character of its own. -/
theorem reference_induction {motive : List Char → Prop} (names : Names) (nil : motive [])
    (reference : ∀ name value rest, matching names (name ++ rest) = some (name, value) → motive rest →
      motive ('&' :: (name ++ rest)))
    (other : ∀ c rest, (c = '&' → matching names rest = none) → motive rest → motive (c :: rest)) (text : List Char) :
    motive text := by
  suffices all : ∀ length, ∀ text : List Char, text.length ≤ length → motive text from all _ text (Nat.le_refl _)
  intro length
  induction length with
  | zero =>
    intro text short
    rw [List.length_eq_zero_iff.mp (Nat.le_zero.mp short)]
    exact nil
  | succ length ih =>
    intro text short
    cases text with
    | nil => exact nil
    | cons c rest =>
      have shorter : rest.length ≤ length := Nat.le_of_succ_le_succ short
      by_cases ampersand : c = '&'
      · cases found : matching names rest with
        | none => exact other c rest (fun _ => found) (ih rest shorter)
        | some entry =>
          obtain ⟨behind, rfl⟩ := (matching_some found).2
          rw [ampersand]
          refine reference entry.1 entry.2 behind found (ih behind (Nat.le_trans ?_ shorter))
          rw [List.length_append]
          exact Nat.le_add_left ..
      · exact other c rest (fun same => absurd same ampersand) (ih rest shorter)

end References

section Reading
variable {rules : Rules} {name rest raw : List Char} {value c : Char} {ended : Bool}

theorem read_skips (rules : Rules) (ended : Bool) (before rest : List Char) :
    rules.read none ended before.length (before ++ rest) = rules.read none ended 0 rest := by
  induction before with
  | nil => rfl
  | cons c before ih => exact ih

@[simp] theorem read_nil (tag : Option (List Char)) (skip : Nat) : rules.read tag ended skip [] = [] := by
  cases tag <;> rfl

theorem read_opens (opens : rules.opens rest = true) :
    rules.read none ended 0 ('<' :: rest) = rules.read (some []) ended 0 rest := by
  rw [Rules.read, if_pos ⟨rfl, opens⟩]

theorem read_reference (found : matching rules.names (name ++ rest) = some (name, value)) :
    rules.read none ended 0 ('&' :: (name ++ rest)) = value :: rules.read none false 0 rest := by
  rw [Rules.read, if_neg (fun opens => absurd opens.1 (by decide)), if_pos rfl, found]
  exact congrArg _ (read_skips rules false name rest)

theorem read_other (closed : c = '<' → rules.opens rest = false) (other : c = '&' → matching rules.names rest = none) :
    rules.read none ended 0 (c :: rest) = c :: rules.read none (decide (c = '\n')) 0 rest := by
  rw [Rules.read, if_neg (fun opens => absurd opens.2 (by rw [closed opens.1]; decide))]
  split
  · rename_i ampersand
    rw [other ampersand, ampersand]
    rfl
  · rfl

theorem read_closes (raw : List Char) (ended : Bool) (rest : List Char) :
    rules.read (some raw) ended 0 ('>' :: rest) =
      if rules.endsLine raw ∧ ended = false then '\n' :: rules.read none true 0 rest else rules.read none ended 0 rest := by
  rw [Rules.read, if_pos rfl]

theorem read_inside (inside : c ≠ '>') :
    rules.read (some raw) ended 0 (c :: rest) = rules.read (some (raw ++ [c])) ended 0 rest := by
  rw [Rules.read, if_neg inside]

theorem read_inside_append (inside : '>' ∉ name) (rest : List Char) :
    rules.read (some raw) ended 0 (name ++ rest) = rules.read (some (raw ++ name)) ended 0 rest := by
  induction name generalizing raw with
  | nil => rw [List.append_nil]; rfl
  | cons c name ih =>
    obtain ⟨here, others⟩ := not_or.mp (mt List.mem_cons.mpr inside)
    rw [List.cons_append, read_inside (Ne.symm here), ih others, List.append_assoc]
    rfl

end Reading

end ApexEdge.Library.HtmlText
