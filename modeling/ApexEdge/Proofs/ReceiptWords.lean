import ApexEdge.Printing.Pdf

/-! What the converter makes of the text of a receipt in HTML: it takes every "<" for a tag,
and reads references once more after those to "&" have been replaced. -/

namespace ApexEdge.Proofs.ReceiptWords
open Printing Library.HtmlText Library.Replacing Library.Words Sync

def nbsp : List Char := ['n', 'b', 's', 'p', ';']

def amp : List Char := ['a', 'm', 'p', ';']

def lt : List Char := ['l', 't', ';']

def gt : List Char := ['g', 't', ';']

def receiptNames : Names := [(nbsp, ' '), (amp, '&'), (lt, '<'), (gt, '>')]

/-- A tag starts with a letter, or a slash and the like. -/
def startsTag (behind : List Char) : Bool := behind.head?.any fun c => c.isAlpha || ['/', '!', '?'].contains c

def lineTag (raw : List Char) : Bool := tagName raw ∈ lineTags

/-- The rules of a receipt. Tags that do not end a line leave no trace in the text. -/
def receipt : Rules := ⟨startsTag, lineTag, receiptNames⟩

/-- The rules of the converter's first pass, to which every "<" is a tag. -/
def stripping : Rules := ⟨fun _ => true, lineTag, []⟩

/-- What its passes over references replace, taken together. -/
def passNames : Names := (amp ++ lt, '<') :: (amp ++ gt, '>') :: receiptNames

section Stripping

def endsLine (out : List Char) : Bool := decide (out.getLast? = some '\n')

theorem endsLine_append (out : List Char) (c : Char) : endsLine (out ++ [c]) = decide (c = '\n') := by
  rw [endsLine, List.getLast?_append, List.getLast?_singleton]
  simp

theorem newLine_eq (out : List Char) : newLine out = out ++ if endsLine out = false then ['\n'] else [] := by
  rw [newLine, endsLine]
  by_cases ended : out.getLast? = some '\n'
  · simp [ended]
  · simp [ended]

theorem step_closes (out raw : List Char) :
    Stripper.step ⟨out, true, raw⟩ '>' = ⟨if lineTag raw then newLine out else out, false, []⟩ := by
  simp [Stripper.step, lineTag]

theorem step_inside (out raw : List Char) {c : Char} (inside : c ≠ '>') :
    Stripper.step ⟨out, true, raw⟩ c = ⟨out, true, raw ++ [c]⟩ := by
  simp [Stripper.step, inside]

theorem step_outside (out : List Char) {c : Char} (outside : c ≠ '<') :
    Stripper.step ⟨out, false, []⟩ c = ⟨out ++ [c], false, []⟩ := by
  simp [Stripper.step, outside]

/-- The end of a tag may end the line. -/
theorem closes_read (out raw rest : List Char) :
    (if lineTag raw then newLine out else out) ++
      stripping.read none (endsLine (if lineTag raw then newLine out else out)) 0 rest =
      out ++ stripping.read (some raw) (endsLine out) 0 ('>' :: rest) := by
  have rule : stripping.endsLine raw = lineTag raw := by simp only [stripping]
  rw [read_closes, rule]
  cases ends : lineTag raw with
  | false => simp
  | true =>
    simp only [if_true, true_and]
    rw [newLine_eq]
    cases ended : endsLine out with
    | true => simp [ended]
    | false => simp [endsLine_append]

/-- The first pass writes what its rules read. -/
theorem strip_read (html out : List Char) : (∀ raw, (html.foldl Stripper.step ⟨out, true, raw⟩).out =
      out ++ stripping.read (some raw) (endsLine out) 0 html) ∧
    (html.foldl Stripper.step ⟨out, false, []⟩).out = out ++ stripping.read none (endsLine out) 0 html := by
  induction html generalizing out with
  | nil => exact ⟨fun raw => (List.append_nil out).symm, (List.append_nil out).symm⟩
  | cons c rest ih =>
    constructor
    · intro raw
      rw [List.foldl_cons]
      by_cases closes : c = '>'
      · rw [closes, step_closes, ← closes_read]
        exact (ih _).2
      · rw [step_inside _ _ closes, read_inside closes]
        exact (ih out).1 _
    · rw [List.foldl_cons]
      by_cases opens : c = '<'
      · rw [opens, read_opens rfl]
        exact (ih out).1 []
      · rw [step_outside _ opens, read_other (fun same => absurd same opens) fun _ => rfl, (ih _).2, endsLine_append,
          List.append_assoc]
        rfl

theorem stripTags_text (html : List Char) : stripTags html = stripping.text html := (strip_read html []).2

end Stripping

section Passes
variable {name word text rest : List Char} {value : Char}

/-- One pass. -/
def pass (name : List Char) (value : Char) (text : List Char) : List Char := replaceAll ('&' :: name) [value] text

theorem pass_reference (name : List Char) (value : Char) (rest : List Char) :
    pass name value ('&' :: (name ++ rest)) = value :: pass name value rest :=
  replaceAll_occurrence (List.cons_ne_nil '&' name) [value] rest

theorem pass_other {c : Char} (other : c = '&' → ¬name <+: rest) : pass name value (c :: rest) = c :: pass name value rest := by
  refine replaceAll_other [value] fun here => ?_
  obtain ⟨same, stands⟩ := List.cons_prefix_cons.mp here
  exact other same.symm stands

theorem pass_append (plain : '&' ∉ word) (rest : List Char) : pass name value (word ++ rest) = word ++ pass name value rest := by
  induction word with
  | nil => rfl
  | cons c word ih =>
    obtain ⟨here, others⟩ := not_or.mp (mt List.mem_cons.mpr plain)
    rw [List.cons_append, pass_other fun same => absurd same (Ne.symm here), ih others]
    rfl

/-- A pass brings no word about that was not there, unless what it puts in belongs to it. -/
theorem pass_stands (foreign : value ∉ word) (stands : word <+: pass name value text) : word <+: text := by
  induction word generalizing text with
  | nil => exact List.nil_prefix
  | cons c word ih =>
    obtain ⟨here, others⟩ := not_or.mp (mt List.mem_cons.mpr foreign)
    cases text with
    | nil => exact stands
    | cons d text =>
      by_cases reference : d = '&' ∧ name <+: text
      · obtain ⟨rfl, behind, rfl⟩ := reference
        rw [pass_reference] at stands
        exact absurd (List.cons_prefix_cons.mp stands).1 (Ne.symm here)
      · rw [pass_other fun same stands => reference ⟨same, stands⟩] at stands
        obtain ⟨same, behind⟩ := List.cons_prefix_cons.mp stands
        exact List.cons_prefix_cons.mpr ⟨same, ih others behind⟩

/-- All passes. -/
def passes (text : List Char) : List Char := pass gt '>' (pass lt '<' (pass amp '&' (pass nbsp ' ' text)))

theorem passes_char {c : Char} (plain : c ≠ '&') (rest : List Char) : passes (c :: rest) = c :: passes rest := by
  have other : ∀ name : List Char, ∀ rest, c = '&' → ¬name <+: rest := fun _ _ same => absurd same plain
  rw [passes, pass_other (other _ _), pass_other (other _ _), pass_other (other _ _), pass_other (other _ _)]
  rfl

/-- A pass leaves the references alone that start with another letter than its own. -/
theorem pass_past (different : name.head? ≠ word.head?) (named : name ≠ []) (long : word ≠ []) (plain : '&' ∉ word)
    (rest : List Char) : pass name value ('&' :: (word ++ rest)) = '&' :: (word ++ pass name value rest) := by
  rw [pass_other fun _ stands => ?_, pass_append plain]
  obtain ⟨c, name, rfl⟩ := List.exists_cons_of_ne_nil named
  obtain ⟨d, word, rfl⟩ := List.exists_cons_of_ne_nil long
  exact different (congrArg some (List.cons_prefix_cons.mp stands).1)

theorem passes_keeps (none : ∀ entry ∈ receiptNames, ¬entry.1 <+: rest) : passes ('&' :: rest) = '&' :: passes rest := by
  obtain ⟨noNbsp, noAmp, noLt, noGt, _⟩ : ¬nbsp <+: rest ∧ ¬amp <+: rest ∧ ¬lt <+: rest ∧ ¬gt <+: rest ∧ True := by
    simpa [receiptNames] using none
  rw [passes, pass_other fun _ => noNbsp, pass_other fun _ stands => noAmp (pass_stands (by decide) stands),
    pass_other fun _ stands => noLt (pass_stands (by decide) (pass_stands (by decide) stands)),
    pass_other fun _ stands => noGt (pass_stands (by decide) (pass_stands (by decide) (pass_stands (by decide) stands)))]
  rfl

theorem passes_nbsp (rest : List Char) : passes ('&' :: (nbsp ++ rest)) = ' ' :: passes rest := by
  have plain : ∀ name : List Char, ∀ rest, ' ' = '&' → ¬name <+: rest := fun _ _ same => absurd same (by decide)
  rw [passes, pass_reference, pass_other (plain _ _), pass_other (plain _ _), pass_other (plain _ _)]
  rfl

theorem passes_lt (rest : List Char) : passes ('&' :: (lt ++ rest)) = '<' :: passes rest := by
  rw [passes, pass_past (by decide) (by decide) (by decide) (by decide),
    pass_past (by decide) (by decide) (by decide) (by decide), pass_reference, pass_other fun same => absurd same (by decide)]
  rfl

theorem passes_gt (rest : List Char) : passes ('&' :: (gt ++ rest)) = '>' :: passes rest := by
  rw [passes, pass_past (by decide) (by decide) (by decide) (by decide),
    pass_past (by decide) (by decide) (by decide) (by decide),
    pass_past (by decide) (by decide) (by decide) (by decide), pass_reference]
  rfl

/-- The reference to "&" is replaced, and what comes behind it makes no other. -/
theorem passes_amp (noLt : ¬lt <+: rest) (noGt : ¬gt <+: rest) : passes ('&' :: (amp ++ rest)) = '&' :: passes rest := by
  rw [passes, pass_past (by decide) (by decide) (by decide) (by decide), pass_reference,
    pass_other fun _ stands => noLt (pass_stands (by decide) (pass_stands (by decide) stands)),
    pass_other fun _ stands => noGt (pass_stands (by decide) (pass_stands (by decide) (pass_stands (by decide) stands)))]
  rfl

/-- The "&" that is put in starts a reference with what comes behind it. -/
theorem passes_ampLt (rest : List Char) : passes ('&' :: (amp ++ lt ++ rest)) = '<' :: passes rest := by
  rw [passes, pass_past (by decide) (by decide) (by decide) (by decide), List.append_assoc, pass_reference,
    pass_append (by decide), pass_reference, pass_other fun same => absurd same (by decide)]
  rfl

theorem passes_ampGt (rest : List Char) : passes ('&' :: (amp ++ gt ++ rest)) = '>' :: passes rest := by
  rw [passes, pass_past (by decide) (by decide) (by decide) (by decide), List.append_assoc, pass_reference,
    pass_append (by decide), pass_past (by decide) (by decide) (by decide) (by decide), pass_reference]
  rfl

theorem matching_ampLt (rest : List Char) : matching passNames (amp ++ (lt ++ rest)) = some (amp ++ lt, '<') := by
  rw [← List.append_assoc]
  exact List.find?_cons_of_pos (decide_eq_true (List.prefix_append ..))

theorem matching_ampGt (rest : List Char) : matching passNames (amp ++ (gt ++ rest)) = some (amp ++ gt, '>') := by
  have other : ¬amp ++ lt <+: amp ++ (gt ++ rest) := by
    rw [List.prefix_append_right_inj]
    exact fun stands => absurd (List.cons_prefix_cons.mp stands).1 (by decide)
  rw [matching, passNames, List.find?_cons_of_neg (by simpa using other), ← List.append_assoc]
  exact List.find?_cons_of_pos (decide_eq_true (List.prefix_append ..))

/-- All passes together read the references to which the first ones may give rise. -/
theorem passes_decode (text : List Char) : passes text = decode passNames text := by
  induction text using reference_induction passNames with
  | nil => rfl
  | reference name value rest found ih =>
    rw [decode_reference found, ← ih]
    have member := (matching_some found).1
    simp only [passNames, receiptNames, List.mem_cons, List.not_mem_nil, or_false, Prod.mk.injEq] at member
    rcases member with ⟨rfl, rfl⟩ | ⟨rfl, rfl⟩ | ⟨rfl, rfl⟩ | ⟨rfl, rfl⟩ | ⟨rfl, rfl⟩ | ⟨rfl, rfl⟩
    · exact passes_ampLt rest
    · exact passes_ampGt rest
    · exact passes_nbsp rest
    · refine passes_amp (fun stands => ?_) fun stands => ?_
      · obtain ⟨behind, rfl⟩ := stands
        rw [matching_ampLt] at found
        cases found
      · obtain ⟨behind, rfl⟩ := stands
        rw [matching_ampGt] at found
        cases found
    · exact passes_lt rest
    · exact passes_gt rest
  | other c rest plain ih =>
    rw [decode_other plain, ← ih]
    by_cases ampersand : c = '&'
    · rw [ampersand]
      refine passes_keeps fun entry member => matching_none.mp (plain ampersand) entry ?_
      exact List.mem_cons_of_mem _ (List.mem_cons_of_mem _ member)
    · exact passes_char ampersand rest

theorem htmlToText_decode (html : List Char) : htmlToText html = decode passNames (stripping.text html) := by
  rw [← passes_decode, ← stripTags_text]
  rfl

/-- The reference that stands in a receipt is the one that is replaced, unless it is one to
"&" with the name of another character behind it. -/
theorem matching_pass (member : (name, value) ∈ receiptNames) (rest : List Char) :
    matching passNames (name ++ rest) = some (name, value) ∨ name = amp ∧ (lt <+: rest ∨ gt <+: rest) := by
  simp only [receiptNames, List.mem_cons, List.not_mem_nil, or_false, Prod.mk.injEq] at member
  rcases member with ⟨rfl, rfl⟩ | ⟨rfl, rfl⟩ | ⟨rfl, rfl⟩ | ⟨rfl, rfl⟩
  · simp [matching, passNames, receiptNames, nbsp, amp, lt, gt]
  · by_cases less : lt <+: rest
    · exact .inr ⟨rfl, .inl less⟩
    · by_cases greater : gt <+: rest
      · exact .inr ⟨rfl, .inr greater⟩
      · refine .inl ?_
        simp only [lt, gt] at less greater
        simp [matching, passNames, receiptNames, nbsp, amp, lt, gt, less, greater]
  · simp [matching, passNames, receiptNames, nbsp, amp, lt, gt]
  · simp [matching, passNames, receiptNames, nbsp, amp, lt, gt]

end Passes

section Weights
variable {name text rest : List Char} {value c : Char}

/-- How many visible characters there are. -/
def weight (text : List Char) : Nat := (text.filter (!isWhitespace ·)).length

theorem weight_cons (c : Char) (text : List Char) : weight (c :: text) = weight [c] + weight text := by
  unfold weight
  rw [← List.singleton_append, List.filter_append, List.length_append]

theorem weight_append (text rest : List Char) : weight (text ++ rest) = weight text + weight rest := by
  unfold weight
  rw [List.filter_append, List.length_append]

theorem weight_words (text : List Char) : weight text = (words isWhitespace text).flatten.length := by
  rw [words_flatten]
  rfl

theorem weight_one (c : Char) : weight [c] ≤ 1 := List.length_filter_le _ _

theorem pass_names : ∀ entry ∈ passNames, 3 ≤ weight entry.1 ∧ '&' ∉ entry.1 := by decide

theorem decode_plain (names : Names) (plain : '&' ∉ text) (rest : List Char) :
    decode names (text ++ rest) = text ++ decode names rest := by
  induction text with
  | nil => rfl
  | cons c text ih =>
    obtain ⟨here, others⟩ := not_or.mp (mt List.mem_cons.mpr plain)
    rw [List.cons_append, decode_other fun same => absurd same (Ne.symm here), ih others]
    rfl

/-- A reference weighs less than the characters it is written with. -/
theorem weight_decode (found : matching passNames (name ++ rest) = some (name, value)) :
    weight (decode passNames ('&' :: (name ++ rest))) + 3 ≤ 1 + weight (decode passNames (name ++ rest)) := by
  obtain ⟨heavy, plain⟩ := pass_names _ (matching_some found).1
  have light := weight_one value
  rw [decode_reference found, weight_cons, decode_plain _ plain, weight_append]
  omega

theorem weight_decode_cons (c : Char) (text : List Char) :
    weight (decode passNames (c :: text)) ≤ weight [c] + weight (decode passNames text) ∧
      (weight (decode passNames (c :: text)) = weight [c] + weight (decode passNames text) → c = '&' →
        matching passNames text = none) := by
  by_cases plain : c = '&' → matching passNames text = none
  · rw [decode_other plain, weight_cons]
    exact ⟨Nat.le_refl _, fun _ => plain⟩
  · obtain ⟨rfl, referred⟩ := Classical.not_imp.mp plain
    obtain ⟨⟨name, value⟩, found⟩ := Option.ne_none_iff_exists'.mp referred
    obtain ⟨rest, rfl⟩ := (matching_some found).2
    have less := weight_decode found
    have one : weight ['&'] = 1 := by decide
    omega

theorem weight_decode_name (member : (name, value) ∈ receiptNames) (rest : List Char) :
    weight (decode passNames ('&' :: (name ++ rest))) ≤ weight [value] + weight (decode passNames rest) ∧
      (weight (decode passNames ('&' :: (name ++ rest))) = weight [value] + weight (decode passNames rest) →
        ¬(name = amp ∧ (lt <+: rest ∨ gt <+: rest))) := by
  have double : ∀ {word : List Char} {c : Char} (rest), matching passNames (amp ++ (word ++ rest)) = some (amp ++ word, c) →
      weight (decode passNames ('&' :: (amp ++ (word ++ rest)))) ≤ 1 + weight (decode passNames rest) := by
    intro word c rest found
    have light := weight_one c
    rw [← List.append_assoc] at found ⊢
    rw [decode_reference found, weight_cons]
    omega
  by_cases again : name = amp ∧ (lt <+: rest ∨ gt <+: rest)
  · obtain ⟨rfl, stands⟩ := again
    have same : value = '&' := by
      simpa [receiptNames, nbsp, amp, lt, gt] using member
    have one : weight ['&'] = 1 := by decide
    subst same
    rcases stands with ⟨behind, rfl⟩ | ⟨behind, rfl⟩
    · have less := double behind (matching_ampLt behind)
      have heavy : weight lt = 3 := by decide
      rw [decode_plain _ (by decide), weight_append]
      omega
    · have less := double behind (matching_ampGt behind)
      have heavy : weight gt = 3 := by decide
      rw [decode_plain _ (by decide), weight_append]
      omega
  · have found := (matching_pass member rest).resolve_right again
    rw [decode_reference found, weight_cons]
    exact ⟨Nat.le_refl _, fun _ => again⟩

end Weights

section Clean

/-- The text with its tags taken out and its references as they are written. -/
def untagged (behind : List Char) : List Char := Rules.read ⟨startsTag, lineTag, []⟩ none false 0 behind

/-- What reads like a reference once the tags are gone is one, and no reference to "&" makes
another with what stands behind it. -/
structure Faithful (behind : List Char) : Prop where
  whole : ∀ entry ∈ receiptNames, entry.1 <+: untagged behind → entry.1 <+: behind
  once : ¬amp ++ lt <+: untagged behind ∧ ¬amp ++ gt <+: untagged behind

/-- Outside of tags, every "<" opens one and every "&" is read as it is written. -/
def Clean : Bool → List Char → Prop
  | _, [] => True
  | true, c :: rest => Clean (c ≠ '>') rest
  | false, c :: rest => (c = '<' → startsTag rest = true) ∧ (c = '&' → Faithful rest) ∧ Clean (c = '<') rest

variable {name rest html : List Char} {value c : Char}

theorem receipt_names : ∀ entry ∈ receiptNames, entry.1 ≠ [] ∧ '<' ∉ entry.1 ∧ '>' ∉ entry.1 ∧ '&' ∉ entry.1 ∧ '\n' ∉ entry.1 := by
  decide

theorem clean_inside (plain : '>' ∉ name) (clean : Clean true (name ++ rest)) : Clean true rest := by
  induction name with
  | nil => exact clean
  | cons c name ih =>
    obtain ⟨here, others⟩ := not_or.mp (mt List.mem_cons.mpr plain)
    have clean : Clean (decide (c ≠ '>')) (name ++ rest) := clean
    rw [decide_eq_true (Ne.symm here)] at clean
    exact ih others clean

theorem clean_outside (plain : '<' ∉ name) (clean : Clean false (name ++ rest)) : Clean false rest := by
  induction name with
  | nil => exact clean
  | cons c name ih =>
    obtain ⟨here, others⟩ := not_or.mp (mt List.mem_cons.mpr plain)
    have clean : Clean (decide (c = '<')) (name ++ rest) := clean.2.2
    rw [decide_eq_false (Ne.symm here)] at clean
    exact ih others clean

/-- Characters that open no tag are copied where there are no names. -/
theorem read_copies {rules : Rules} (nameless : rules.names = []) (plain : '<' ∉ name) (single : '\n' ∉ name)
    (some : name ≠ []) (ended : Bool) (rest : List Char) :
    rules.read none ended 0 (name ++ rest) = name ++ rules.read none false 0 rest := by
  induction name generalizing ended with
  | nil => exact absurd rfl some
  | cons c name ih =>
    obtain ⟨here, others⟩ := not_or.mp (mt List.mem_cons.mpr plain)
    obtain ⟨hereSingle, othersSingle⟩ := not_or.mp (mt List.mem_cons.mpr single)
    rw [List.cons_append, read_other (fun same => absurd same (Ne.symm here)) fun _ => by rw [nameless]; rfl,
      decide_eq_false (Ne.symm hereSingle)]
    by_cases last : name = []
    · rw [last]
      rfl
    · rw [ih others othersSingle last]
      rfl

/-- Where every "<" opens a tag, the converter takes out the tags. -/
theorem stripping_clean (html : List Char) (tag : Option (List Char)) (ended : Bool) (clean : Clean tag.isSome html) :
    stripping.read tag ended 0 html = Rules.read ⟨startsTag, lineTag, []⟩ tag ended 0 html := by
  induction html generalizing tag ended with
  | nil => rw [read_nil, read_nil]
  | cons c rest ih =>
    cases tag with
    | some raw =>
      have clean : Clean (decide (c ≠ '>')) rest := clean
      by_cases closes : c = '>'
      · rw [decide_eq_false (not_not_intro closes)] at clean
        rw [closes, read_closes, read_closes, ih none ended clean, ih none true clean]
        rfl
      · rw [decide_eq_true closes] at clean
        rw [read_inside closes, read_inside closes]
        exact ih _ _ clean
    | none =>
      obtain ⟨opens, _, clean⟩ := clean
      by_cases tagged : c = '<'
      · rw [decide_eq_true tagged] at clean
        subst tagged
        rw [read_opens rfl, read_opens (opens rfl)]
        exact ih _ _ clean
      · rw [decide_eq_false tagged] at clean
        rw [read_other (fun same => absurd same tagged) fun _ => rfl,
          read_other (fun same => absurd same tagged) fun _ => rfl, ih none _ clean]

/-- The converter reads a clean text as it is written. -/
theorem converter_clean (html : List Char) (tag : Option (List Char)) (ended : Bool) (clean : Clean tag.isSome html) :
    decode passNames (stripping.read tag ended 0 html) = receipt.read tag ended 0 html := by
  induction html using reference_induction receiptNames generalizing tag ended with
  | nil =>
    rw [read_nil, read_nil]
    rfl
  | reference name value rest found ih =>
    obtain ⟨member, _⟩ := matching_some found
    obtain ⟨long, noOpening, noClosing, noAmp, single⟩ := receipt_names _ member
    cases tag with
    | some raw =>
      have inside : '>' ∉ '&' :: name := by simpa using noClosing
      rw [← List.cons_append, read_inside_append inside, read_inside_append inside]
      exact ih _ _ (clean_inside inside clean)
    | none =>
      have outside : '<' ∉ '&' :: name := by simpa using noOpening
      have copied : stripping.read none false 0 (name ++ rest) = name ++ stripping.read none false 0 rest :=
        read_copies rfl noOpening single long false rest
      have read : receipt.read none ended 0 ('&' :: (name ++ rest)) = value :: receipt.read none false 0 rest :=
        read_reference found
      have behind := clean_outside outside clean
      have once : ¬(name = amp ∧ (lt <+: stripping.read none false 0 rest ∨ gt <+: stripping.read none false 0 rest)) := by
        rintro ⟨rfl, again⟩
        have faithful := (clean.2.1 rfl).once
        rw [untagged, read_copies rfl noOpening single long, ← stripping_clean rest none false behind,
          List.prefix_append_right_inj, List.prefix_append_right_inj] at faithful
        exact again.elim faithful.1 faithful.2
      rw [read, read_other (fun same => absurd same (by decide)) fun _ => rfl, decide_eq_false (by decide), copied,
        decode_reference ((matching_pass member _).resolve_right once), ih none false behind]
  | other c rest plain ih =>
    cases tag with
    | some raw =>
      have clean : Clean (decide (c ≠ '>')) rest := clean
      by_cases closes : c = '>'
      · rw [decide_eq_false (not_not_intro closes)] at clean
        rw [closes, read_closes, read_closes, ← ih none ended clean, ← ih none true clean]
        have rule : receipt.endsLine raw = stripping.endsLine raw := rfl
        rw [rule]
        split
        · rw [decode_other fun same => absurd same (by decide)]
        · rfl
      · rw [decide_eq_true closes] at clean
        rw [read_inside closes, read_inside closes]
        exact ih _ _ clean
    | none =>
      obtain ⟨opens, faithful, clean⟩ := clean
      by_cases tagged : c = '<'
      · rw [decide_eq_true tagged] at clean
        subst tagged
        rw [read_opens rfl, read_opens (opens rfl)]
        exact ih _ _ clean
      · rw [decide_eq_false tagged] at clean
        have kept : c = '&' → matching passNames (stripping.read none (decide (c = '\n')) 0 rest) = none := by
          rintro rfl
          obtain ⟨whole, once⟩ := faithful rfl
          rw [decide_eq_false (by decide), stripping_clean rest none false clean]
          refine matching_none.mpr (List.forall_mem_cons.mpr ⟨once.1, List.forall_mem_cons.mpr ⟨once.2, ?_⟩⟩)
          exact fun entry member stands => matching_none.mp (plain rfl) entry member (whole entry member stands)
        rw [read_other (fun same => absurd same tagged) fun _ => rfl,
          read_other (fun same => absurd same tagged) plain, decode_other kept, ih none _ clean]

/-- The end of a tag shows nothing. -/
theorem weight_closes (raw : List Char) (ended : Bool) (rest : List Char) :
    (∃ after, weight (decode passNames (stripping.read (some raw) ended 0 ('>' :: rest))) =
      weight (decode passNames (stripping.read none after 0 rest))) ∧
    ∃ after, weight (receipt.read (some raw) ended 0 ('>' :: rest)) = weight (receipt.read none after 0 rest) := by
  have invisible : weight ['\n'] = 0 := by decide
  rw [read_closes, read_closes]
  constructor
  · split
    · refine ⟨true, ?_⟩
      rw [decode_other fun same => absurd same (by decide), weight_cons, invisible, Nat.zero_add]
    · exact ⟨ended, rfl⟩
  · split
    · refine ⟨true, ?_⟩
      rw [weight_cons, invisible, Nat.zero_add]
    · exact ⟨ended, rfl⟩

/-- A character between tags. -/
theorem receipt_other (closed : c = '<' → startsTag rest = false) (plain : c = '&' → matching receiptNames rest = none)
    (ended : Bool) : weight (receipt.read none ended 0 (c :: rest)) =
      weight [c] + weight (receipt.read none (decide (c = '\n')) 0 rest) := by
  rw [read_other closed plain, weight_cons]

theorem stripping_other (visible : c ≠ '<') (ended : Bool) (rest : List Char) :
    stripping.read none ended 0 (c :: rest) = c :: stripping.read none (decide (c = '\n')) 0 rest :=
  read_other (fun same => absurd same visible) fun _ => rfl

theorem stripping_name (member : (name, value) ∈ receiptNames) (ended : Bool) (rest : List Char) :
    stripping.read none ended 0 ('&' :: (name ++ rest)) = '&' :: (name ++ stripping.read none false 0 rest) := by
  obtain ⟨long, noOpening, _, _, single⟩ := receipt_names _ member
  rw [stripping_other (by decide), decide_eq_false (by decide), read_copies rfl noOpening single long]

/-- The converter never shows more than there is, even if it is in a tag where there is none. -/
theorem weight_le (html : List Char) (tag inner : Option (List Char)) (ended other : Bool)
    (deeper : tag.isSome → inner.isSome) :
    weight (decode passNames (stripping.read inner other 0 html)) ≤ weight (receipt.read tag ended 0 html) := by
  induction html using reference_induction receiptNames generalizing tag inner ended other with
  | nil =>
    rw [read_nil]
    exact Nat.zero_le _
  | reference name value rest found ih =>
    obtain ⟨member, _⟩ := matching_some found
    obtain ⟨_, _, noClosing, _, _⟩ := receipt_names _ member
    have inside : '>' ∉ '&' :: name := by simpa using noClosing
    cases inner with
    | some buf =>
      cases tag with
      | some raw =>
        rw [← List.cons_append, read_inside_append inside, read_inside_append inside]
        exact ih _ _ _ _ fun _ => rfl
      | none =>
        have read : receipt.read none ended 0 ('&' :: (name ++ rest)) = value :: receipt.read none false 0 rest :=
          read_reference found
        rw [read, weight_cons, ← List.cons_append, read_inside_append inside]
        exact Nat.le_trans (ih _ _ _ _ (by simp)) (Nat.le_add_left ..)
    | none =>
      cases tag with
      | some raw => exact absurd (deeper rfl) (by decide)
      | none =>
        have read : receipt.read none ended 0 ('&' :: (name ++ rest)) = value :: receipt.read none false 0 rest :=
          read_reference found
        rw [read, weight_cons, stripping_name member]
        exact Nat.le_trans (weight_decode_name member _).1 (Nat.add_le_add_left (ih _ _ _ _ id) _)
  | other c rest plain ih =>
    cases inner with
    | some buf =>
      cases tag with
      | some raw =>
        by_cases closes : c = '>'
        · obtain ⟨⟨first, shown⟩, _⟩ := weight_closes buf other rest
          obtain ⟨_, second, there⟩ := weight_closes raw ended rest
          rw [closes, shown, there]
          exact ih _ _ _ _ id
        · rw [read_inside closes, read_inside closes]
          exact ih _ _ _ _ fun _ => rfl
      | none =>
        by_cases opens : c = '<' ∧ startsTag rest = true
        · obtain ⟨rfl, starts⟩ := opens
          have read : receipt.read none ended 0 ('<' :: rest) = receipt.read (some []) ended 0 rest := read_opens starts
          rw [read, read_inside (by decide)]
          exact ih _ _ _ _ fun _ => rfl
        · have closed : c = '<' → startsTag rest = false := fun same => by simpa [same] using opens
          rw [receipt_other closed plain]
          by_cases closes : c = '>'
          · obtain ⟨⟨first, shown⟩, _⟩ := weight_closes buf other rest
            rw [closes, shown]
            exact Nat.le_trans (ih _ _ _ _ id) (Nat.le_add_left ..)
          · rw [read_inside closes]
            exact Nat.le_trans (ih _ _ _ _ (by simp)) (Nat.le_add_left ..)
    | none =>
      cases tag with
      | some raw => exact absurd (deeper rfl) (by decide)
      | none =>
        by_cases tagged : c = '<'
        · subst tagged
          rw [read_opens rfl]
          cases starts : startsTag rest with
          | true =>
            have read : receipt.read none ended 0 ('<' :: rest) = receipt.read (some []) ended 0 rest := read_opens starts
            rw [read]
            exact ih _ _ _ _ id
          | false =>
            rw [receipt_other (fun _ => starts) plain]
            exact Nat.le_trans (ih _ _ _ _ (by simp)) (Nat.le_add_left ..)
        · rw [stripping_other tagged, receipt_other (fun same => absurd same tagged) plain]
          exact Nat.le_trans (weight_decode_cons c _).1 (Nat.add_le_add_left (ih _ _ _ _ id) _)

/-- No name stands where another one does. -/
theorem names_apart {other : List Char} (member : ∃ value, (name, value) ∈ receiptNames) (others : ∃ value, (other, value) ∈ receiptNames)
    (stands : other <+: name ++ rest) : other = name := by
  have ends : ∀ entry ∈ receiptNames, ∀ entry' ∈ receiptNames, entry'.1.length ≤ entry.1.length →
      entry'.1 <+: entry.1 → entry'.1 = entry.1 := by decide
  obtain ⟨_, member⟩ := member
  obtain ⟨_, others⟩ := others
  rcases List.prefix_or_prefix_of_prefix stands (List.prefix_append name rest) with inside | inside
  · exact ends _ member _ others inside.length_le inside
  · exact (ends _ others _ member inside.length_le inside).symm

theorem clean_closed (plain : '>' ∉ name) (clean : Clean true rest) : Clean true (name ++ rest) := by
  induction name with
  | nil => exact clean
  | cons c name ih =>
    obtain ⟨here, others⟩ := not_or.mp (mt List.mem_cons.mpr plain)
    change Clean (decide (c ≠ '>')) (name ++ rest)
    rw [decide_eq_true (Ne.symm here)]
    exact ih others

theorem clean_plain (closed : '<' ∉ name) (plain : '&' ∉ name) (clean : Clean false rest) : Clean false (name ++ rest) := by
  induction name with
  | nil => exact clean
  | cons c name ih =>
    obtain ⟨here, others⟩ := not_or.mp (mt List.mem_cons.mpr closed)
    obtain ⟨noReference, plain⟩ := not_or.mp (mt List.mem_cons.mpr plain)
    refine ⟨fun same => absurd same (Ne.symm here), fun same => absurd same (Ne.symm noReference), ?_⟩
    rw [decide_eq_false (Ne.symm here)]
    exact ih others plain

/-- A reference that the converter reads as it is written. -/
theorem faithful_name (member : (name, value) ∈ receiptNames) (once : ¬(name = amp ∧ (lt <+: untagged rest ∨ gt <+: untagged rest))) :
    Faithful (name ++ rest) := by
  obtain ⟨long, noOpening, _, _, single⟩ := receipt_names _ member
  have copied : untagged (name ++ rest) = name ++ untagged rest := read_copies rfl noOpening single long false rest
  have first : ∀ {word : List Char}, amp ++ word <+: untagged (name ++ rest) → name = amp ∧ word <+: untagged rest := by
    intro word stands
    rw [copied] at stands
    have same := names_apart ⟨value, member⟩ ⟨'&', by decide⟩ ((List.prefix_append amp word).trans stands)
    subst same
    exact ⟨rfl, (List.prefix_append_right_inj _).mp stands⟩
  refine ⟨fun entry other stands => ?_, fun stands => ?_, fun stands => ?_⟩
  · rw [copied] at stands
    rw [names_apart ⟨value, member⟩ ⟨entry.2, other⟩ stands]
    exact List.prefix_append ..
  · exact once ((first stands).imp_right .inl)
  · exact once ((first stands).imp_right .inr)

/-- Where the converter shows as much as there is, the text is clean. -/
theorem clean_of_weight (html : List Char) (tag : Option (List Char)) (ended other : Bool)
    (same : weight (decode passNames (stripping.read tag other 0 html)) = weight (receipt.read tag ended 0 html)) :
    Clean tag.isSome html := by
  induction html using reference_induction receiptNames generalizing tag ended other with
  | nil => cases tag <;> trivial
  | reference name value rest found ih =>
    obtain ⟨member, _⟩ := matching_some found
    obtain ⟨_, noOpening, noClosing, noAmp, _⟩ := receipt_names _ member
    have inside : '>' ∉ '&' :: name := by simpa using noClosing
    cases tag with
    | some raw =>
      rw [← List.cons_append, read_inside_append inside, read_inside_append inside] at same
      rw [← List.cons_append]
      exact clean_closed inside (ih _ _ _ same)
    | none =>
      have read : receipt.read none ended 0 ('&' :: (name ++ rest)) = value :: receipt.read none false 0 rest :=
        read_reference found
      obtain ⟨least, once⟩ := weight_decode_name member (stripping.read none false 0 rest)
      have most := weight_le rest none none false false id
      rw [read, weight_cons, stripping_name member] at same
      have clean := ih none false false (by omega)
      refine ⟨fun impossible => absurd impossible (by decide), fun _ => faithful_name member ?_, ?_⟩
      · rw [untagged, ← stripping_clean rest none false clean]
        exact once (by omega)
      · exact clean_plain noOpening noAmp clean
  | other c rest plain ih =>
    cases tag with
    | some raw =>
      change Clean (decide (c ≠ '>')) rest
      by_cases closes : c = '>'
      · obtain ⟨⟨_, shown⟩, _⟩ := weight_closes raw other rest
        obtain ⟨_, _, there⟩ := weight_closes raw ended rest
        rw [closes, shown, there] at same
        rw [decide_eq_false (not_not_intro closes)]
        exact ih none _ _ same
      · rw [read_inside closes, read_inside closes] at same
        rw [decide_eq_true closes]
        exact ih (some _) _ _ same
    | none =>
      by_cases tagged : c = '<'
      · subst tagged
        rw [read_opens rfl] at same
        cases starts : startsTag rest with
        | true =>
          have read : receipt.read none ended 0 ('<' :: rest) = receipt.read (some []) ended 0 rest := read_opens starts
          rw [read] at same
          exact ⟨fun _ => starts, fun impossible => absurd impossible (by decide), ih (some []) _ _ same⟩
        | false =>
          have most := weight_le rest none (some []) (decide ('<' = '\n')) other fun _ => rfl
          have visible : weight ['<'] = 1 := by decide
          rw [receipt_other (fun _ => starts) plain] at same
          omega
      · have least := weight_decode_cons c (stripping.read none (decide (c = '\n')) 0 rest)
        have most := weight_le rest none none (decide (c = '\n')) (decide (c = '\n')) id
        rw [stripping_other tagged, receipt_other (fun same => absurd same tagged) plain] at same
        have clean := ih none _ _ (show weight (decode passNames (stripping.read none (decide (c = '\n')) 0 rest)) =
          weight (receipt.read none (decide (c = '\n')) 0 rest) by omega)
        refine ⟨fun impossible => absurd impossible tagged, fun reference => ?_, ?_⟩
        · have unread := least.2 (by omega) reference
          subst reference
          rw [stripping_clean rest none _ clean] at unread
          have none := matching_none.mp unread
          refine ⟨fun entry member stands => ?_, none (amp ++ lt, '<') (by decide), none (amp ++ gt, '>') (by decide)⟩
          exact absurd stands (none entry (List.mem_cons_of_mem _ (List.mem_cons_of_mem _ member)))
        · rw [decide_eq_false tagged]
          exact clean

end Clean

end ApexEdge.Proofs.ReceiptWords
