import ApexEdge.Hardware.Encode
import ApexEdge.Library.Text
import ApexEdge.Proofs.ReceiptLayout
import Mathlib.Data.List.Forall2

/-! Layout as the reader of a receipt sees it: nothing is lost, nothing sticks out, and the
text render shows the same lines. All of it holds of every document that can be encoded. -/

namespace ApexEdge.Proofs.ReceiptLossless
open Hardware Codepage Library.Words ReceiptLayout

section Widths
variable {α : Type} {space : α} {width : Nat} {page after : Page α} {word cells : List α}

/-- No line is wider than the paper. -/
structure Narrow (width : Nat) (page : Page α) : Prop where
  lines : ∀ line ∈ page.lines, line.length ≤ width
  current : page.current.length ≤ width

theorem mem_chunks {chunk : List α} (member : chunk ∈ chunks width cells) :
    chunk ≠ [] ∧ chunk.length ≤ width ∧ chunk ⊆ cells := by
  induction cells using chunks.induct width with
  | case1 cells short =>
    rw [chunks_done short] at member
    cases member
  | case2 cells long ih =>
    rw [chunks_more long] at member
    obtain ⟨wide, some⟩ := not_or.mp long
    rcases List.mem_cons.mp member with rfl | later
    · refine ⟨mt List.take_eq_nil_iff.mp (not_or.mpr ⟨wide, some⟩), ?_, List.take_subset ..⟩
      rw [List.length_take]
      exact Nat.min_le_left ..
    · obtain ⟨full, short, inside⟩ := ih later
      exact ⟨full, short, fun cell member => List.drop_subset _ _ (inside member)⟩

theorem closed_narrow (narrow : Narrow width page) : ∀ line ∈ (closed page).lines, line.length ≤ width := by
  by_cases idle : page.current = []
  · rw [closed, if_pos idle]
    exact narrow.lines
  · rw [closed, if_neg idle]
    intro line member
    exact (List.mem_append.mp member).elim (narrow.lines line) fun last => List.mem_singleton.mp last ▸ narrow.current

theorem layoutWord_narrow (narrow : Narrow width page) (laid : layoutWord space width page word = some after) :
    Narrow width after := by
  obtain ⟨rfl, long⟩ | ⟨wide, long⟩ | ⟨short, first⟩ | ⟨busy, fits⟩ := layoutWord_cases width page word
  · rw [layoutWord_stops long] at laid
    cases laid
  · rw [layoutWord_long wide long] at laid
    cases laid
    refine ⟨fun line member => ?_, Nat.zero_le _⟩
    exact (List.mem_append.mp member).elim (closed_narrow narrow line) fun chunk => (mem_chunks chunk).2.1
  · rw [layoutWord_first short first] at laid
    cases laid
    exact ⟨closed_narrow narrow, short⟩
  · rw [layoutWord_next busy fits] at laid
    cases laid
    refine ⟨narrow.lines, ?_⟩
    rw [List.length_append, List.length_cons]
    omega

end Widths

section Words
variable {α : Type} [DecidableEq α] {space : α} {width : Nat} {page after : Page α} {word cells : List α}
  {lines : List (List α)}

/-- What becomes of a word: one that is too long is broken. -/
def pieces (width : Nat) (word : List α) : List (List α) := if width < word.length then chunks width word else [word]

/-- The words on a page, line by line. -/
def wordsOf (space : α) (page : Page α) : List (List α) :=
  page.lines.flatMap (words (· == space)) ++ words (· == space) page.current

theorem words_chunks (visible : ∀ cell ∈ word, (cell == space) = false) :
    (chunks width word).flatMap (words (· == space)) = chunks width word := by
  have one : ∀ chunk ∈ chunks width word, words (· == space) chunk = [chunk] := by
    intro chunk member
    obtain ⟨some, _, inside⟩ := mem_chunks member
    exact words_visible some fun cell here => visible cell (inside here)
  rw [List.flatMap_congr one, List.flatMap_singleton']

theorem closed_words (page : Page α) : (closed page).lines.flatMap (words (· == space)) = wordsOf space page := by
  by_cases idle : page.current = []
  · rw [closed, if_pos idle, wordsOf, idle, words_nil, List.append_nil]
  · rw [closed, if_neg idle, Page.take, List.flatMap_append, wordsOf, List.flatMap_singleton]

/-- One word more on the page. -/
theorem layoutWord_words (visible : ∀ cell ∈ word, (cell == space) = false)
    (laid : layoutWord space width page word = some after) :
    wordsOf space after = wordsOf space page ++ (words (· == space) word).flatMap (pieces width) := by
  have whole : word.length ≤ width → (words (· == space) word).flatMap (pieces width) = words (· == space) word := by
    intro short
    obtain ⟨none, _⟩ | ⟨one, _⟩ := words_stretch visible
    · rw [none, List.flatMap_nil]
    · rw [one, List.flatMap_singleton, pieces, if_neg (Nat.not_lt.mpr short)]
  obtain ⟨rfl, long⟩ | ⟨wide, long⟩ | ⟨short, first⟩ | ⟨busy, fits⟩ := layoutWord_cases width page word
  · rw [layoutWord_stops long] at laid
    cases laid
  · rw [layoutWord_long wide long] at laid
    cases laid
    have some : word ≠ [] := List.ne_nil_of_length_pos (Nat.lt_of_le_of_lt (Nat.zero_le _) long)
    rw [words_visible some visible, List.flatMap_singleton, pieces, if_pos long, wordsOf, words_nil, List.append_nil,
      List.flatMap_append, closed_words, words_chunks visible]
  · rw [layoutWord_first short first] at laid
    cases laid
    rw [whole short, wordsOf, closed_words]
  · rw [layoutWord_next busy fits] at laid
    cases laid
    have apart : words (· == space) (page.current ++ space :: word) =
        words (· == space) page.current ++ words (· == space) word := words_append_blank (by exact beq_self_eq_true space) ..
    rw [whole (by omega), wordsOf, apart, ← List.append_assoc]
    rfl

theorem words_laid {stretches : List (List α)} (visible : ∀ stretch ∈ stretches, ∀ cell ∈ stretch, (cell == space) = false)
    (narrow : Narrow width page) (laid : stretches.foldlM (layoutWord space width) page = some after) :
    Narrow width after ∧ wordsOf space after =
      wordsOf space page ++ (stretches.flatMap (words (· == space))).flatMap (pieces width) := by
  induction stretches generalizing page with
  | nil =>
    cases laid
    exact ⟨narrow, (List.append_nil _).symm⟩
  | cons stretch stretches ih =>
    rw [List.foldlM_cons, Option.bind_eq_bind, Option.bind_eq_some_iff] at laid
    obtain ⟨middle, first, laid⟩ := laid
    obtain ⟨here, others⟩ := List.forall_mem_cons.mp visible
    obtain ⟨narrower, counted⟩ := ih others (layoutWord_narrow narrow first) laid
    refine ⟨narrower, ?_⟩
    rw [counted, layoutWord_words here first, List.flatMap_cons, List.flatMap_append, List.append_assoc]

theorem splitOn_visible (space : α) (cells : List α) :
    ∀ stretch ∈ cells.splitOn space, ∀ cell ∈ stretch, (cell == space) = false := by
  intro stretch member cell inside
  have kept : cell ∈ cells.filter (· ≠ space) := by
    rw [← splitOn_flatten]
    exact List.mem_flatten.mpr ⟨stretch, member, inside⟩
  simpa using (List.mem_filter.mp kept).2

theorem words_split (space : α) (cells : List α) :
    (cells.splitOn space).flatMap (words (· == space)) = words (· == space) cells := by
  induction cells using text_induction (· == space) with
  | last stretch visible =>
    rw [List.splitOn_eq_splitOnP, List.splitOnP_eq_singleton visible, List.flatMap_singleton]
  | next stretch item rest visible parts ih =>
    have apart : words (· == space) (stretch ++ item :: rest) =
        words (· == space) stretch ++ words (· == space) rest := words_append_blank (by exact parts) ..
    rw [List.splitOn_append_cons_of_beq _ _ parts, List.flatMap_append, ih, apart,
      List.splitOn_eq_singleton_of_beq_eq_false visible, List.flatMap_singleton]

/-- The lines hold the words of the text in their order; only a word that is longer than a
line is broken, and no line is longer than the paper is wide. -/
theorem lines_words (laid : layoutCells space cells width = some lines) :
    (∀ line ∈ lines, line.length ≤ width) ∧
      lines.flatMap (words (· == space)) = (words (· == space) cells).flatMap (pieces width) := by
  rw [layoutCells] at laid
  split at laid
  · rename_i empty
    cases laid
    rw [empty, words_nil]
    refine ⟨fun line member => ?_, by simp⟩
    rw [List.mem_singleton.mp member]
    exact Nat.zero_le _
  · obtain ⟨page, reached, rfl⟩ := Option.map_eq_some_iff.mp laid
    obtain ⟨narrow, counted⟩ := words_laid (splitOn_visible space cells)
      ⟨fun _ impossible => absurd impossible List.not_mem_nil, Nat.zero_le _⟩ reached
    rw [words_split] at counted
    rw [Page.finish]
    split
    · refine ⟨fun line member => ?_, ?_⟩
      · exact (List.mem_append.mp member).elim (narrow.lines line) fun last => List.mem_singleton.mp last ▸ narrow.current
      · rw [List.flatMap_append, List.flatMap_singleton]
        exact counted
    · rename_i ready
      rw [wordsOf, not_not.mp (not_or.mp ready).1, words_nil, List.append_nil] at counted
      exact ⟨narrow.lines, counted⟩

/-- Blanks alone give one empty line on any paper. -/
theorem layoutCells_blanks (width : Nat) (blanks : ∀ cell ∈ cells, cell = space) : layoutCells space cells width = some [[]] := by
  have idle : ∀ {stretches : List (List α)}, (∀ stretch ∈ stretches, stretch = []) →
      stretches.foldlM (layoutWord space width) ⟨[], []⟩ = some ⟨[], []⟩ := by
    intro stretches empty
    induction stretches with
    | nil => rfl
    | cons stretch stretches ih =>
      obtain ⟨rfl, others⟩ := List.forall_mem_cons.mp empty
      rw [List.foldlM_cons, layoutWord_first (Nat.zero_le _) (.inl rfl)]
      exact ih others
  rw [layoutCells]
  split
  · rfl
  · rw [idle]
    · rfl
    · rw [← List.flatten_eq_nil_iff, splitOn_flatten]
      exact List.filter_eq_nil_iff.mpr fun cell member => by simp [blanks cell member]

end Words

section Documents
variable {dialect : Dialect} {width : Nat} {style : TextStyle} {element : ReceiptElement} {elements : List ReceiptElement}
  {lines : List Bytes} {doc : ReceiptDocument}

/-- A code that the dialect can print; lines are not refused. -/
def Accepted (dialect : Dialect) : ReceiptElement → Prop
  | .barcode symbology data =>
    ∃ payload bytes, validateBarcode symbology data = .ok payload ∧ dialect.barcode symbology payload = .ok bytes
  | .qrCode data => data.toList ≠ [] ∧ ∃ bytes, dialect.qr (asBytes data) = .ok bytes
  | _ => True

/-- Text whose glyphs are wider than the paper. -/
def Cramped (width : Nat) : ReceiptElement → Prop
  | .text content style => width < style.size.widthMultiple ∧ ∃ byte ∈ encode content, byte ≠ 0x20
  | _ => False

/-- No text is wider than the paper, at least none before the first code that is refused. -/
def Roomy (dialect : Dialect) (doc : ReceiptDocument) : Prop :=
  ∀ before element after, doc.elements = before ++ element :: after →
    (∀ code ∈ before, Accepted dialect code) → ¬Cramped doc.widthChars element

theorem narrow_iff (width : Nat) (size : TextSize) : width / size.widthMultiple = 0 ↔ width < size.widthMultiple := by
  cases size <;> simp only [TextSize.widthMultiple] <;> omega

theorem layoutText_some {content : String} :
    (∃ lines, layoutText content (width / style.size.widthMultiple) = some lines) ↔ ¬Cramped width (.text content style) := by
  rw [layoutText, layoutCells_some, narrow_iff]
  simp only [Cramped, not_and, not_exists, not_not, ne_eq]

/-- An element panics, is printed or is refused. -/
theorem encodeElement_cases (dialect : Dialect) (width : Nat) (style : TextStyle) (element : ReceiptElement) :
    (Cramped width element ∧ encodeElement dialect width style element = .error .panicked) ∨
      (¬Cramped width element ∧ Accepted dialect element ∧ ∃ bytes, encodeElement dialect width style element = .ok bytes) ∨
      (¬Cramped width element ∧ ¬Accepted dialect element ∧
        ∃ error, encodeElement dialect width style element = .error (.refused error)) := by
  cases element with
  | text content wanted =>
    unfold encodeElement
    dsimp only
    cases laid : layoutText content (width / wanted.size.widthMultiple) with
    | none =>
      refine .inl ⟨by_contra fun roomy => ?_, rfl⟩
      obtain ⟨lines, some⟩ := layoutText_some.mpr roomy
      rw [laid] at some
      cases some
    | some lines => exact .inr (.inl ⟨layoutText_some.mp ⟨lines, laid⟩, trivial, _, rfl⟩)
  | barcode symbology data =>
    unfold encodeElement Accepted
    dsimp only
    cases checked : validateBarcode symbology data with
    | error error =>
      exact .inr (.inr ⟨id, fun ⟨_, _, good, _⟩ => (nomatch good), error, rfl⟩)
    | ok payload =>
      cases printed : dialect.barcode symbology payload with
      | error error =>
        refine .inr (.inr ⟨id, fun ⟨_, _, good, works⟩ => ?_, error, ?_⟩)
        · rw [← Except.ok.inj good, printed] at works
          cases works
        · change (refusing (dialect.barcode symbology payload) >>= _) = _
          rw [printed]
          rfl
      | ok bytes =>
        refine .inr (.inl ⟨id, ⟨payload, bytes, rfl, printed⟩, dialect.applyStyle style .centred ++ bytes, ?_⟩)
        change (refusing (dialect.barcode symbology payload) >>= _) = _
        rw [printed]
        rfl
  | qrCode data =>
    unfold encodeElement Accepted
    dsimp only
    by_cases empty : data.toList = []
    · exact .inr (.inr ⟨id, fun ⟨filled, _⟩ => filled empty, _, if_pos empty⟩)
    · rw [if_neg empty]
      cases printed : dialect.qr (asBytes data) with
      | error error => exact .inr (.inr ⟨id, fun ⟨_, _, works⟩ => (nomatch works), error, rfl⟩)
      | ok bytes => exact .inr (.inl ⟨id, ⟨empty, bytes, rfl⟩, _, rfl⟩)
  | _ => exact .inr (.inl ⟨id, trivial, _, rfl⟩)

/-- The first element that fails decides how. -/
theorem encodeElements_panics (dialect : Dialect) (width : Nat) (style : TextStyle) (elements : List ReceiptElement) :
    encodeElements dialect width style elements = .error .panicked ↔
      ∃ before element after, elements = before ++ element :: after ∧ (∀ code ∈ before, Accepted dialect code) ∧
        Cramped width element := by
  induction elements generalizing style with
  | nil =>
    refine ⟨fun impossible => (nomatch impossible), fun ⟨before, element, after, whole, _⟩ => ?_⟩
    cases before <;> cases whole
  | cons first rest ih =>
    rw [encodeElements]
    obtain ⟨cramped, failed⟩ | ⟨roomy, accepted, bytes, printed⟩ | ⟨roomy, rejected, error, refused⟩ :=
      encodeElement_cases dialect width style first
    · rw [failed]
      exact ⟨fun _ => ⟨[], first, rest, rfl, fun _ impossible => (nomatch impossible), cramped⟩, fun _ => rfl⟩
    · rw [printed]
      have others := ih (first.styleAfter style)
      constructor
      · intro panics
        obtain ⟨before, element, after, rfl, codes, cramped⟩ := others.mp (by
          cases result : encodeElements dialect width (first.styleAfter style) rest with
          | error failure =>
            rw [result] at panics
            exact panics
          | ok more =>
            rw [result] at panics
            cases panics)
        exact ⟨first :: before, element, after, rfl, List.forall_mem_cons.mpr ⟨accepted, codes⟩, cramped⟩
      · intro ⟨before, element, after, whole, codes, cramped⟩
        cases before with
        | nil =>
          obtain ⟨rfl, rfl⟩ := List.cons.inj whole
          exact absurd cramped roomy
        | cons head before =>
          obtain ⟨rfl, rfl⟩ := List.cons.inj whole
          have panics := others.mpr ⟨before, element, after, rfl, (List.forall_mem_cons.mp codes).2, cramped⟩
          rw [panics]
          rfl
    · rw [refused]
      refine ⟨fun impossible => (nomatch impossible), fun ⟨before, element, after, whole, codes, cramped⟩ => ?_⟩
      cases before with
      | nil =>
        obtain ⟨rfl, rfl⟩ := List.cons.inj whole
        exact absurd cramped roomy
      | cons head before =>
        obtain ⟨rfl, rfl⟩ := List.cons.inj whole
        exact absurd (List.forall_mem_cons.mp codes).1 rejected

/-- Encoding panics for a cramped text and for nothing else. -/
theorem encodeDocument_survives (dialect : Dialect) (doc : ReceiptDocument) :
    encodeDocument dialect doc ≠ .error .panicked ↔ Roomy dialect doc := by
  have panics := encodeElements_panics dialect doc.widthChars .default doc.elements
  have same : encodeDocument dialect doc = .error .panicked ↔
      encodeElements dialect doc.widthChars .default doc.elements = .error .panicked := by
    rw [encodeDocument]
    by_cases empty : doc.elements = []
    · rw [if_pos empty, empty]
      exact ⟨fun impossible => (nomatch impossible), fun impossible => (nomatch impossible)⟩
    · rw [if_neg empty]
      cases encodeElements dialect doc.widthChars .default doc.elements with
      | error failure => exact Iff.rfl
      | ok bytes => exact ⟨fun impossible => (nomatch impossible), fun impossible => (nomatch impossible)⟩
  rw [Ne, same, panics]
  constructor
  · intro none before element after whole codes cramped
    exact none ⟨before, element, after, whole, codes, cramped⟩
  · intro roomy ⟨before, element, after, whole, codes, cramped⟩
    exact roomy before element after whole codes cramped

/-- The printed lines of a text: none sticks out, only blanks are gone or new, and only a
word that is longer than a line is broken. -/
structure Faithful (width : Nat) (content : String) (lines : List Bytes) : Prop where
  fits : ∀ line ∈ lines, line.length ≤ max width 1
  kept : lines.flatten.filter (· ≠ 0x20) = (encode content).filter (· ≠ 0x20)
  whole : lines.flatMap (words (· == 0x20)) = (words (· == 0x20) (encode content)).flatMap (pieces width)

/-- The row of a label and a value. -/
structure ShowsValue (width : Nat) (left right : String) : Prop where
  last : encode right <:+ layoutColumns left right width
  exact : (encode right).length < width → (layoutColumns left right width).length = width

/-- What the text render shows for a line of paper. -/
def Shows (line : Bytes) (text : String) : Prop := ∃ padding, text = spaces padding ++ decode line

/-- The lines in which an element is printed. Codes, feeds and cuts have none. -/
def paperLines (width : Nat) : ReceiptElement → Option (List Bytes)
  | .text content style => layoutText content (width / style.size.widthMultiple)
  | .columns left right => some [layoutColumns left right width]
  | .divider => some [layoutDivider width]
  | _ => none

/-- The lines of the text render for one element, beside those on paper. -/
def SameLines (width : Nat) (element : ReceiptElement) (shown : List String) : Prop :=
  ∀ lines, paperLines width element = some lines → List.Forall₂ Shows lines shown

/-- Layout loses nothing, fits the paper, and is the same for paper and screen. -/
structure Lossless (dialect : Dialect) (doc : ReceiptDocument) : Prop where
  survives : encodeDocument dialect doc ≠ .error .panicked
  printed : ∀ element ∈ doc.elements, ∀ style lines, paperLines doc.widthChars element = some lines →
    encodeElement dialect doc.widthChars style element =
      .ok (dialect.applyStyle style (element.styleAfter style) ++ lines.flatMap withLineFeed)
  texts : ∀ content style lines, .text content style ∈ doc.elements →
    layoutText content (doc.widthChars / style.size.widthMultiple) = some lines →
    Faithful (doc.widthChars / style.size.widthMultiple) content lines
  rows : ∀ left right, .columns left right ∈ doc.elements → ShowsValue doc.widthChars left right
  plain : ∃ shown, doc.plainText = some ("\n".intercalate shown.flatten) ∧
    List.Forall₂ (SameLines doc.widthChars) doc.elements shown

theorem layoutText_faithful {content : String} (laid : layoutText content width = some lines) : Faithful width content lines := by
  obtain ⟨narrow, broken⟩ := lines_words laid
  exact ⟨fun line member => Nat.le_trans (narrow line member) (Nat.le_max_left ..), lines_keep laid, broken⟩

theorem layoutColumns_showsValue (width : Nat) (left right : String) : ShowsValue width left right := by
  refine ⟨⟨_, rfl⟩, fun short => ?_⟩
  simp only [layoutColumns, layoutRow, List.length_append, List.length_replicate, List.length_take]
  omega

theorem align_shows (line : Bytes) (width : Nat) (alignment : Hardware.Alignment) : Shows line (align (decode line) width alignment) := by
  unfold align
  cases alignment with
  | left => exact ⟨0, (String.empty_append ..).symm⟩
  | centre => exact ⟨_, rfl⟩
  | right => exact ⟨_, rfl⟩

theorem decode_shows (line : Bytes) : Shows line (decode line) := ⟨0, (String.empty_append ..).symm⟩

/-- The paper's layout is the screen's, where the paper has one. -/
theorem layoutText_wide {content : String} (laid : layoutText content width = some lines) :
    layoutText content (max width 1) = some lines := by
  by_cases none : width = 0
  · subst none
    have blanks := layoutCells_some.mp ⟨lines, laid⟩ rfl
    rw [layoutText, layoutCells_blanks _ blanks] at laid ⊢
    exact laid
  · rwa [Nat.max_eq_left (Nat.one_le_iff_ne_zero.mpr none)]

theorem encodeElement_lines (dialect : Dialect) (style : TextStyle) (onPaper : paperLines width element = some lines) :
    encodeElement dialect width style element =
      .ok (dialect.applyStyle style (element.styleAfter style) ++ lines.flatMap withLineFeed) := by
  cases element with
  | text content wanted =>
    unfold encodeElement
    dsimp only
    rw [show layoutText content (width / wanted.size.widthMultiple) = some lines from onPaper]
    rfl
  | columns left right =>
    rw [← Option.some.inj onPaper, List.flatMap_singleton]
    rfl
  | divider =>
    rw [← Option.some.inj onPaper, List.flatMap_singleton]
    rfl
  | _ => cases onPaper

theorem plainLines_same (width : Nat) (element : ReceiptElement) :
    ∃ shown, plainLines width element = some shown ∧ SameLines width element shown := by
  cases element with
  | text content style =>
    obtain ⟨lines, laid⟩ : ∃ lines, layoutText content (max (width / style.size.widthMultiple) 1) = some lines :=
      layoutCells_some.mpr fun none => absurd none (by omega)
    refine ⟨_, by rw [plainLines, laid, Option.map_some], fun printed onPaper => ?_⟩
    rw [Option.some.inj ((layoutText_wide onPaper).symm.trans laid), List.forall₂_map_right_iff]
    exact List.forall₂_same.mpr fun line _ => align_shows line ..
  | columns left right =>
    refine ⟨_, rfl, fun printed onPaper => ?_⟩
    rw [← Option.some.inj onPaper]
    exact .cons (decode_shows _) .nil
  | divider =>
    refine ⟨_, rfl, fun printed onPaper => ?_⟩
    rw [← Option.some.inj onPaper]
    exact .cons (decode_shows _) .nil
  | _ => exact ⟨_, rfl, fun _ impossible => (nomatch impossible)⟩

theorem plainText_same (doc : ReceiptDocument) : ∃ shown, doc.plainText = some ("\n".intercalate shown.flatten) ∧
    List.Forall₂ (SameLines doc.widthChars) doc.elements shown := by
  have all : ∀ elements : List ReceiptElement, ∃ shown, elements.mapM (plainLines doc.widthChars) = some shown ∧
      List.Forall₂ (SameLines doc.widthChars) elements shown := by
    intro elements
    induction elements with
    | nil => exact ⟨[], rfl, .nil⟩
    | cons element elements ih =>
      obtain ⟨lines, shows, same⟩ := plainLines_same doc.widthChars element
      obtain ⟨others, showing, alike⟩ := ih
      exact ⟨lines :: others, by rw [List.mapM_cons, shows, showing]; rfl, .cons same alike⟩
  obtain ⟨shown, shows, same⟩ := all doc.elements
  exact ⟨shown, by rw [ReceiptDocument.plainText, shows, Option.map_some], same⟩

/-- A document is laid out without loss exactly when no text that is reached is set in
glyphs wider than its paper. -/
theorem lossless_iff (dialect : Dialect) (doc : ReceiptDocument) : Lossless dialect doc ↔ Roomy dialect doc := by
  rw [← encodeDocument_survives]
  exact ⟨Lossless.survives, fun survives => ⟨survives, fun _ _ style _ => encodeElement_lines dialect style,
    fun _ _ _ _ => layoutText_faithful,
    fun left right _ => layoutColumns_showsValue _ left right, plainText_same doc⟩⟩

/-- Paper for one character, and a letter of two. -/
def slip : ReceiptDocument := ⟨1, [.text "A" { TextStyle.default with size := .doubleWidth }], by decide⟩

theorem slip_lost : ¬∀ (dialect : Dialect) (doc : ReceiptDocument), Lossless dialect doc := by
  intro lossless
  exact (lossless EscPos.dialect slip).survives (by decide +kernel)

end Documents

end ApexEdge.Proofs.ReceiptLossless
