import ApexEdge.Library.Wrapping
import ApexEdge.Printing.Pdf

/-! The receipt PDF under a reader of the file format: the table leads to every object, the
stream is as long as it says, and its strings are the wrapped lines. -/

namespace ApexEdge.Proofs.ReceiptPdf
open Printing Library.PdfFile Library.Replacing Library.Words Library.Wrapping Sync

section Lines
variable {maxChars : Nat} {row ws : List (List Char)} {line : List Char}

/-- The words of a row with blanks between them. -/
def joined (row : List (List Char)) : List Char := [' '].intercalate row

theorem joined_append (some : row ≠ []) (word : List Char) : joined (row ++ [word]) = joined row ++ ' ' :: word := by
  induction row with
  | nil => exact absurd rfl some
  | cons first row ih =>
    cases row with
    | nil =>
      simp only [joined, List.nil_append, List.cons_append, List.intercalate_cons_cons, List.intercalate_singleton,
        List.append_assoc]
    | cons next row =>
      have rest := ih (List.cons_ne_nil _ _)
      simp only [joined, List.cons_append, List.intercalate_cons_cons] at rest ⊢
      simp only [rest, List.append_assoc]

theorem joined_singleton (word : List Char) : joined [word] = word := List.intercalate_singleton

theorem joined_length (row : List (List Char)) : (joined row).length = width row := by
  induction row using List.reverseRecOn with
  | nil => rfl
  | append_singleton row word ih =>
    by_cases first : row = []
    · rw [first, List.nil_append, joined_singleton]
      simp [width]
    · have some := List.length_pos_of_ne_nil first
      rw [joined_append first, List.length_append, ih, List.length_cons]
      simp only [width, List.map_append, List.sum_append, List.length_append, List.map_cons, List.map_nil,
        List.sum_cons, List.sum_nil, List.length_cons, List.length_nil]
      omega

theorem joined_words (visible : ∀ word ∈ row, word ≠ [] ∧ ∀ c ∈ word, isWhitespace c = false) :
    words isWhitespace (joined row) = row := by
  induction row using List.reverseRecOn with
  | nil => exact words_nil
  | append_singleton row word ih =>
    obtain ⟨others, last⟩ := List.forall_mem_append.mp visible
    obtain ⟨some, plain⟩ := last word (List.mem_singleton_self word)
    by_cases first : row = []
    · rw [first, List.nil_append, joined_singleton, words_visible some plain]
    · rw [joined_append first, words_append_blank (by decide), ih others, words_visible some plain]

theorem joined_some (filled : ∀ word ∈ row, word ≠ []) : joined row ≠ [] ↔ row ≠ [] := by
  rw [← List.length_pos_iff, joined_length, ← List.length_pos_iff]
  cases row with
  | nil => exact Iff.rfl
  | cons first row =>
    have long := List.length_pos_of_ne_nil (filled first (List.mem_cons_self ..))
    simp only [width, List.map_cons, List.sum_cons, List.length_cons]
    omega

/-- One word more makes one line of the row so far, or the row longer. -/
theorem word_row (lines : List (List Char)) (filled : ∀ word ∈ row, word ≠ []) (word : List Char) :
    Wrapping.word maxChars ⟨lines, joined row⟩ word =
      if row ≠ [] ∧ maxChars < width (row ++ [word]) then ⟨lines ++ [joined row], joined [word]⟩
      else ⟨lines, joined (row ++ [word])⟩ := by
  by_cases first : row = []
  · rw [first, if_neg fun busy => busy.1 rfl, List.nil_append, joined_singleton]
    simp [Wrapping.word, joined]
  · have busy := (joined_some filled).mpr first
    have projected : (joined row).length + word.length + 1 = width (row ++ [word]) := by
      rw [← joined_length, joined_append first, List.length_append, List.length_cons]
      omega
    rw [Wrapping.word, if_pos busy]
    simp only [ne_eq, busy, first, not_false_eq_true, and_true, true_and, gt_iff_lt, if_true]
    rw [projected, joined_append first, joined_singleton, List.append_assoc]
    rfl

/-- A row in the making is a line in the making. -/
theorem wrapping_rows (lines : List (List Char)) (filled : ∀ word ∈ row ++ ws, word ≠ []) :
    (ws.foldl (Wrapping.word maxChars) ⟨lines, joined row⟩).finish = lines ++ (greedy maxChars row ws).map joined := by
  induction ws generalizing row lines with
  | nil =>
    rw [List.append_nil] at filled
    rw [List.foldl_nil, Wrapping.finish, greedy]
    by_cases first : row = []
    · rw [if_neg fun long => (joined_some filled).mp long first, if_pos first, List.map_nil, List.append_nil]
    · rw [if_pos ((joined_some filled).mpr first), if_neg first]
      rfl
  | cons word ws ih =>
    obtain ⟨before, behind⟩ := List.forall_mem_append.mp filled
    rw [List.foldl_cons, word_row lines before, greedy]
    split
    · rw [ih _ behind, List.append_assoc]
      rfl
    · exact ih _ (by rwa [List.append_assoc])

/-- The lines of a paragraph are its words in the fewest rows. -/
theorem wrapLine_rows (maxChars : Nat) (line : List Char) :
    wrapLine maxChars line = (greedy maxChars [] (words isWhitespace line)).map joined :=
  @wrapping_rows maxChars [] (words isWhitespace line) [] fun _ member => (mem_words member).1

theorem words_trimmed (line : List Char) : words isWhitespace (trim line) = words isWhitespace line := words_trim isWhitespace line

/-- The rows of a text, paragraph by paragraph. -/
def rowsOf (maxChars : Nat) (text : List Char) : List (List (List Char)) :=
  (lines text).flatMap fun line => greedy maxChars [] (words isWhitespace line)

theorem wrapLines_rows (text : List Char) (maxChars : Nat) :
    wrapLines text maxChars = if rowsOf maxChars text = [] then [[' ']] else (rowsOf maxChars text).map joined := by
  have same : (((lines text).map trim).filter (· ≠ [])).flatMap (wrapLine maxChars) = (rowsOf maxChars text).map joined := by
    rw [rowsOf, List.map_flatMap]
    induction lines text with
    | nil => rfl
    | cons line more ih =>
      have trimmed := (wrapLine_rows maxChars (trim line)).trans (by rw [words_trimmed])
      rw [List.map_cons, List.flatMap_cons, ← ih, ← trimmed]
      by_cases blank : trim line = []
      · rw [List.filter_cons_of_neg (by simpa using blank), blank]
        rfl
      · rw [List.filter_cons_of_pos (by simpa using blank), List.flatMap_cons]
  rw [wrapLines, same]
  simp only [List.map_eq_nil_iff]

/-- The words of the lines behind something else. -/
def wordsBehind (before : List Char) : List (List Char) → List (List Char)
  | [] => words isWhitespace before
  | line :: more => words isWhitespace (before ++ line) ++ more.flatMap (words isWhitespace)

theorem wordsBehind_nil (all : List (List Char)) : wordsBehind [] all = all.flatMap (words isWhitespace) := by
  cases all with
  | nil => exact words_nil
  | cons line more => rfl

theorem wordsBehind_end {text more : List Char} {c : Char} (blank : isWhitespace c = true) (before : List Char)
    (same : words isWhitespace more = (lines text).flatMap (words isWhitespace)) :
    wordsBehind before ([] :: lines text) = words isWhitespace (before ++ c :: more) := by
  rw [wordsBehind, List.append_nil, words_append_blank blank, same]

theorem words_behind (text before : List Char) : wordsBehind before (lines text) = words isWhitespace (before ++ text) := by
  induction text using lines.induct generalizing before with
  | case1 => rw [lines, wordsBehind, List.append_nil]
  | case2 text ih =>
    rw [lines]
    refine wordsBehind_end (by decide) before ?_
    rw [words_blank_cons (by decide), ← wordsBehind_nil, ih]
    rfl
  | case3 text ih =>
    rw [lines]
    refine wordsBehind_end (by decide) before ?_
    rw [← wordsBehind_nil, ih]
    rfl
  | case4 c text noReturn noFeed last ih =>
    have here := ih (before ++ [c])
    rw [last, List.append_assoc, List.singleton_append] at here
    rw [lines.eq_4 c text noReturn noFeed, last, ← here, wordsBehind, wordsBehind, List.flatMap_nil, List.append_nil]
  | case5 c text noReturn noFeed line more found ih =>
    have here := ih (before ++ [c])
    rw [found, List.append_assoc, List.singleton_append] at here
    rw [lines.eq_4 c text noReturn noFeed, found, ← here, wordsBehind, wordsBehind, List.append_assoc]
    rfl

/-- The words of the lines are those of the text. -/
theorem words_lines (text : List Char) : (lines text).flatMap (words isWhitespace) = words isWhitespace text :=
  (wordsBehind_nil _).symm.trans (words_behind text [])

theorem mem_joined {c : Char} (member : c ∈ joined row) : c = ' ' ∨ ∃ word ∈ row, c ∈ word := by
  induction row using List.reverseRecOn with
  | nil => cases member
  | append_singleton row word ih =>
    by_cases first : row = []
    · rw [first, List.nil_append, joined_singleton] at member
      exact .inr ⟨word, by simp, member⟩
    · rw [joined_append first, List.mem_append, List.mem_cons] at member
      rcases member with before | blank | here
      · exact (ih before).imp_right fun ⟨other, inside, found⟩ => ⟨other, List.mem_append_left _ inside, found⟩
      · exact .inl blank
      · exact .inr ⟨word, by simp, here⟩

theorem mem_rows {text : List Char} (member : row ∈ rowsOf maxChars text) :
    row ≠ [] ∧ ∀ word ∈ row, word ≠ [] ∧ ∀ c ∈ word, isWhitespace c = false := by
  obtain ⟨line, _, inside⟩ := List.mem_flatMap.mp member
  refine ⟨greedy_filled _ _ _ row inside, fun word here => ?_⟩
  have kept : word ∈ (greedy maxChars [] (words isWhitespace line)).flatten := List.mem_flatten.mpr ⟨row, inside, here⟩
  rw [greedy_flatten] at kept
  exact mem_words kept

/-- A wrapped line has no end of line in it. -/
theorem wrapLines_visible {text : List Char} {line : List Char} (member : line ∈ wrapLines text maxChars) : '\r' ∉ line := by
  rw [wrapLines_rows] at member
  intro inside
  split at member
  · rw [List.mem_singleton.mp member] at inside
    exact absurd inside (by decide)
  · obtain ⟨row, rows, rfl⟩ := List.mem_map.mp member
    rcases mem_joined inside with blank | ⟨word, here, found⟩
    · exact absurd blank (by decide)
    · exact absurd (((mem_rows rows).2 word here).2 _ found) (by decide)

end Lines

section Escapes

def escapeChar (c : Char) : List Char := if c = '\\' ∨ c = '(' ∨ c = ')' then ['\\', c] else [c]

/-- What one replacement puts in is left alone by those after it. -/
theorem escapePdfText_chars (text : List Char) : escapePdfText text = text.flatMap escapeChar := by
  rw [escapePdfText, replaceAll_singleton, replaceAll_singleton, replaceAll_singleton, List.flatMap_assoc, List.flatMap_assoc]
  refine List.flatMap_congr fun c _ => ?_
  by_cases slash : c = '\\'
  · rw [slash]
    decide
  · by_cases opening : c = '('
    · rw [opening]
      decide
    · by_cases closing : c = ')'
      · rw [closing]
        decide
      · simp only [escapeChar, slash, opening, closing, or_self, if_false, List.flatMap_singleton]

theorem escape_low : ∀ n < 128, utf8 (escapeChar (Char.ofNat n)) = (String.utf8EncodeChar (Char.ofNat n)).flatMap escapeByte := by
  decide +kernel

theorem utf8_escapeChar (c : Char) : utf8 (escapeChar c) = (String.utf8EncodeChar c).flatMap escapeByte := by
  by_cases low : c.toNat < 128
  · have here := escape_low c.toNat low
    rwa [Char.ofNat_toNat] at here
  · have plain : ¬(c = '\\' ∨ c = '(' ∨ c = ')') := by
      rintro (rfl | rfl | rfl) <;> exact low (by decide)
    have alone : ∀ byte ∈ String.utf8EncodeChar c, escapeByte byte = [byte] := by
      intro byte member
      have high := utf8EncodeChar_high (Nat.le_of_not_lt low) byte member
      refine if_neg ?_
      rintro (rfl | rfl | rfl) <;> exact absurd high (by decide)
    rw [escapeChar, if_neg plain, List.flatMap_congr alone, List.flatMap_singleton']
    exact List.append_nil _

/-- The escaped text in bytes is the escaped bytes of the text. -/
theorem utf8_escapePdfText (text : List Char) : utf8 (escapePdfText text) = (utf8 text).flatMap escapeByte := by
  rw [escapePdfText_chars]
  unfold utf8
  rw [List.flatMap_assoc, List.flatMap_assoc]
  exact List.flatMap_congr fun c _ => utf8_escapeChar c

end Escapes

section Stream
variable {strings : List (List UInt8)}

/-- Bytes between the strings. -/
def Plain (bytes : List UInt8) : Prop := ∀ byte ∈ bytes, byte ≠ 0x28 ∧ byte ≠ 0x29

instance : DecidablePred Plain := fun bytes => inferInstanceAs (Decidable (∀ byte ∈ bytes, byte ≠ 0x28 ∧ byte ≠ 0x29))

theorem showLine_read (index : Nat) {line : List Char} (visible : '\r' ∉ line) (rest : List UInt8) :
    (showLine index line ++ rest).foldlM Lexer.read ⟨.outside, strings⟩ =
      rest.foldlM Lexer.read ⟨.outside, strings ++ [utf8 line]⟩ := by
  have before : Plain (if index = 0 then [] else ascii "T*\n") := by
    split <;> decide +kernel
  have opening : ascii "(" = [0x28] := by decide +kernel
  have closing : ascii ") Tj\n" = 0x29 :: ascii " Tj\n" := by decide +kernel
  have plain : Plain (ascii " Tj\n") := by decide +kernel
  have noReturn : 0x0D ∉ utf8 line := mt (mem_utf8 (by decide)).mp visible
  rw [showLine, opening, closing, utf8_escapePdfText, List.append_assoc, List.append_assoc, List.append_assoc,
    read_outside before]
  simp only [List.cons_append, List.nil_append]
  rw [read_literal noReturn, read_outside plain]

theorem showLines_read {shown : List (List Char)} (visible : ∀ line ∈ shown, '\r' ∉ line) (index : Nat) (rest : List UInt8) :
    ((shown.mapIdx fun i => showLine (index + i)).flatten ++ rest).foldlM Lexer.read ⟨.outside, strings⟩ =
      rest.foldlM Lexer.read ⟨.outside, strings ++ shown.map utf8⟩ := by
  induction shown generalizing index strings with
  | nil => rw [List.map_nil, List.append_nil]; rfl
  | cons line shown ih =>
    obtain ⟨here, others⟩ := List.forall_mem_cons.mp visible
    have later : (fun i => showLine (index + (i + 1))) = fun i => showLine (index + 1 + i) := by
      funext i
      rw [Nat.add_assoc, Nat.add_comm 1]
    rw [List.mapIdx_cons, List.flatten_cons, List.append_assoc, showLine_read _ here, later, ih others, List.map_cons,
      List.append_assoc]
    rfl

/-- The page shows the lines and nothing else. -/
theorem contentStream_strings {shown : List (List Char)} (visible : ∀ line ∈ shown, '\r' ∉ line) :
    readStrings (contentStream shown) = some (shown.map utf8) := by
  have first : Plain (ascii "BT\n/F1 11 Tf\n14 TL\n50 792 Td\n") := by decide +kernel
  have last : Plain (ascii "ET\n") := by decide +kernel
  have read := @showLines_read [] shown visible 0 (ascii "ET\n")
  simp only [Nat.zero_add] at read
  have ended := @read_outside (ascii "ET\n") (shown.map utf8) last []
  rw [List.append_nil] at ended
  rw [readStrings, contentStream, List.append_assoc, read_outside first, read, List.nil_append, ended]
  rfl

end Stream

section File
variable {writer : Writer} {count : Nat} {offsets : List Nat}

theorem noted_pdf (writer : Writer) (bytes : List UInt8) : (writer.note.write bytes).pdf = writer.pdf ++ bytes := rfl

/-- Behind the free entry, the table so far leads to the objects so far. -/
structure Placed (writer : Writer) (offsets : List Nat) : Prop where
  table : writer.offsets = 0 :: offsets
  start : AllStart writer.pdf 1 offsets

/-- An object is noted and then written, with its number first. -/
theorem Placed.noted (placed : Placed writer offsets) {id : Nat} (next : id = 1 + offsets.length) (body : List UInt8) :
    Placed (writer.note.write (heading id ++ body)) (offsets ++ [writer.pdf.length]) := by
  refine ⟨?_, (placed.start.longer _).next ?_⟩
  · rw [Writer.write, Writer.note, placed.table, List.cons_append]
  · rw [← next]
    rw [List.drop_left]
    exact List.prefix_append ..

theorem Placed.obj (placed : Placed writer offsets) {id : Nat} (next : id = 1 + offsets.length) (body : String) :
    Placed (writer.obj id body) (offsets ++ [writer.pdf.length]) := by
  have placed := placed.noted next (ascii body ++ ascii "\nendobj\n")
  rw [heading, ← List.append_assoc] at placed
  exact placed

theorem preamble_placed : ∃ offsets, Placed preamble offsets ∧ offsets.length = 4 := by
  have start : ∀ pdf, Placed ⟨pdf, [0]⟩ [] := fun _ => ⟨rfl, trivial⟩
  exact ⟨_, ((((start _).obj rfl _).obj rfl _).obj rfl _).obj rfl _, rfl⟩

theorem preamble_short : (∀ offset ∈ preamble.offsets, offset < 10 ^ 10) ∧ preamble.pdf.length < 10 ^ 10 := by
  decide +kernel

theorem preamble_header : ascii "%PDF-" <+: preamble.pdf := by decide +kernel

/-- A finished file gives back its table. -/
theorem finish_table (placed : Placed writer offsets) (short : ∀ offset ∈ offsets, offset < 10 ^ 10) :
    readStart writer.finish = some writer.pdf.length ∧
      ∃ rest, readTable (writer.finish.drop writer.pdf.length) = some (offsets, rest) ∧ writer.pdf <+: writer.finish := by
  have ending : ascii " /Root 1 0 R >>\nstartxref\n" = ascii " /Root 1 0 R >>\n" ++ ascii "startxref\n" := by decide +kernel
  have newline : ascii "\n" ++ ascii "0000000000 65535 f \n" = ascii "\n0000000000 65535 f \n" := by decide +kernel
  refine ⟨?_, ascii "trailer\n<< /Size " ++ (decimal writer.offsets.length ++ (ascii " /Root 1 0 R >>\nstartxref\n" ++
    (decimal writer.pdf.length ++ ascii "\n%%EOF\n"))), ?_, ?_⟩
  · rw [Writer.finish, ending]
    simp only [← List.append_assoc]
    exact readStart_file _ _
  · simp only [Writer.finish, List.append_assoc]
    rw [List.drop_left, placed.table, List.length_cons, List.drop_succ_cons, List.drop_zero,
      ← List.append_assoc (ascii "\n"), newline]
    have table := readTable_table short (ascii "trailer\n<< /Size " ++ (decimal (offsets.length + 1) ++
      (ascii " /Root 1 0 R >>\nstartxref\n" ++ (decimal writer.pdf.length ++ ascii "\n%%EOF\n"))))
    simp only [List.append_assoc] at table
    exact table
  · simp only [Writer.finish, List.append_assoc]
    exact List.prefix_append ..

theorem stream_object (bytes : List UInt8) : preamble.stream bytes = preamble.note.write (heading 5 ++
    (ascii "<< /Length " ++ decimal bytes.length ++ ascii " >>\nstream\n" ++ bytes ++ ascii "endstream\nendobj\n")) := by
  have opening : ascii "5 0 obj\n<< /Length " = heading 5 ++ ascii "<< /Length " := by decide +kernel
  rw [Writer.stream, opening]
  simp only [List.append_assoc]

/-- A page's stream and its strings are found in the finished file. -/
theorem finish_read {bytes : List UInt8} {strings : List (List UInt8)} (shows : readStrings bytes = some strings) :
    ∃ offsets, offsets.length = 5 ∧ readFile 5 (preamble.stream bytes).finish = some ⟨offsets, bytes, strings⟩ := by
  obtain ⟨offsets, placed, four⟩ := preamble_placed
  have fifth : 5 = 1 + offsets.length := by omega
  have all := placed.noted fifth
    (ascii "<< /Length " ++ decimal bytes.length ++ ascii " >>\nstream\n" ++ bytes ++ ascii "endstream\nendobj\n")
  rw [← stream_object] at all
  have short : ∀ offset ∈ offsets ++ [preamble.pdf.length], offset < 10 ^ 10 := by
    rw [List.forall_mem_append, List.forall_mem_singleton]
    refine ⟨fun offset member => preamble_short.1 offset ?_, preamble_short.2⟩
    rw [placed.table]
    exact List.mem_cons_of_mem _ member
  obtain ⟨start, rest, table, more, whole⟩ := finish_table all short
  have content : (offsets ++ [preamble.pdf.length])[5 - 1]? = some preamble.pdf.length := by
    rw [List.getElem?_append_right (by omega), four]
    rfl
  have file : (preamble.stream bytes).finish = preamble.pdf ++ (heading 5 ++ (ascii "<< /Length " ++
      decimal bytes.length ++ ascii " >>\nstream\n" ++ bytes ++ ascii "endstream\nendobj\n") ++ more) := by
    rw [← whole, stream_object, noted_pdf, List.append_assoc]
  have stream : readStream 5 ((preamble.stream bytes).finish.drop preamble.pdf.length) = some bytes := by
    have found := readStream_stream 5 bytes more
    simp only [List.append_assoc] at found
    rw [file, List.drop_left]
    simp only [List.append_assoc]
    exact found
  have header : ascii "%PDF-" <+: (preamble.stream bytes).finish := by
    rw [file]
    exact preamble_header.trans (List.prefix_append ..)
  have starts : AllStart (preamble.stream bytes).finish 1 (offsets ++ [preamble.pdf.length]) := by
    rw [← whole]
    exact all.start.longer more
  refine ⟨offsets ++ [preamble.pdf.length], by rw [List.length_append, four]; rfl, ?_⟩
  rw [readFile, start]
  simp only [Option.bind_eq_bind, Option.bind_some]
  rw [table, Option.bind_some, content, Option.bind_some, stream, Option.bind_some, shows, Option.bind_some,
    if_pos ⟨header, starts⟩]

/-- In the file that the converter writes for any text in HTML, the table leads to all five
objects, the stream is as long as it says, and its strings are the wrapped lines in order. -/
theorem receipt_read (html : String) : ∃ offsets, offsets.length = 5 ∧
    readFile 5 (htmlToPdf html) = some ⟨offsets, contentStream (wrapLines (htmlToText html.toList) 90),
      (wrapLines (htmlToText html.toList) 90).map utf8⟩ :=
  finish_read (contentStream_strings fun _ => wrapLines_visible)

end File

end ApexEdge.Proofs.ReceiptPdf
