import Mathlib.Data.List.Flatten
import ApexEdge.Proofs.ReceiptPdf
import ApexEdge.Proofs.ReceiptWords

/-! Whether a receipt's page shows all of its text. There is one page, lines are not broken
within a word, and what the converter takes for a tag is not shown. -/

namespace ApexEdge.Proofs.ReceiptPage
open Printing Library.HtmlText Library.PdfFile Library.Words Library.Wrapping Sync ReceiptPdf ReceiptWords

section Kept
variable {α β : Type} {items : List α}

/-- Who keeps as much as there was has dropped nothing. -/
theorem all_kept (parts : α → List β) (good : α → Bool) (some : ∀ item ∈ items, parts item ≠ [])
    (kept : (items.flatMap parts).length ≤ ((items.filter good).flatMap parts).length) : ∀ item ∈ items, good item = true := by
  have fewer : ∀ items : List α, ((items.filter good).flatMap parts).length ≤ (items.flatMap parts).length := fun items =>
    (List.filter_sublist.flatMap parts).length_le
  induction items with
  | nil => exact fun _ impossible => (nomatch impossible)
  | cons item items ih =>
    obtain ⟨here, others⟩ := List.forall_mem_cons.mp some
    have long := List.length_pos_of_ne_nil here
    have less := fewer items
    cases is : good item with
    | true =>
      rw [List.filter_cons_of_pos is, List.flatMap_cons, List.flatMap_cons, List.length_append, List.length_append] at kept
      exact List.forall_mem_cons.mpr ⟨is, ih others (by omega)⟩
    | false =>
      rw [List.filter_cons_of_neg (by rw [is]; decide), List.flatMap_cons, List.length_append] at kept
      omega

end Kept

/-- The text starts at 792, and every other line is 14 below the one before it. -/
def baseline (index : Nat) : Int := 792 - 14 * index

/-- The page reaches from 0 to 842. -/
def OnPage (index : Nat) : Prop := 0 ≤ baseline index ∧ baseline index ≤ 842

instance : DecidablePred OnPage := fun index => inferInstanceAs (Decidable (0 ≤ baseline index ∧ baseline index ≤ 842))

def pageLines (html : String) : List (List Char) := wrapLines (htmlToText html.toList) 90

/-- The lines on the page that are not too long. -/
def readable (html : String) : List (List Char) :=
  ((pageLines html).zipIdx.filter fun (line, index) => OnPage index ∧ line.length ≤ 90).map Prod.fst

def textOf (html : String) : List Char := receipt.text html.toList

/-- The file shows the page's lines, and every word of the text is on one that can be read. -/
structure ShowsAll (html : String) : Prop where
  file : ∃ offsets stream, readFile 5 (htmlToPdf html) = some ⟨offsets, stream, (pageLines html).map utf8⟩
  shown : (words isWhitespace (textOf html)).Sublist ((readable html).flatMap (words isWhitespace))

/-- The lines of the text can be broken into few enough rows that are short enough. -/
def FitsPage (html : String) : Prop := ∃ rows : List (List (List (List Char))),
  List.Forall₂ (fun line rows => Division 90 (words isWhitespace line) rows) (lines (textOf html)) rows ∧
    rows.flatten.length ≤ 57

variable {html : String} {text : List Char}

theorem onPage_iff (index : Nat) : OnPage index ↔ index < 57 := by
  unfold OnPage baseline
  omega

theorem rows_words {rows : List (List (List Char))} (visible : ∀ row ∈ rows, ∀ word ∈ row, word ≠ [] ∧ ∀ c ∈ word, isWhitespace c = false) :
    (rows.map joined).flatMap (words isWhitespace) = rows.flatten := by
  induction rows with
  | nil => rfl
  | cons row rows ih =>
    obtain ⟨here, others⟩ := List.forall_mem_cons.mp visible
    rw [List.map_cons, List.flatMap_cons, joined_words here, ih others, List.flatten_cons]

theorem rowsOf_words (text : List Char) : (rowsOf 90 text).flatten = words isWhitespace text := by
  rw [← words_lines, rowsOf]
  induction lines text with
  | nil => rfl
  | cons line more ih =>
    rw [List.flatMap_cons, List.flatten_append, greedy_flatten, ih]
    rfl

/-- The lines of the page have all words of the converter's text. -/
theorem wrapLines_words (text : List Char) : (wrapLines text 90).flatMap (words isWhitespace) = words isWhitespace text := by
  rw [wrapLines_rows, ← rowsOf_words]
  split
  · rename_i none
    rw [none]
    decide
  · exact rows_words fun row member => (mem_rows member).2

theorem readable_sublist (html : String) :
    ((readable html).flatMap (words isWhitespace)).Sublist (words isWhitespace (htmlToText html.toList)) := by
  rw [← wrapLines_words]
  have kept := (List.filter_sublist (p := fun (line, index) => OnPage index ∧ line.length ≤ 90)
    (l := (pageLines html).zipIdx)).map Prod.fst
  rw [List.zipIdx_map_fst] at kept
  exact kept.flatMap _

/-- A row of words for each line, unless there are none. -/
theorem pageLines_rows (text : List Char) :
    rowsOf 90 text = [] ∧ words isWhitespace text = [] ∨ wrapLines text 90 = (rowsOf 90 text).map joined := by
  rw [wrapLines_rows]
  split
  · rename_i none
    refine .inl ⟨none, ?_⟩
    rw [← rowsOf_words, none]
    rfl
  · exact .inr rfl

/-- All words are read where every line is on the page and short enough. -/
theorem readable_all (all : ∀ entry ∈ (pageLines html).zipIdx, OnPage entry.2 ∧ entry.1.length ≤ 90) :
    readable html = pageLines html := by
  have kept : (pageLines html).zipIdx.filter (fun (line, index) => OnPage index ∧ line.length ≤ 90) = (pageLines html).zipIdx :=
    List.filter_eq_self.mpr fun entry member => decide_eq_true (all entry member)
  rw [readable, kept, List.zipIdx_map_fst]

/-- Where all words are read, every row is on the page and short enough. -/
theorem rows_good (text : List Char) (rows : pageLines html = (rowsOf 90 text).map joined)
    (shown : (words isWhitespace text).Sublist ((readable html).flatMap (words isWhitespace))) :
    (rowsOf 90 text).length ≤ 57 ∧ ∀ row ∈ rowsOf 90 text, width row ≤ 90 := by
  have visible : ∀ row ∈ rowsOf 90 text, words isWhitespace (joined row) = row := fun row member =>
    joined_words (mem_rows member).2
  have whole : (pageLines html).zipIdx.flatMap (fun entry => words isWhitespace entry.1) = words isWhitespace text := by
    rw [← List.flatMap_map, List.zipIdx_map_fst, rows, rows_words fun row member => (mem_rows member).2, rowsOf_words]
  have good : ∀ entry ∈ (pageLines html).zipIdx, OnPage entry.2 ∧ entry.1.length ≤ 90 := by
    refine fun entry member => of_decide_eq_true (all_kept (fun entry => words isWhitespace entry.1)
      (fun (line, index) => OnPage index ∧ line.length ≤ 90) ?_ ?_ entry member)
    · intro entry member
      have inside : entry.1 ∈ pageLines html := List.fst_mem_of_mem_zipIdx member
      rw [rows] at inside
      obtain ⟨row, there, same⟩ := List.mem_map.mp inside
      rw [← same, visible row there]
      exact (mem_rows there).1
    · rw [whole]
      have less := shown.length_le
      rw [readable, List.flatMap_map] at less
      exact less
  have placed : ∀ index row, (rowsOf 90 text)[index]? = some row → index < 57 ∧ width row ≤ 90 := by
    intro index row here
    have member : (joined row, index) ∈ (pageLines html).zipIdx := by
      rw [List.mk_mem_zipIdx_iff_getElem?, rows, List.getElem?_map, here]
      rfl
    obtain ⟨onPage, short⟩ := good _ member
    exact ⟨(onPage_iff index).mp onPage, joined_length row ▸ short⟩
  refine ⟨Nat.le_of_not_lt fun long => ?_, fun row member => ?_⟩
  · exact absurd (placed 57 _ (List.getElem?_eq_getElem long)).1 (Nat.lt_irrefl 57)
  · obtain ⟨index, here⟩ := List.mem_iff_getElem?.mp member
    exact (placed index row here).2

/-- Rows that are few and short enough are few and short enough when each is filled. -/
theorem rows_fit (fits : FitsPage html) : (rowsOf 90 (textOf html)).length ≤ 57 ∧ ∀ row ∈ rowsOf 90 (textOf html), width row ≤ 90 := by
  obtain ⟨rows, divided, few⟩ := fits
  have fewest : ∀ {texts : List (List Char)} {rows : List (List (List (List Char)))},
      List.Forall₂ (fun line rows => Division 90 (words isWhitespace line) rows) texts rows →
      (texts.flatMap fun line => greedy 90 [] (words isWhitespace line)).length ≤ rows.flatten.length ∧
        ∀ row ∈ texts.flatMap fun line => greedy 90 [] (words isWhitespace line), width row ≤ 90 := by
    intro texts rows divided
    induction divided with
    | nil => exact ⟨Nat.le_refl _, fun _ impossible => (nomatch impossible)⟩
    | @cons line own texts rows here _ ih =>
      have least : (greedy 90 [] (words isWhitespace line)).length ≤ own.length := greedy_fewest here
      have short : ∀ word ∈ words isWhitespace line, word.length ≤ 90 := by
        intro word member
        rw [← here.whole] at member
        obtain ⟨row, inside, stands⟩ := List.mem_flatten.mp member
        exact Nat.le_trans (length_le_width stands) (here.fits row inside)
      rw [List.flatMap_cons, List.length_append, List.flatten_cons, List.length_append]
      refine ⟨Nat.add_le_add least ih.1, List.forall_mem_append.mpr ⟨greedy_fits short (Nat.zero_le _), ih.2⟩⟩
  obtain ⟨least, short⟩ := fewest divided
  exact ⟨Nat.le_trans least few, short⟩

theorem fits_rows (few : (rowsOf 90 (textOf html)).length ≤ 57) (short : ∀ row ∈ rowsOf 90 (textOf html), width row ≤ 90) :
    FitsPage html := by
  refine ⟨(lines (textOf html)).map fun line => greedy 90 [] (words isWhitespace line), ?_, ?_⟩
  · rw [List.forall₂_map_right_iff, List.forall₂_same]
    intro line member
    refine ⟨greedy_flatten 90 [] _, greedy_filled 90 [] _, fun row inside => short row ?_⟩
    exact List.mem_flatMap.mpr ⟨line, member, inside⟩
  · rw [← List.flatMap_def]
    exact few

/-- Every word of a receipt can be read on its page exactly when the converter takes just the
tags for tags and reads each reference once, and the words fit on one page in lines of the
page's width. -/
theorem shows_all_iff (html : String) : ShowsAll html ↔ Clean false html.toList ∧ FitsPage html := by
  have file : ∃ offsets stream, readFile 5 (htmlToPdf html) = some ⟨offsets, stream, (pageLines html).map utf8⟩ := by
    obtain ⟨offsets, _, read⟩ := finish_read (contentStream_strings fun line =>
      @wrapLines_visible 90 (htmlToText html.toList) line)
    exact ⟨offsets, _, read⟩
  constructor
  · intro ⟨_, shown⟩
    have least := (shown.trans (readable_sublist html)).flatten.length_le
    have most := weight_le html.toList none none false false id
    rw [← weight_words, ← weight_words, htmlToText_decode] at least
    have clean := clean_of_weight html.toList none false false (Nat.le_antisymm most least)
    have same : htmlToText html.toList = textOf html := (htmlToText_decode _).trans (converter_clean _ none false clean)
    refine ⟨clean, ?_⟩
    rcases pageLines_rows (htmlToText html.toList) with ⟨none, _⟩ | rows
    · rw [same] at none
      refine fits_rows ?_ ?_ <;> rw [none]
      · exact Nat.zero_le _
      · exact fun _ impossible => (nomatch impossible)
    · rw [same] at rows
      obtain ⟨few, short⟩ := rows_good (textOf html) (by rw [pageLines, same, rows]) shown
      exact fits_rows few short
  · intro ⟨clean, fits⟩
    have same : htmlToText html.toList = textOf html := (htmlToText_decode _).trans (converter_clean _ none false clean)
    obtain ⟨few, short⟩ := rows_fit fits
    refine ⟨file, ?_⟩
    rcases pageLines_rows (htmlToText html.toList) with ⟨_, none⟩ | rows
    · rw [same] at none
      rw [none]
      exact List.nil_sublist _
    · have all : ∀ entry ∈ (pageLines html).zipIdx, OnPage entry.2 ∧ entry.1.length ≤ 90 := by
        intro entry member
        rw [pageLines, rows, same] at member
        have here := List.mem_zipIdx_iff_getElem?.mp member
        rw [List.getElem?_map] at here
        obtain ⟨row, found, joins⟩ := Option.map_eq_some_iff.mp here
        have within := (List.getElem?_eq_some_iff.mp found).1
        refine ⟨(onPage_iff _).mpr (Nat.lt_of_lt_of_le within few), ?_⟩
        rw [← joins, joined_length]
        exact short row (List.mem_of_getElem? found)
      rw [readable_all all, pageLines, wrapLines_words, same]

/-- A receipt of 58 lines. -/
def longReceipt : String := String.ofList (List.replicate 58 ['x', '\n']).flatten

/-- The last line is shown below the page. -/
theorem long_receipt_lost : ¬∀ html : String, ShowsAll html := by
  intro all
  exact absurd (all longReceipt).shown (by decide +kernel)

end ApexEdge.Proofs.ReceiptPage
