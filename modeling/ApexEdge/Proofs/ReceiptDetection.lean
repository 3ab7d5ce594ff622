import ApexEdge.Proofs.ReceiptCommands

/-! When the printer takes an ESC/POS job for one of Star. It looks for the bytes ESC GS, which
no ESC/POS command begins with, but which data, or two commands side by side, can make up. -/

namespace ApexEdge.Proofs.ReceiptDetection
open Hardware Codepage Library ReceiptFrames ReceiptScripts
open VirtualPrinter hiding bel rs

section Windows
variable {first second : UInt8} {left right : Bytes}

theorem hasWindow_append : hasWindow first second (left ++ right) = true ↔ hasWindow first second left = true ∨
    hasWindow first second right = true ∨ left.getLast? = some first ∧ right.head? = some second := by
  induction left with
  | nil => simp [hasWindow]
  | cons one left ih =>
    cases left with
    | nil => cases right <;> simp [hasWindow, or_comm]
    | cons other left =>
      rw [List.cons_append, List.cons_append, hasWindow, hasWindow, Bool.or_eq_true, Bool.or_eq_true, ← List.cons_append, ih,
        List.getLast?_cons_cons, or_assoc]

theorem hasWindow_cons {byte : UInt8} : hasWindow first second (byte :: right) = true ↔
    hasWindow first second right = true ∨ byte = first ∧ right.head? = some second := by
  cases right <;> simp [hasWindow, or_comm]

theorem hasWindow_mem (found : hasWindow first second left = true) : first ∈ left := by
  induction left with
  | nil => cases found
  | cons one left ih =>
    cases left with
    | nil => cases found
    | cons other left =>
      rw [hasWindow, Bool.or_eq_true, Bool.and_eq_true, beq_iff_eq] at found
      obtain ⟨rfl, _⟩ | later := found
      · exact List.mem_cons_self
      · exact List.mem_cons_of_mem _ (ih later)

end Windows

/-- What follows does not matter to the bytes that come before. -/
def Sealed (bytes : Bytes) : Prop := ∀ rest, hasWindow esc gs (bytes ++ rest) = hasWindow esc gs rest

theorem sealed_of {bytes : Bytes} (quiet : hasWindow esc gs bytes = false) (ends : bytes.getLast? ≠ some esc) :
    Sealed bytes := by
  intro rest
  rw [Bool.eq_iff_iff, hasWindow_append, quiet]
  simp only [Bool.false_eq_true, ends, false_and, or_false, false_or]

theorem Sealed.append {left right : Bytes} (first : Sealed left) (last : Sealed right) : Sealed (left ++ right) := by
  intro rest
  rw [List.append_assoc, first, last]

theorem Sealed.given {condition : Prop} [Decidable condition] {bytes : Bytes} (sealing : Sealed bytes) :
    Sealed (if condition then bytes else []) := by
  split
  · exact sealing
  · exact fun _ => rfl

section Style
variable {style wanted : TextStyle} {body : Bytes}

theorem style_sealed (style wanted : TextStyle) : Sealed (EscPos.dialect.applyStyle style wanted) := by
  have align : Sealed (EscPos.setAlign wanted.align) := by
    cases wanted.align <;> exact sealed_of rfl (by decide)
  have bold : Sealed (EscPos.setBold wanted.bold) := by
    cases wanted.bold <;> exact sealed_of rfl (by decide)
  have size : Sealed (EscPos.setSize wanted.size) := by
    cases wanted.size <;> exact sealed_of rfl (by decide)
  exact (align.given.append bold.given).append size.given

theorem style_head : (EscPos.dialect.applyStyle style wanted ++ body).head? = some gs ↔
    style.align = wanted.align ∧ style.bold = wanted.bold ∧ (style.size ≠ wanted.size ∨ body.head? = some gs) := by
  by_cases align : style.align = wanted.align
  · by_cases bold : style.bold = wanted.bold
    · by_cases size : style.size = wanted.size
      · simp [Hardware.Dialect.applyStyle, align, bold, size]
      · simp [Hardware.Dialect.applyStyle, align, bold, size, EscPos.dialect, EscPos.setSize]
    · simp [Hardware.Dialect.applyStyle, align, bold, EscPos.dialect, EscPos.setBold]
      decide
  · simp [Hardware.Dialect.applyStyle, align, EscPos.dialect, EscPos.setAlign]
    decide

end Style

/-- ESC GS inside of what the element itself is printed with. -/
def Slips : ReceiptElement → Prop
  | .barcode symbology data => hasWindow esc gs (asBytes data) = true ∨
      (symbology ≠ .code128 ∧ (asBytes data).length = 27 ∧ (asBytes data).head? = some gs)
  | .qrCode data => (asBytes data).length = 7448
  | _ => False

def EndsInEsc : ReceiptElement → Prop
  | .feed lines => lines = 27
  | .barcode _ data => (asBytes data).getLast? = some esc
  | _ => False

/-- Codes and the cut are printed with commands that begin with GS. -/
def SaysGs : ReceiptElement → Prop
  | .barcode .. | .qrCode _ | .cut => True
  | _ => False

/-- No command of the style comes first that begins with ESC. -/
def StartsWithGs (style : TextStyle) (element : ReceiptElement) : Prop :=
  style.align = (element.styleAfter style).align ∧ style.bold = (element.styleAfter style).bold ∧
    (style.size ≠ (element.styleAfter style).size ∨ SaysGs element)

/-- Whether ESC GS comes up in a sequence of elements, the first in the given style. -/
def Misread (style : TextStyle) : List ReceiptElement → Prop
  | [] => False
  | element :: rest => Slips element ∨
      (EndsInEsc element ∧ ∃ next ∈ rest.head?, StartsWithGs (element.styleAfter style) next) ∨
      Misread (element.styleAfter style) rest

/-- Text that the code page prints as it is, barcodes that are valid, and QR codes of
printable ASCII. -/
def Admissible : ReceiptElement → Prop
  | .text content _ => ∀ ch ∈ content.toList, Printable ch
  | .columns left right => (∀ ch ∈ left.toList, Printable ch) ∧ ∀ ch ∈ right.toList, Printable ch
  | .barcode symbology data => ∃ bytes, validateBarcode symbology data = .ok bytes
  | .qrCode data => ∀ ch ∈ data.toList, 0x20 ≤ ch.toNat ∧ ch.toNat ≤ 0x7E
  | .divider | .feed _ | .cut => True

/-- What is known of the bytes of an element. -/
structure Marks (style : TextStyle) (element : ReceiptElement) (bytes : Bytes) : Prop where
  nonempty : bytes ≠ []
  slips : hasWindow esc gs bytes = true ↔ Slips element
  ends : bytes.getLast? = some esc ↔ EndsInEsc element
  starts : bytes.head? = some gs ↔ StartsWithGs style element

section Elements
variable {style : TextStyle} {width : Nat} {element : ReceiptElement} {bytes body : Bytes}

theorem style_same (style : TextStyle) : EscPos.dialect.applyStyle style style = [] := by
  simp only [Hardware.Dialect.applyStyle, ne_eq, not_true_eq_false, if_false, List.append_nil]

/-- The style in front changes only how an element starts. -/
theorem Marks.styled (nonempty : body ≠ []) (slips : hasWindow esc gs body = true ↔ Slips element)
    (ends : body.getLast? = some esc ↔ EndsInEsc element)
    (starts : body.head? = some gs ↔ SaysGs element) :
    Marks style element (EscPos.dialect.applyStyle style (element.styleAfter style) ++ body) where
  nonempty := List.append_ne_nil_of_right_ne_nil _ nonempty
  slips := by rw [style_sealed, slips]
  ends := by rw [List.getLast?_append_of_ne_nil _ nonempty, ends]
  starts := by rw [style_head, starts, StartsWithGs]

/-- An element of nothing but lines. -/
theorem Marks.lines {lines : List Bytes} (some : lines ≠ []) (plain : ∀ line ∈ lines, ∀ byte ∈ line, ¬ Starts byte)
    (slips : ¬ Slips element) (ends : ¬ EndsInEsc element) (spoken : ¬ SaysGs element) :
    Marks style element (EscPos.dialect.applyStyle style (element.styleAfter style) ++ lines.flatMap withLineFeed) := by
  have harmless : ∀ byte ∈ lines.flatMap withLineFeed, ¬ Starts byte := by
    intro byte member
    obtain ⟨line, inside, member⟩ := List.mem_flatMap.mp member
    obtain member | ends := List.mem_append.mp member
    · exact plain line inside byte member
    · rw [List.mem_singleton.mp ends]
      decide
  refine .styled ?_ (iff_of_false ?_ slips) (iff_of_false ?_ ends) (iff_of_false ?_ spoken)
  · obtain ⟨line, lines, rfl⟩ := List.exists_cons_of_ne_nil some
    rw [List.flatMap_cons, withLineFeed, List.append_assoc]
    exact List.append_ne_nil_of_right_ne_nil _ (List.cons_ne_nil _ _)
  · exact fun found => harmless esc (hasWindow_mem found) (.inl rfl)
  · exact fun last => harmless esc (List.mem_of_getLast? last) (.inl rfl)
  · exact fun head => harmless gs (List.mem_of_head? head) (.inr (.inl rfl))

theorem ofNat_eq {n : Nat} {byte : UInt8} (fits : n < 2 ^ 8) : UInt8.ofNat n = byte ↔ n = byte.toNat := by
  rw [← UInt8.toNat_inj, UInt8.toNat_ofNat', Nat.mod_eq_of_lt fits]

/-- A barcode command up to the length of its data. -/
def barcodeHead (symbology : Symbology) : Bytes :=
  [gs, 0x68, EscPos.barcodeHeightDots, gs, 0x77, EscPos.barcodeModuleWidth, gs, 0x48, 2,
    gs, 0x6B, EscPos.symbologyCode symbology]

/-- The commands for a QR code up to the length of its data. -/
def qrHead : Bytes :=
  [gs, 0x28, 0x6B, 0x04, 0x00, 0x31, 0x41, 0x32, 0x00, gs, 0x28, 0x6B, 0x03, 0x00, 0x31, 0x43, EscPos.qrModuleSize,
    gs, 0x28, 0x6B, 0x03, 0x00, 0x31, 0x45, 0x31, gs, 0x28, 0x6B]

theorem barcode_marks {symbology : Symbology} {data : Bytes} (nonempty : data ≠ [])
    (encoded : EscPos.barcode symbology data = .ok body) :
    body ≠ [] ∧ (hasWindow esc gs body = true ↔ hasWindow esc gs data = true ∨
      (symbology ≠ .code128 ∧ data.length = 27 ∧ data.head? = some gs)) ∧
      (body.getLast? = some esc ↔ data.getLast? = some esc) ∧ body.head? = some gs := by
  rw [EscPos.barcode] at encoded
  split at encoded
  · rename_i fits
    cases encoded
    have head : Sealed (barcodeHead symbology) := by
      cases symbology <;> exact sealed_of rfl (by decide)
    refine ⟨List.cons_ne_nil _ _, ?_, ?_, rfl⟩
    · change hasWindow esc gs (barcodeHead symbology ++ UInt8.ofNat _ :: EscPos.barcodePayload symbology data) = true ↔ _
      rw [head, hasWindow_cons, ofNat_eq fits]
      by_cases epson : symbology = .code128
      · have codeSet : Sealed [0x7B, 0x42] := sealed_of rfl (by decide)
        have other : ([0x7B, 0x42] ++ data).head? ≠ some gs := fun same => absurd (Option.some.inj same) (by decide)
        rw [EscPos.barcodePayload, if_pos epson, codeSet]
        simp only [other, and_false, or_false, epson, ne_eq, not_true_eq_false, false_and]
      · rw [EscPos.barcodePayload, if_neg epson, List.nil_append, and_iff_right epson]
        rfl
    · have some : EscPos.barcodePayload symbology data ≠ [] := List.append_ne_nil_of_right_ne_nil _ nonempty
      rw [List.getLast?_append_of_ne_nil _ some, EscPos.barcodePayload, List.getLast?_append_of_ne_nil _ nonempty]
  · cases encoded

theorem qr_marks {data : Bytes} (plain : ∀ byte ∈ data, ¬ Starts byte) (encoded : EscPos.qr data = .ok body) :
    body ≠ [] ∧ (hasWindow esc gs body = true ↔ data.length = 7448) ∧ body.getLast? ≠ some esc ∧ body.head? = some gs := by
  rw [EscPos.qr] at encoded
  split at encoded
  · rename_i fits
    cases encoded
    have head : Sealed qrHead := sealed_of rfl (by decide)
    have stored : Sealed data := by
      refine sealed_of (Bool.eq_false_iff.mpr fun found => plain esc (hasWindow_mem found) (.inl rfl)) fun last => ?_
      exact plain esc (List.mem_of_getLast? last) (.inl rfl)
    refine ⟨List.cons_ne_nil _ _, ?_, ?_, rfl⟩
    · have command : Sealed [0x31, 0x50, 0x30] := sealed_of rfl (by decide)
      change hasWindow esc gs (qrHead ++ UInt8.ofNat ((data.length + 3) % 256) :: UInt8.ofNat ((data.length + 3) / 256) ::
        ([0x31, 0x50, 0x30] ++ data ++ [gs, 0x28, 0x6B, 0x03, 0x00, 0x31, 0x51, 0x30])) = true ↔ _
      rw [head, hasWindow_cons, hasWindow_cons, List.append_assoc, command, stored]
      have low : (data.length + 3) % 256 < 2 ^ 8 := Nat.mod_lt _ (by decide)
      have high : (data.length + 3) / 256 < 2 ^ 8 := Nat.div_lt_of_lt_mul fits
      have quiet : hasWindow esc gs [gs, 0x28, 0x6B, 0x03, 0x00, 0x31, 0x51, 0x30] = false := rfl
      have apart : (0x31 : UInt8) ≠ gs := by decide
      rw [quiet]
      simp only [List.cons_append, List.head?_cons, Option.some.injEq, apart, and_false, Bool.false_eq_true, false_or,
        ofNat_eq low, ofNat_eq high]
      change (data.length + 3) % 256 = 27 ∧ (data.length + 3) / 256 = 29 ↔ _
      omega
    · rw [List.getLast?_append_of_ne_nil _ (List.cons_ne_nil _ _)]
      decide
  · cases encoded

theorem admissible_harmless (width : Nat) (admissible : Admissible element) : ReceiptCommands.Harmless width element := by
  cases element with
  | text content style => exact fun ch member => printable_plain (admissible ch member)
  | columns left right =>
    intro ch member
    obtain label | value := List.mem_append.mp member
    · exact printable_plain (admissible.1 ch (kept_mem label))
    · exact printable_plain (admissible.2 ch value)
  | divider | feed _ | barcode _ _ | qrCode _ | cut => exact fun _ impossible => nomatch impossible

theorem asBytes_ascii {data : String} (ascii : ∀ ch ∈ data.toList, ch.toNat < 128) :
    asBytes data = data.toList.map fun ch => UInt8.ofNat ch.toNat := by
  rw [asBytes, List.map_eq_flatMap]
  refine List.flatMap_congr fun ch member => ?_
  rw [String.utf8EncodeChar_eq_singleton]
  · rfl
  · rw [Char.utf8Size_eq_one_iff, UInt32.le_iff_toNat_le]
    exact Nat.le_of_lt_succ (ascii ch member)

theorem ascii_plain : ∀ n ≤ 0x7E, 0x20 ≤ n → ¬ Starts (UInt8.ofNat n) := by
  decide +kernel

theorem asBytes_plain {data : String} (printable : ∀ ch ∈ data.toList, 0x20 ≤ ch.toNat ∧ ch.toNat ≤ 0x7E) :
    ∀ byte ∈ asBytes data, ¬ Starts byte := by
  intro byte member
  rw [asBytes_ascii fun ch inside => Nat.lt_succ_of_lt (Nat.lt_succ_of_le (printable ch inside).2)] at member
  obtain ⟨ch, inside, rfl⟩ := List.mem_map.mp member
  exact ascii_plain ch.toNat (printable ch inside).2 (printable ch inside).1

theorem validateBarcode_data {symbology : Symbology} {data : String} (valid : validateBarcode symbology data = .ok bytes) :
    data.toList ≠ [] ∧ ∀ ch ∈ data.toList, ch.toNat < 128 := by
  unfold validateBarcode at valid
  split at valid
  · cases valid
  · rename_i some
    split at valid
    · cases valid
    · rename_i ascii
      refine ⟨some, fun ch member => ?_⟩
      have all := List.all_eq_true.mp (not_not.mp ascii) ch member
      exact of_decide_eq_true all

theorem element_marks (admissible : Admissible element)
    (encoded : encodeElement EscPos.dialect width style element = .ok bytes) : Marks style element bytes := by
  have harmless := admissible_harmless width admissible
  cases element with
  | text content wanted =>
    rw [encodeElement] at encoded
    cases laid : layoutText content (width / wanted.size.widthMultiple) with
    | none =>
      rw [laid] at encoded
      cases encoded
    | some lines =>
      rw [laid] at encoded
      cases encoded
      have plain := List.forall_mem_map.mp ((ReceiptCommands.clean_text laid).mpr harmless)
      exact .lines (ReceiptLayout.lines_some laid) plain not_false not_false not_false
  | columns left right =>
    cases encoded
    have plain := (ReceiptCommands.clean_columns left right).mpr harmless
    have marks : Marks style (.columns left right) _ := .lines (List.cons_ne_nil _ [])
      (List.forall_mem_singleton.mpr plain) not_false not_false not_false
    rwa [List.flatMap_singleton] at marks
  | divider =>
    cases encoded
    have marks : Marks style .divider _ := .lines (List.cons_ne_nil _ [])
      (List.forall_mem_singleton.mpr (ReceiptCommands.clean_divider width)) not_false not_false not_false
    rwa [List.flatMap_singleton] at marks
  | feed lines =>
    cases encoded
    have ends : (EscPos.feed lines).getLast? = some esc ↔ EndsInEsc (.feed lines) := by
      simp only [EscPos.feed, List.getLast?_cons_cons, List.getLast?_singleton, Option.some.injEq, EndsInEsc]
    have marks : Marks style (.feed lines) (_ ++ EscPos.feed lines) := .styled (List.cons_ne_nil _ _)
      (iff_of_false Bool.false_ne_true not_false) ends
      (iff_of_false (fun same => absurd (Option.some.inj same) (by decide)) not_false)
    rwa [ReceiptElement.styleAfter, style_same] at marks
  | barcode symbology data =>
    obtain ⟨valid, checked, encoded⟩ := bind_eq_ok encoded
    obtain ⟨body, wrote, done⟩ := bind_eq_ok encoded
    cases done
    obtain ⟨some, ascii⟩ := validateBarcode_data (refusing_ok.mp checked)
    have nonempty : asBytes data ≠ [] := by rwa [asBytes_ascii ascii, ne_eq, List.map_eq_nil_iff]
    rw [validateBarcode_ok (refusing_ok.mp checked)] at wrote
    obtain ⟨body_some, slips, ends, starts⟩ := barcode_marks nonempty (refusing_ok.mp wrote)
    exact .styled body_some slips ends (iff_of_true starts trivial)
  | qrCode data =>
    rw [encodeElement] at encoded
    split at encoded
    · cases encoded
    · obtain ⟨body, wrote, done⟩ := bind_eq_ok encoded
      cases done
      have plain := asBytes_plain admissible
      obtain ⟨body_some, slips, ends, starts⟩ := qr_marks plain (refusing_ok.mp wrote)
      exact .styled body_some slips (iff_of_false ends not_false) (iff_of_true starts trivial)
  | cut =>
    cases encoded
    have marks : Marks style .cut (_ ++ EscPos.cut) := .styled (List.cons_ne_nil _ _)
      (iff_of_false Bool.false_ne_true not_false) (iff_of_false (by decide) not_false) (iff_of_true rfl trivial)
    rwa [ReceiptElement.styleAfter, style_same] at marks

/-- The elements of a document, in the style that the ones before left. -/
theorem elements_marks {elements : List ReceiptElement} (admissible : ∀ element ∈ elements, Admissible element)
    (encoded : encodeElements EscPos.dialect width style elements = .ok bytes) :
    (hasWindow esc gs bytes = true ↔ Misread style elements) ∧
      (bytes.head? = some gs ↔ ∃ next ∈ elements.head?, StartsWithGs style next) := by
  induction elements generalizing style bytes with
  | nil =>
    cases encoded
    exact ⟨iff_of_false Bool.false_ne_true not_false, iff_of_false (by simp) (by simp)⟩
  | cons element rest ih =>
    obtain ⟨first, head, encoded⟩ := bind_eq_ok encoded
    obtain ⟨others, tail, done⟩ := bind_eq_ok encoded
    cases done
    have marks := element_marks (admissible element List.mem_cons_self) head
    obtain ⟨slips, starts⟩ := ih (fun other member => admissible other (List.mem_cons_of_mem _ member)) tail
    constructor
    · rw [hasWindow_append, marks.slips, marks.ends, slips, starts, Misread, or_comm (a := Misread _ _)]
    · rw [List.head?_append_of_ne_nil _ marks.nonempty, marks.starts]
      simp

/-- The printer knows an ESC/POS job as one, unless ESC GS comes up in it. -/
theorem detected_escPos {doc : ReceiptDocument} (admissible : ∀ element ∈ doc.elements, Admissible element)
    (encoded : EscPos.encode doc = .ok bytes) : detectDialect bytes = .escPos ↔ ¬ Misread .default doc.elements := by
  obtain ⟨body, wrote, rfl⟩ := document_bytes encoded
  have start : Sealed EscPos.initialise := sealed_of rfl (by decide)
  have some : EscPos.initialise ++ body ≠ [] := List.cons_ne_nil _ _
  have codePage : hasWindow esc 0x74 (EscPos.initialise ++ body) = true := rfl
  change detectDialect (EscPos.initialise ++ body) = _ ↔ _
  rw [← (elements_marks admissible wrote).1, detectDialect, if_neg some, start, codePage, Bool.true_or, if_pos rfl]
  split
  · rename_i found
    exact iff_of_false (nomatch ·) (not_not_intro found)
  · rename_i none
    exact iff_of_true rfl none

theorem detected_star {doc : ReceiptDocument} (encoded : Star.encode doc = .ok bytes) :
    detectDialect bytes = .starLineMode := by
  obtain ⟨body, _, rfl⟩ := document_bytes encoded
  have some : Star.initialise ++ body ≠ [] := List.cons_ne_nil _ _
  have codePage : hasWindow esc gs (Star.initialise ++ body) = true := rfl
  change detectDialect (Star.initialise ++ body) = _
  rw [detectDialect, if_neg some, if_pos codePage]

end Elements

end ApexEdge.Proofs.ReceiptDetection
