import ApexEdge.Proofs.ReceiptDetection

/-! A receipt encoded for a printer and read back off the paper, in both dialects. -/

namespace ApexEdge.Proofs.ReceiptRoundTrip
open Hardware Codepage Library ReceiptFrames ReceiptScripts ReceiptDetection
open VirtualPrinter hiding esc gs bel rs

/-- What can be read off the paper. -/
inductive Printed where
  | line (text : String) (style : LineStyle)
  | blank
  | barcode (symbology data : String)
  | qrCode (data : String)
  | cut
  | drawerKick
  deriving DecidableEq

/-- A line without text is a blank one, whatever its style. -/
def printedLine (text : String) (style : LineStyle) : Printed := if text = "" then .blank else .line text style

def printed : DecodedElement → List Printed
  | .line text style => [printedLine text style]
  | .feed lines => List.replicate lines.toNat .blank
  | .barcode symbology data => [.barcode symbology data]
  | .qrCode data => [.qrCode data]
  | .cut => [.cut]
  | .drawerKick => [.drawerKick]

def lineStyle (style : TextStyle) : LineStyle := ⟨alignOf style.align, style.bold, isWide style.size, isTall style.size⟩

/-- What the layout prescribes for an element, character for character. -/
def prescribed (width : Nat) : ReceiptElement → List Printed
  | .text content style =>
    ((layoutCells ' ' content.toList (width / style.size.widthMultiple)).getD []).map fun line =>
      printedLine (String.ofList line) (lineStyle style)
  | .columns left right =>
    [printedLine (String.ofList (layoutRow ' ' left.toList right.toList width)) (lineStyle .default)]
  | .divider => [printedLine (String.ofList (List.replicate width '-')) (lineStyle .default)]
  | .feed lines => List.replicate lines.toNat .blank
  | .barcode symbology data => [.barcode (labelOf symbology) data]
  | .qrCode data => [.qrCode data]
  | .cut => [.cut]

/-- The job is known for what it is, and reads as the document prescribes. -/
def RoundTrips (encode : ReceiptDocument → Except EncodeFailure Bytes) (printer : VirtualPrinter.Dialect)
    (doc : ReceiptDocument) : Prop :=
  ∃ bytes job, encode doc = .ok bytes ∧ decodeJob bytes = some job ∧ job.dialect = printer ∧ job.warnings = [] ∧
    job.elements.flatMap printed = doc.elements.flatMap (prescribed doc.widthChars)

/-- Each line is wide enough for a glyph, or has none to print. -/
def Fits (width : Nat) : ReceiptElement → Prop
  | .text content style => width < style.size.widthMultiple → ∀ ch ∈ content.toList, ch = ' '
  | _ => True

/-- Barcode data that the printer takes for a code set and the rest, and no code set was put before it. -/
def Loses (adds : Symbology → Bool) : ReceiptElement → Prop
  | .barcode symbology data => adds symbology = false ∧ ['\x7B', 'B'] <+: data.toList
  | _ => False

section Encoding
variable {dialect : Hardware.Dialect} {width : Nat} {style : TextStyle} {element : ReceiptElement}
  {elements : List ReceiptElement} {bytes : Bytes}

theorem layoutText_some {content : String} (printable : ∀ ch ∈ content.toList, Printable ch) :
    (∃ lines, layoutText content width = some lines) ↔ (width = 0 → ∀ ch ∈ content.toList, ch = ' ') := by
  rw [← ReceiptLayout.layoutCells_some, layoutText_printable width printable]
  simp only [Option.map_eq_some_iff]
  exact ⟨fun ⟨_, lines, laid, _⟩ => ⟨lines, laid⟩, fun ⟨lines, laid⟩ => ⟨_, lines, laid, rfl⟩⟩

theorem narrow (width : Nat) (size : TextSize) : width / size.widthMultiple = 0 ↔ width < size.widthMultiple := by
  cases size <;> exact Nat.div_eq_zero_iff_lt (by decide)

theorem refusing_panics {result : Except HardwareError Bytes} : refusing result ≠ .error .panicked := by
  cases result <;> exact fun same => nomatch same

theorem fits_encoded (admissible : Admissible element) (encoded : encodeElement dialect width style element = .ok bytes) :
    Fits width element := by
  cases element with
  | text content wanted =>
    rw [encodeElement] at encoded
    cases laid : layoutText content (width / wanted.size.widthMultiple) with
    | none =>
      rw [laid] at encoded
      cases encoded
    | some lines => exact fun thin => (layoutText_some admissible).mp ⟨lines, laid⟩ ((narrow ..).mpr thin)
  | columns _ _ | divider | feed _ | barcode _ _ | qrCode _ | cut => trivial

theorem fits_works (admissible : Admissible element) (fits : Fits width element) :
    encodeElement dialect width style element ≠ .error .panicked := by
  cases element with
  | text content wanted =>
    obtain ⟨lines, laid⟩ := (layoutText_some admissible).mpr fun none => fits ((narrow ..).mp none)
    rw [encodeElement, laid]
    intro same
    cases same
  | barcode symbology data =>
    intro failed
    obtain failed | ⟨valid, _, failed⟩ := bind_eq_error failed
    · exact refusing_panics failed
    · obtain failed | ⟨_, _, failed⟩ := bind_eq_error failed
      · exact refusing_panics failed
      · cases failed
  | qrCode data =>
    intro failed
    rw [encodeElement] at failed
    split at failed
    · cases failed
    · obtain failed | ⟨_, _, failed⟩ := bind_eq_error failed
      · exact refusing_panics failed
      · cases failed
  | columns _ _ | divider | feed _ | cut =>
    intro same
    cases same

theorem elements_fit (admissible : ∀ element ∈ elements, Admissible element)
    (encoded : encodeElements dialect width style elements = .ok bytes) : ∀ element ∈ elements, Fits width element := by
  induction elements generalizing style bytes with
  | nil => exact fun _ impossible => nomatch impossible
  | cons element rest ih =>
    obtain ⟨first, head, encoded⟩ := bind_eq_ok encoded
    obtain ⟨others, tail, _⟩ := bind_eq_ok encoded
    have first := fits_encoded (admissible element List.mem_cons_self) head
    exact List.forall_mem_cons.mpr ⟨first, ih (fun other member => admissible other (List.mem_cons_of_mem _ member)) tail⟩

theorem elements_work (admissible : ∀ element ∈ elements, Admissible element)
    (fits : ∀ element ∈ elements, Fits width element) : encodeElements dialect width style elements ≠ .error .panicked := by
  induction elements generalizing style with
  | nil => exact fun same => nomatch same
  | cons element rest ih =>
    intro failed
    obtain failed | ⟨_, _, failed⟩ := bind_eq_error failed
    · exact fits_works (admissible element List.mem_cons_self) (fits element List.mem_cons_self) failed
    · obtain failed | ⟨_, _, failed⟩ := bind_eq_error failed
      · exact ih (fun other member => admissible other (List.mem_cons_of_mem _ member))
          (fun other member => fits other (List.mem_cons_of_mem _ member)) failed
      · cases failed

/-- A document that is not refused is encoded just when its text fits. -/
theorem encoded_iff {doc : ReceiptDocument} (admissible : ∀ element ∈ doc.elements, Admissible element)
    (accepted : ∀ error, encodeDocument dialect doc ≠ .error (.refused error)) :
    (∃ bytes, encodeDocument dialect doc = .ok bytes) ↔ ∀ element ∈ doc.elements, Fits doc.widthChars element := by
  constructor
  · intro ⟨bytes, encoded⟩
    obtain ⟨body, wrote, _⟩ := document_bytes encoded
    exact elements_fit admissible wrote
  · intro fits
    cases result : encodeDocument dialect doc with
    | ok bytes => exact ⟨bytes, rfl⟩
    | error failure =>
      cases failure with
      | refused error => exact absurd result (accepted error)
      | panicked =>
        rw [encodeDocument] at result
        split at result
        · cases result
        · obtain failed | ⟨_, _, failed⟩ := bind_eq_error result
          · exact absurd failed (elements_work admissible fits)
          · cases failed

end Encoding

/-- The data of a barcode with the code set that the dialect puts before it. -/
def withCodeSet (adds : Symbology → Bool) (symbology : Symbology) (data : Bytes) : Bytes :=
  (if adds symbology then [0x7B, 0x42] else []) ++ data

/-- The printer goes on, in another style, with more on the paper. -/
def Adds (decoder after : Decoder) (style : LineStyle) (things : List Printed) : Prop :=
  ∃ added, after = { decoder with elements := decoder.elements ++ added, style := style } ∧ added.flatMap printed = things

/-- What a printer makes of each operation. -/
structure Prints (script : Script) (adds : Symbology → Bool) : Prop where
  initialise : ∀ decoder, script.initialise.foldl Piece.read decoder = { decoder with style := .default }
  setAlign : ∀ decoder align, (script.setAlign align).read decoder = { decoder with style.align := alignOf align }
  setBold : ∀ decoder bold, (script.setBold bold).read decoder = { decoder with style.bold := bold }
  setSize : ∀ decoder size, (script.setSize size).read decoder =
    { decoder with style.doubleWidth := isWide size, style.doubleHeight := isTall size }
  feed : ∀ decoder lines, decoder.line = [] →
    Adds decoder ((script.feed lines).foldl Piece.read decoder) decoder.style (List.replicate lines.toNat .blank)
  barcode : ∀ decoder symbology data, (script.barcode symbology data).foldl Piece.read decoder =
    decoder.pushElement (.barcode (labelOf symbology) (shown (withCodeSet adds symbology data)))
  qr : ∀ decoder data, (script.qr data).foldl Piece.read decoder = decoder.pushElement (.qrCode (decode data))
  cut : ∀ decoder, script.cut.read decoder = decoder.pushElement .cut

section Reading
variable {script : Script} {adds : Symbology → Bool} {decoder after final : Decoder} {style : TextStyle}
  {middle last : LineStyle} {first others : List Printed} {width : Nat} {element : ReceiptElement}

theorem Adds.trans (one : Adds decoder after middle first) (two : Adds after final last others) :
    Adds decoder final last (first ++ others) := by
  obtain ⟨added, rfl, rfl⟩ := one
  obtain ⟨more, rfl, rfl⟩ := two
  exact ⟨added ++ more, by rw [List.append_assoc], List.flatMap_append⟩

theorem Adds.line (adds : Adds decoder after last first) : after.line = decoder.line := by
  obtain ⟨_, rfl, _⟩ := adds
  rfl

theorem Adds.styled (adds : Adds decoder after last first) : after.style = last := by
  obtain ⟨_, rfl, _⟩ := adds
  rfl

theorem lines_read (idle : decoder.line = []) (lines : List Bytes) : Adds decoder ((lines.map .line).foldl Piece.read decoder)
    decoder.style (lines.map fun line => printedLine (decode line) decoder.style) := by
  induction lines generalizing decoder with
  | nil => exact ⟨[], by rw [List.append_nil]; rfl, rfl⟩
  | cons line lines ih =>
    have one : Adds decoder (Piece.read decoder (.line line)) decoder.style [printedLine (decode line) decoder.style] := by
      refine ⟨[.line (decode line) decoder.style], ?_, rfl⟩
      rw [Piece.read, Decoder.flushLine, idle, List.nil_append, ← idle]
    exact one.trans (ih (one.line.trans idle))

theorem blank_lines_read (idle : decoder.line = []) (count : Nat) :
    Adds decoder ((List.replicate count (Piece.line [])).foldl Piece.read decoder) decoder.style
      (List.replicate count .blank) := by
  have read := lines_read idle (List.replicate count [])
  rw [List.map_replicate, List.map_replicate] at read
  exact read

theorem escPos_prints : Prints EscPos.script (· == .code128) where
  initialise _ := rfl
  setAlign _ _ := rfl
  setBold _ _ := rfl
  setSize _ _ := rfl
  feed _ lines _ := ⟨[.feed lines], rfl, List.append_nil _⟩
  barcode _ symbology _ := by cases symbology <;> rfl
  qr _ _ := rfl
  cut _ := rfl

theorem star_prints : Prints Star.script (fun _ => false) where
  initialise _ := rfl
  setAlign _ _ := rfl
  setBold _ _ := rfl
  setSize _ _ := rfl
  feed _ lines idle := blank_lines_read idle lines.toNat
  barcode _ _ _ := rfl
  qr _ _ := rfl
  cut _ := rfl

/-- The style of the printer follows the style of the receipt. -/
theorem style_read (prints : Prints script adds) (follows : decoder.style = lineStyle style) (wanted : TextStyle) :
    (script.applyStyle style wanted).foldl Piece.read decoder = { decoder with style := lineStyle wanted } := by
  obtain ⟨dialect, elements, warnings, line, current⟩ := decoder
  obtain ⟨align, bold, size⟩ := style
  obtain ⟨wantedAlign, wantedBold, wantedSize⟩ := wanted
  cases follows
  rw [Script.applyStyle, List.foldl_append, List.foldl_append]
  have given {condition : Prop} [Decidable condition] (piece : Piece) (decoder : Decoder) :
      (if condition then [piece] else []).foldl Piece.read decoder = if condition then piece.read decoder else decoder := by
    split <;> rfl
  rw [given, given, given, prints.setAlign, prints.setBold, prints.setSize]
  by_cases sameAlign : align = wantedAlign <;> by_cases sameBold : bold = wantedBold <;>
    by_cases sameSize : size = wantedSize <;> simp [sameAlign, sameBold, sameSize, lineStyle]

/-- What is shown of an element: what is prescribed, but for the data of barcodes. -/
def shows (adds : Symbology → Bool) (width : Nat) : ReceiptElement → List Printed
  | .barcode symbology data => [.barcode (labelOf symbology) (shown (withCodeSet adds symbology (asBytes data)))]
  | element => prescribed width element

theorem decode_line {chars : List Char} (printable : ∀ ch ∈ chars, Printable ch) :
    decode (chars.map codeOf) = String.ofList chars := by
  rw [decode, decode_codes printable]

theorem decode_text {content : String} {lines : List (List Char)} (printable : ∀ ch ∈ content.toList, Printable ch)
    (laid : layoutCells ' ' content.toList width = some lines) :
    ∀ line ∈ lines, decode (line.map codeOf) = String.ofList line := by
  refine fun line inside => decode_line fun ch member => ?_
  by_cases blank : ch = ' '
  · exact blank ▸ space_printable
  · exact printable ch ((ReceiptLayout.mem_lines laid blank).mp ⟨line, inside, member⟩)

theorem decode_columns {left right : String} (label : ∀ ch ∈ left.toList, Printable ch)
    (value : ∀ ch ∈ right.toList, Printable ch) :
    decode (layoutColumns left right width) = String.ofList (layoutRow ' ' left.toList right.toList width) := by
  rw [layoutColumns_printable label value]
  refine decode_line fun ch member => ?_
  by_cases blank : ch = ' '
  · exact blank ▸ space_printable
  · obtain kept | shown := (ReceiptLayout.mem_row blank).mp member
    · exact label ch (List.mem_of_mem_take kept)
    · exact value ch shown

theorem decode_divider (width : Nat) : decode (layoutDivider width) = String.ofList (List.replicate width '-') := by
  rw [decode, layoutDivider, List.map_replicate]
  rfl

theorem ascii_decodes : ∀ n < 128, decodeByte (UInt8.ofNat n) = Char.ofNat n := by
  decide +kernel

theorem decode_ascii {data : String} (ascii : ∀ ch ∈ data.toList, ch.toNat < 128) :
    (asBytes data).map decodeByte = data.toList := by
  rw [asBytes_ascii ascii, List.map_map]
  refine (List.map_congr_left fun ch member => ?_).trans (List.map_id _)
  exact (ascii_decodes ch.toNat (ascii ch member)).trans (Char.ofNat_toNat ch)

theorem body_read (width : Nat) (prints : Prints script adds) (idle : decoder.line = [])
    (follows : decoder.style = lineStyle (element.styleAfter style)) (admissible : Admissible element) :
    Adds decoder ((script.body width element).foldl Piece.read decoder) decoder.style (shows adds width element) := by
  cases element with
  | text content wanted =>
    have laid := layoutText_printable (width / wanted.size.widthMultiple) admissible
    have read := lines_read idle ((layoutText content (width / wanted.size.widthMultiple)).getD [])
    have plain : shows adds width (.text content wanted) = prescribed width (.text content wanted) := rfl
    rw [Script.body, plain, prescribed]
    cases cells : layoutCells ' ' content.toList (width / wanted.size.widthMultiple) with
    | none =>
      rw [laid, cells] at read ⊢
      exact read
    | some lines =>
      rw [laid, cells] at read ⊢
      simp only [Option.map_some, Option.getD_some, List.map_map] at read ⊢
      convert read using 1
      refine List.map_congr_left fun line member => ?_
      rw [Function.comp_apply, decode_text admissible cells line member, follows]
      rfl
  | columns left right =>
    have read := lines_read idle [layoutColumns left right width]
    rw [List.map_singleton, List.map_singleton, decode_columns admissible.1 admissible.2, follows] at read
    rw [follows]
    exact read
  | divider =>
    have read := lines_read idle [layoutDivider width]
    rw [List.map_singleton, List.map_singleton, decode_divider, follows] at read
    rw [follows]
    exact read
  | feed lines => exact prints.feed decoder lines idle
  | barcode symbology data => exact ⟨[_], prints.barcode decoder symbology (asBytes data), rfl⟩
  | qrCode data =>
    have same : decode (asBytes data) = data := by
      rw [decode, decode_ascii fun ch member => Nat.lt_succ_of_lt (Nat.lt_succ_of_le (admissible ch member).2),
        String.ofList_toList]
    refine ⟨[.qrCode (decode (asBytes data))], prints.qr decoder (asBytes data), ?_⟩
    rw [same]
    rfl
  | cut => exact ⟨[.cut], prints.cut decoder, rfl⟩

theorem element_read (width : Nat) (prints : Prints script adds) (idle : decoder.line = []) (follows : decoder.style = lineStyle style)
    (admissible : Admissible element) : Adds decoder ((script.element width style element).foldl Piece.read decoder)
      (lineStyle (element.styleAfter style)) (shows adds width element) := by
  rw [Script.element, List.foldl_append, style_read prints follows]
  obtain ⟨added, read, printed⟩ : Adds { decoder with style := lineStyle (element.styleAfter style) } _ _ _ :=
    body_read width prints idle rfl admissible
  exact ⟨added, read, printed⟩

theorem elements_read (width : Nat) {elements : List ReceiptElement} (prints : Prints script adds) (idle : decoder.line = [])
    (follows : decoder.style = lineStyle style) (admissible : ∀ element ∈ elements, Admissible element) :
    ∃ last, Adds decoder ((script.elements width style elements).foldl Piece.read decoder) last
      (elements.flatMap (shows adds width)) := by
  induction elements generalizing decoder style with
  | nil => exact ⟨decoder.style, [], by rw [List.append_nil]; rfl, rfl⟩
  | cons element rest ih =>
    have one := element_read width prints idle follows (admissible element List.mem_cons_self)
    obtain ⟨last, others⟩ := ih (one.line.trans idle) one.styled
      fun other member => admissible other (List.mem_cons_of_mem _ member)
    rw [Script.elements, List.foldl_append, List.flatMap_cons]
    exact ⟨last, one.trans others⟩

end Reading

section Documents
variable {dialect : Hardware.Dialect} {printer : VirtualPrinter.Dialect} {script : Script} {adds : Symbology → Bool}
  {doc : ReceiptDocument} {bytes : Bytes} {width : Nat} {element : ReceiptElement}

/-- A job that is known for what it is reads as it is shown. -/
theorem job_read (speaks : Speaks dialect printer script) (tidy : script.Tidy) (prints : Prints script adds)
    (admissible : ∀ element ∈ doc.elements, Admissible element) (encoded : encodeDocument dialect doc = .ok bytes)
    (known : detectDialect bytes = printer) : ∃ job, decodeJob bytes = some job ∧ job.warnings = [] ∧
      job.elements.flatMap printed = doc.elements.flatMap (shows adds doc.widthChars) := by
  have said := speaks.document encoded
  have clean := (ReceiptCommands.clean_document tidy encoded).mpr fun element member =>
    admissible_harmless doc.widthChars (admissible element member)
  have read := (pieces_read (.start printer) said.heard clean rfl).scan []
  rw [pieces_flatten, ← said.bytes, List.append_nil, Script.document, List.foldl_append, prints.initialise] at read
  obtain ⟨last, added, final, shown⟩ := @elements_read _ _ (.start printer) .default doc.widthChars _ prints rfl rfl admissible
  have done : (Decoder.start printer).run bytes = some { Decoder.start printer with elements := added, style := last } := by
    rw [Decoder.run, read]
    change some (Decoder.finish ((script.elements _ _ _).foldl Piece.read (Decoder.start printer))) = _
    rw [final]
    rfl
  refine ⟨⟨detectDialect bytes, added, []⟩, ?_, rfl, shown⟩
  rw [decodeJob, known, done]
  rfl

theorem stripCodeSet_iff (data : List Char) : stripCodeSet data = data ↔ ¬ ['\x7B', 'B'] <+: data := by
  unfold stripCodeSet
  split
  · rename_i rest
    refine iff_of_false (fun same => ?_) (not_not_intro ⟨rest, rfl⟩)
    have long := congrArg List.length same
    simp only [List.length_cons] at long
    omega
  · rename_i other
    refine iff_of_true rfl fun ⟨rest, same⟩ => other rest same.symm

theorem shows_iff (admissible : Admissible element) :
    shows adds width element = prescribed width element ↔ ¬ Loses adds element := by
  cases element with
  | barcode symbology data =>
    obtain ⟨valid, checked⟩ := admissible
    have back := decode_ascii (validateBarcode_data checked).2
    rw [shows, prescribed, Loses, shown, withCodeSet, List.map_append, back]
    cases adds symbology with
    | true =>
      refine iff_of_true ?_ fun lost => absurd lost.1 (by decide)
      change [Printed.barcode (labelOf symbology) (String.ofList data.toList)] = _
      rw [String.ofList_toList]
    | false =>
      rw [and_iff_right rfl, ← stripCodeSet_iff]
      change [Printed.barcode (labelOf symbology) (String.ofList (stripCodeSet data.toList))] = _ ↔ _
      rw [List.singleton_inj, Printed.barcode.injEq, and_iff_right rfl, String.ext_iff, String.toList_ofList]
  | text _ _ | columns _ _ | divider | feed _ | qrCode _ | cut => exact iff_of_true rfl not_false

theorem flatMap_eq_iff {α β : Type} {f g : α → List β} {items : List α}
    (level : ∀ item ∈ items, (f item).length = (g item).length) :
    items.flatMap f = items.flatMap g ↔ ∀ item ∈ items, f item = g item := by
  induction items with
  | nil => exact iff_of_true rfl fun _ impossible => nomatch impossible
  | cons item items ih =>
    have others := ih fun other member => level other (List.mem_cons_of_mem _ member)
    rw [List.flatMap_cons, List.flatMap_cons, List.forall_mem_cons, ← others]
    exact ⟨fun same => List.append_inj same (level item List.mem_cons_self), fun ⟨first, rest⟩ => first ▸ rest ▸ rfl⟩

theorem shows_level (adds : Symbology → Bool) (width : Nat) (element : ReceiptElement) :
    (shows adds width element).length = (prescribed width element).length := by
  cases element <;> rfl

theorem shown_iff (adds : Symbology → Bool) (admissible : ∀ element ∈ doc.elements, Admissible element) :
    doc.elements.flatMap (shows adds doc.widthChars) = doc.elements.flatMap (prescribed doc.widthChars) ↔
      ∀ element ∈ doc.elements, ¬ Loses adds element :=
  (flatMap_eq_iff fun element _ => shows_level adds doc.widthChars element).trans
    (forall₂_congr fun element member => shows_iff (admissible element member))

/-- A receipt that is not refused comes back as prescribed when it can be laid out, is known
for what it is, and has no barcode that loses data. -/
theorem roundTrips_iff (speaks : Speaks dialect printer script) (tidy : script.Tidy) (prints : Prints script adds)
    {misread : Prop} (detected : ∀ bytes, encodeDocument dialect doc = .ok bytes → (detectDialect bytes = printer ↔ ¬ misread))
    (admissible : ∀ element ∈ doc.elements, Admissible element)
    (accepted : ∀ error, encodeDocument dialect doc ≠ .error (.refused error)) :
    RoundTrips (encodeDocument dialect) printer doc ↔ (∀ element ∈ doc.elements, Fits doc.widthChars element) ∧
      ¬ misread ∧ ∀ element ∈ doc.elements, ¬ Loses adds element := by
  rw [← encoded_iff admissible accepted, ← shown_iff adds admissible]
  constructor
  · intro ⟨bytes, job, encoded, decoded, known, _, same⟩
    have dialect : detectDialect bytes = printer := by
      obtain ⟨decoder, _, rfl⟩ := Option.map_eq_some_iff.mp decoded
      exact known
    obtain ⟨read, again, _, shown⟩ := job_read speaks tidy prints admissible encoded dialect
    cases decoded.symm.trans again
    exact ⟨⟨bytes, encoded⟩, (detected bytes encoded).mp dialect, shown.symm.trans same⟩
  · intro ⟨⟨bytes, encoded⟩, known, same⟩
    have dialect := (detected bytes encoded).mpr known
    obtain ⟨job, decoded, quiet, shown⟩ := job_read speaks tidy prints admissible encoded dialect
    refine ⟨bytes, job, encoded, decoded, ?_, quiet, shown.trans same⟩
    obtain ⟨decoder, _, rfl⟩ := Option.map_eq_some_iff.mp decoded
    exact dialect

end Documents

/-- Receipts of printable data come back from the paper in both dialects, with these
exceptions: double width on paper of a single column, which panics; ESC GS in an ESC/POS job,
which is then taken for one of Star; and barcode data that starts like a code set. -/
theorem roundTrips_both (doc : ReceiptDocument) (admissible : ∀ element ∈ doc.elements, Admissible element) :
    ((∀ error, EscPos.encode doc ≠ .error (.refused error)) → (RoundTrips EscPos.encode .escPos doc ↔
      (∀ element ∈ doc.elements, Fits doc.widthChars element) ∧ ¬ Misread .default doc.elements ∧
        ∀ element ∈ doc.elements, ¬ Loses (· == .code128) element)) ∧
    ((∀ error, Star.encode doc ≠ .error (.refused error)) → (RoundTrips Star.encode .starLineMode doc ↔
      (∀ element ∈ doc.elements, Fits doc.widthChars element) ∧
        ∀ element ∈ doc.elements, ¬ Loses (fun _ => false) element)) := by
  constructor
  · exact roundTrips_iff EscPos.speaks EscPos.tidy escPos_prints (fun _ => detected_escPos admissible) admissible
  · intro accepted
    have known : ∀ bytes, Star.encode doc = .ok bytes → (detectDialect bytes = .starLineMode ↔ ¬ False) :=
      fun bytes encoded => iff_of_true (detected_star encoded) not_false
    have both := roundTrips_iff Star.speaks Star.tidy star_prints known admissible accepted
    rwa [and_iff_right not_false] at both

/-- A ticket with a heading, an order number and a cut. -/
theorem ticket_back :
    let ticket : ReceiptDocument := ⟨16, [.text "Café" .centred, .feed 2, .barcode .code39 "1001", .cut], by decide⟩
    RoundTrips EscPos.encode .escPos ticket ∧ RoundTrips Star.encode .starLineMode ticket := by
  intro ticket
  have checked : "Café".toList.all (fun ch => Printable ch) = true := by decide +kernel
  have heading : ∀ ch ∈ "Café".toList, Printable ch := fun ch member =>
    of_decide_eq_true (List.all_eq_true.mp checked ch member)
  have admissible : ∀ element ∈ ticket.elements, Admissible element :=
    List.forall_mem_cons.mpr ⟨heading, List.forall_mem_cons.mpr ⟨trivial,
      List.forall_mem_cons.mpr ⟨⟨_, rfl⟩, List.forall_mem_singleton.mpr trivial⟩⟩⟩
  have both := roundTrips_both ticket admissible
  have fits : ∀ element ∈ ticket.elements, Fits ticket.widthChars element := by
    simp [ticket, Fits, TextStyle.centred, TextSize.widthMultiple, TextStyle.default]
  have known : ¬ Misread .default ticket.elements := by
    have quiet : hasWindow VirtualPrinter.esc VirtualPrinter.gs (asBytes "1001") = false := by decide +kernel
    have short : (asBytes "1001").length ≠ 27 := by decide +kernel
    have last : (asBytes "1001").getLast? ≠ some VirtualPrinter.esc := by decide +kernel
    simp [ticket, Misread, Slips, EndsInEsc, quiet, short, last]
  have whole (adds : Symbology → Bool) : ∀ element ∈ ticket.elements, ¬ Loses adds element := by
    simp [ticket, Loses]
  have epson : (EscPos.encode ticket).toOption.isSome := by decide +kernel
  have star : (Star.encode ticket).toOption.isSome := by decide +kernel
  refine ⟨(both.1 fun error refused => ?_).mpr ⟨fits, known, whole _⟩, (both.2 fun error refused => ?_).mpr ⟨fits, whole _⟩⟩
  · rw [refused] at epson
    cases epson
  · rw [refused] at star
    cases star

/-- Feeding 27 lines before a cut reads as ESC GS, and the receipt as one for Star. -/
theorem feed_cut_misread :
    let receipt : ReceiptDocument := ⟨32, [.feed 27, .cut], by decide⟩
    (∀ element ∈ receipt.elements, Admissible element) ∧ (∃ bytes, EscPos.encode receipt = .ok bytes) ∧
      ¬ RoundTrips EscPos.encode .escPos receipt := by
  intro receipt
  refine ⟨List.forall_mem_cons.mpr ⟨trivial, List.forall_mem_singleton.mpr trivial⟩, ⟨_, rfl⟩, ?_⟩
  intro ⟨bytes, job, encoded, decoded, known, _⟩
  have star : detectDialect [0x1B, 0x40, 0x1B, 0x74, 0x00, 0x1B, 0x64, 27, 0x1D, 0x56, 66, 0] = .starLineMode := by decide
  obtain ⟨decoder, _, rfl⟩ := Option.map_eq_some_iff.mp decoded
  cases encoded
  cases star.symm.trans known

end ApexEdge.Proofs.ReceiptRoundTrip
