import ApexEdge.Library.Program
import ApexEdge.Proofs.ReceiptFrames

/-! What the two dialects say, operation by operation, and that the printer hears just that. -/

namespace ApexEdge.Proofs.ReceiptScripts
open Hardware Codepage Library ReceiptFrames
open VirtualPrinter hiding esc gs bel rs

/-- The pieces that a dialect says for each operation. -/
structure Script where
  initialise : List Piece
  setAlign : Hardware.Alignment → Piece
  setBold : Bool → Piece
  setSize : TextSize → Piece
  feed : UInt8 → List Piece
  barcode : Symbology → Bytes → List Piece
  qr : Bytes → List Piece
  cut : Piece

namespace Script

def applyStyle (script : Script) (style wanted : TextStyle) : List Piece :=
  (if style.align ≠ wanted.align then [script.setAlign wanted.align] else []) ++
  (if style.bold ≠ wanted.bold then [script.setBold wanted.bold] else []) ++
  (if style.size ≠ wanted.size then [script.setSize wanted.size] else [])

/-- What an element calls for beside its style. -/
def body (script : Script) (width : Nat) : ReceiptElement → List Piece
  | .text content wanted => ((layoutText content (width / wanted.size.widthMultiple)).getD []).map .line
  | .columns left right => [.line (layoutColumns left right width)]
  | .divider => [.line (layoutDivider width)]
  | .feed lines => script.feed lines
  | .barcode symbology data => script.barcode symbology (asBytes data)
  | .qrCode data => script.qr (asBytes data)
  | .cut => [script.cut]

def element (script : Script) (width : Nat) (style : TextStyle) (element : ReceiptElement) : List Piece :=
  script.applyStyle style (element.styleAfter style) ++ script.body width element

def elements (script : Script) (width : Nat) : TextStyle → List ReceiptElement → List Piece
  | _, [] => []
  | style, element :: rest => script.element width style element ++ script.elements width (element.styleAfter style) rest

def document (script : Script) (doc : ReceiptDocument) : List Piece :=
  script.initialise ++ script.elements doc.widthChars .default doc.elements

end Script

/-- The bytes are these pieces, and the printer hears each of them. -/
structure Says (printer : VirtualPrinter.Dialect) (bytes : Bytes) (pieces : List Piece) : Prop where
  bytes : bytes = pieces.flatMap Piece.bytes
  heard : ∀ piece ∈ pieces, piece.Heard printer

/-- The dialect follows the script, and the printer understands it. -/
structure Speaks (dialect : Hardware.Dialect) (printer : VirtualPrinter.Dialect) (script : Script) : Prop where
  initialise : Says printer dialect.initialise script.initialise
  setAlign : ∀ align, Says printer (dialect.setAlign align) [script.setAlign align]
  setBold : ∀ bold, Says printer (dialect.setBold bold) [script.setBold bold]
  setSize : ∀ size, Says printer (dialect.setSize size) [script.setSize size]
  feed : ∀ lines, Says printer (dialect.feed lines) (script.feed lines)
  barcode : ∀ {symbology data bytes}, dialect.barcode symbology data = .ok bytes →
    Says printer bytes (script.barcode symbology data)
  qr : ∀ {data bytes}, dialect.qr data = .ok bytes → Says printer bytes (script.qr data)
  cut : Says printer dialect.cut [script.cut]

/-- No operation but printing text writes a line that could start a command. -/
structure Script.Tidy (script : Script) : Prop where
  initialise : ∀ piece ∈ script.initialise, piece.Clean
  setAlign : ∀ align, (script.setAlign align).Clean
  setBold : ∀ bold, (script.setBold bold).Clean
  setSize : ∀ size, (script.setSize size).Clean
  feed : ∀ lines, ∀ piece ∈ script.feed lines, piece.Clean
  barcode : ∀ symbology data, ∀ piece ∈ script.barcode symbology data, piece.Clean
  qr : ∀ data, ∀ piece ∈ script.qr data, piece.Clean
  cut : script.cut.Clean

section Saying
variable {dialect : Hardware.Dialect} {printer : VirtualPrinter.Dialect} {script : Script} {width : Nat}
  {style : TextStyle} {bytes more : Bytes} {pieces others : List Piece}

namespace Says

theorem nil : Says printer [] [] := ⟨rfl, fun _ impossible => nomatch impossible⟩

theorem append (first : Says printer bytes pieces) (last : Says printer more others) :
    Says printer (bytes ++ more) (pieces ++ others) where
  bytes := by rw [first.bytes, last.bytes, List.flatMap_append]
  heard piece member := (List.mem_append.mp member).elim (first.heard piece) (last.heard piece)

theorem given {condition : Prop} [Decidable condition] (said : Says printer bytes pieces) :
    Says printer (if condition then bytes else []) (if condition then pieces else []) := by
  split
  · exact said
  · exact nil

theorem command {order : Order} (heard : (Piece.command order bytes).Heard printer) :
    Says printer bytes [.command order bytes] :=
  ⟨(List.append_nil bytes).symm, List.forall_mem_singleton.mpr heard⟩

theorem lines (printer : VirtualPrinter.Dialect) {lines : List Bytes} (single : ∀ line ∈ lines, lf ∉ line) :
    Says printer (lines.flatMap withLineFeed) (lines.map .line) where
  bytes := by rw [List.flatMap_map]; rfl
  heard piece member := by
    obtain ⟨line, inside, rfl⟩ := List.mem_map.mp member
    exact single line inside

theorem line {text : Bytes} (single : lf ∉ text) : Says printer (withLineFeed text) [.line text] := by
  have one := lines printer (List.forall_mem_singleton.mpr single)
  rwa [List.flatMap_singleton] at one

end Says

theorem refusing_ok {result : Except HardwareError Bytes} : refusing result = .ok bytes ↔ result = .ok bytes := by
  cases result <;> simp [refusing]

theorem validateBarcode_ok {symbology : Symbology} {data : String} (valid : validateBarcode symbology data = .ok bytes) :
    bytes = asBytes data := by
  unfold validateBarcode at valid
  split at valid
  · cases valid
  · split at valid
    · cases valid
    · cases symbology with
      | ean13 =>
        dsimp only at valid
        split at valid <;> cases valid
        rfl
      | code128 | code39 =>
        cases valid
        rfl

theorem lf_columns (left right : String) (width : Nat) : lf ∉ layoutColumns left right width := by
  intro member
  rcases (ReceiptLayout.mem_row (by decide)).mp member with kept | shown
  · exact lf_encode left (List.mem_of_mem_take kept)
  · exact lf_encode right shown

theorem lf_divider (width : Nat) : lf ∉ layoutDivider width := by
  intro member
  exact absurd (List.eq_of_mem_replicate member) (by decide)

theorem applyStyle_same (script : Script) (style : TextStyle) : script.applyStyle style style = [] := by
  simp only [Script.applyStyle, ne_eq, not_true_eq_false, if_false, List.append_nil]

theorem Script.Tidy.applyStyle (tidy : script.Tidy) (style wanted : TextStyle) :
    ∀ piece ∈ script.applyStyle style wanted, piece.Clean := by
  have given {condition : Prop} [Decidable condition] {piece : Piece} (clean : piece.Clean) :
      ∀ other ∈ (if condition then [piece] else []), other.Clean := by
    split
    · exact List.forall_mem_singleton.mpr clean
    · exact fun _ impossible => nomatch impossible
  rw [Script.applyStyle, List.forall_mem_append, List.forall_mem_append]
  exact ⟨⟨given (tidy.setAlign wanted.align), given (tidy.setBold wanted.bold)⟩, given (tidy.setSize wanted.size)⟩

theorem document_bytes {dialect : Hardware.Dialect} {doc : ReceiptDocument} (encoded : encodeDocument dialect doc = .ok bytes) :
    ∃ body, encodeElements dialect doc.widthChars .default doc.elements = .ok body ∧ bytes = dialect.initialise ++ body := by
  rw [encodeDocument] at encoded
  split at encoded
  · cases encoded
  · obtain ⟨body, wrote, done⟩ := bind_eq_ok encoded
    exact ⟨body, wrote, (Except.ok.inj done).symm⟩

namespace Speaks

theorem applyStyle (speaks : Speaks dialect printer script) (style wanted : TextStyle) :
    Says printer (dialect.applyStyle style wanted) (script.applyStyle style wanted) :=
  ((speaks.setAlign wanted.align).given.append (speaks.setBold wanted.bold).given).append
    (speaks.setSize wanted.size).given

theorem element (speaks : Speaks dialect printer script) {element : ReceiptElement}
    (encoded : encodeElement dialect width style element = .ok bytes) :
    Says printer bytes (script.element width style element) := by
  cases element with
  | text content wanted =>
    rw [encodeElement] at encoded
    cases laid : layoutText content (width / wanted.size.widthMultiple) with
    | none =>
      rw [laid] at encoded
      cases encoded
    | some lines =>
      rw [laid] at encoded
      cases encoded
      have body := Says.lines printer (lf_lines laid)
      rw [Script.element, Script.body, laid]
      exact (speaks.applyStyle style wanted).append body
  | columns left right =>
    cases encoded
    exact (speaks.applyStyle style .default).append (.line (lf_columns left right width))
  | divider =>
    cases encoded
    exact (speaks.applyStyle style .default).append (.line (lf_divider width))
  | feed lines =>
    cases encoded
    rw [Script.element, ReceiptElement.styleAfter, applyStyle_same]
    exact speaks.feed lines
  | barcode symbology data =>
    obtain ⟨valid, checked, encoded⟩ := bind_eq_ok encoded
    obtain ⟨body, wrote, done⟩ := bind_eq_ok encoded
    cases done
    rw [validateBarcode_ok (refusing_ok.mp checked)] at wrote
    exact (speaks.applyStyle style .centred).append (speaks.barcode (refusing_ok.mp wrote))
  | qrCode data =>
    rw [encodeElement] at encoded
    split at encoded
    · cases encoded
    · obtain ⟨body, wrote, done⟩ := bind_eq_ok encoded
      cases done
      exact (speaks.applyStyle style .centred).append (speaks.qr (refusing_ok.mp wrote))
  | cut =>
    cases encoded
    rw [Script.element, ReceiptElement.styleAfter, applyStyle_same]
    exact speaks.cut

theorem elements (speaks : Speaks dialect printer script) {elements : List ReceiptElement}
    (encoded : encodeElements dialect width style elements = .ok bytes) :
    Says printer bytes (script.elements width style elements) := by
  induction elements generalizing style bytes with
  | nil =>
    cases encoded
    exact .nil
  | cons element rest ih =>
    obtain ⟨first, head, encoded⟩ := bind_eq_ok encoded
    obtain ⟨others, tail, done⟩ := bind_eq_ok encoded
    cases done
    exact (speaks.element head).append (ih tail)

/-- Whatever the dialect encodes, it says what the script has for the document. -/
theorem document (speaks : Speaks dialect printer script) {doc : ReceiptDocument}
    (encoded : encodeDocument dialect doc = .ok bytes) : Says printer bytes (script.document doc) := by
  obtain ⟨body, wrote, rfl⟩ := document_bytes encoded
  exact speaks.initialise.append (speaks.elements wrote)

end Speaks

end Saying

/-- An alignment as the printer knows it. -/
def alignOf : Hardware.Alignment → VirtualPrinter.Alignment
  | .left => .left
  | .centre => .centre
  | .right => .right

def isWide : TextSize → Bool
  | .doubleWidth | .doubleBoth => true
  | .normal | .doubleHeight => false

def isTall : TextSize → Bool
  | .doubleHeight | .doubleBoth => true
  | .normal | .doubleWidth => false

def labelOf : Symbology → String
  | .code128 => "Code128"
  | .ean13 => "Ean13"
  | .code39 => "Code39"

/-- Barcode data as the printer shows it. -/
def shown (data : Bytes) : String := String.ofList (stripCodeSet (data.map decodeByte))

section Hearing
variable {decoder after : Decoder} {bytes : Bytes} {taken : Nat}

theorem command_escPos (fits : decoder.dialect = .escPos) (some : taken ≠ 0)
    (heard : decoder.escposCommand bytes = .some (taken, after)) : decoder.command bytes = .some (taken, after) := by
  rw [Decoder.command, fits]
  change (decoder.escposCommand bytes >>= _) = _
  rw [heard]
  exact if_neg some

theorem command_star (fits : decoder.dialect = .starLineMode) (some : taken ≠ 0)
    (heard : decoder.starCommand bytes = (taken, after)) : decoder.command bytes = .some (taken, after) := by
  rw [Decoder.command, fits]
  change (Option.some (decoder.starCommand bytes) >>= _) = _
  rw [heard]
  exact if_neg some

/-- The data of a frame with a head of a known length. -/
theorem frame_data (head data rest : Bytes) :
    ((head ++ data ++ rest).take (head.length + data.length)).drop head.length = data := by
  rw [List.take_left' List.length_append, List.drop_left]

theorem u16_bytes {length : Nat} (fits : length < 2 ^ 16) :
    u16FromLeBytes (UInt8.ofNat (length % 256)) (UInt8.ofNat (length / 256)) = length := by
  rw [u16FromLeBytes, UInt8.toNat_ofNat', UInt8.toNat_ofNat']
  omega

end Hearing

namespace EscPos
open Hardware.EscPos

def storeQr (data : Bytes) : Bytes :=
  [gs, 0x28, 0x6B, UInt8.ofNat ((data.length + 3) % 256), UInt8.ofNat ((data.length + 3) / 256), 0x31, 0x50, 0x30] ++ data

def printBarcode (symbology : Symbology) (payload : Bytes) : Bytes :=
  [gs, 0x6B, symbologyCode symbology, UInt8.ofNat payload.length] ++ payload

def script : Script where
  initialise := [.command .reset [esc, 0x40], .command .setup [esc, 0x74, 0x00]]
  setAlign align := .command (.align (alignOf align)) (setAlign align)
  setBold bold := .command (.bold bold) (setBold bold)
  setSize size := .command (.size (isWide size) (isTall size)) (setSize size)
  feed lines := [.command (.feed lines) (feed lines)]
  barcode symbology data :=
    [.command .setup [gs, 0x68, barcodeHeightDots], .command .setup [gs, 0x77, barcodeModuleWidth],
      .command .setup [gs, 0x48, 2],
      .command (.barcode (labelOf symbology) (shown (barcodePayload symbology data)))
        (printBarcode symbology (barcodePayload symbology data))]
  qr data :=
    [.command .setup [gs, 0x28, 0x6B, 0x04, 0x00, 0x31, 0x41, 0x32, 0x00],
      .command .setup [gs, 0x28, 0x6B, 0x03, 0x00, 0x31, 0x43, qrModuleSize],
      .command .setup [gs, 0x28, 0x6B, 0x03, 0x00, 0x31, 0x45, 0x31],
      .command (.qr (decode data)) (storeQr data),
      .command .setup [gs, 0x28, 0x6B, 0x03, 0x00, 0x31, 0x51, 0x30]]
  cut := .command .cut cut

/-- A command of fixed bytes is heard when reading it comes out right. -/
theorem heard {order : Order} {bytes : Bytes} (starts : ∃ byte ∈ bytes.head?, Starts byte)
    (obeyed : ∀ decoder rest, Decoder.escposCommand decoder (bytes ++ rest) = some (bytes.length, obey decoder order)) :
    (Piece.command order bytes).Heard .escPos := by
  refine ⟨starts, fun decoder fits rest => command_escPos fits ?_ (obeyed decoder rest)⟩
  obtain ⟨byte, head, _⟩ := starts
  obtain ⟨tail, rfl⟩ := List.head?_eq_some_iff.mp head
  exact Nat.succ_ne_zero _

theorem printBarcode_heard (symbology : Symbology) {payload : Bytes} (fits : payload.length < 2 ^ 8) :
    (Piece.command (.barcode (labelOf symbology) (shown payload)) (printBarcode symbology payload)).Heard .escPos := by
  refine heard ⟨gs, rfl, .inr (.inl rfl)⟩ fun decoder rest => ?_
  have coded : (65 : UInt8) ≤ symbologyCode symbology := by cases symbology <;> decide
  have label : escposSymbology (symbologyCode symbology) = labelOf symbology := by cases symbology <;> rfl
  have long : (UInt8.ofNat payload.length).toNat = payload.length := UInt8.toNat_ofNat_of_lt fits
  have data : ((printBarcode symbology payload ++ rest).take (4 + payload.length)).drop 4 = payload :=
    frame_data [gs, 0x6B, symbologyCode symbology, UInt8.ofNat payload.length] payload rest
  have whole : ¬ 4 + payload.length > (printBarcode symbology payload ++ rest).length := by
    simp only [printBarcode, List.length_append, List.length_cons, List.length_nil]
    omega
  change (if 65 ≤ symbologyCode symbology then _ else _) = _
  rw [if_pos coded, Decoder.escposBarcode, long, if_neg whole, data, label]
  simp only [printBarcode, List.length_append, List.length_cons, List.length_nil]
  rfl

/-- The head of a QR command: its length and its function. -/
def qrHead (low high cn fn : UInt8) : Bytes := [gs, 0x28, 0x6B, low, high, cn, fn]

theorem qrSetup_heard {low high cn fn : UInt8} {data : Bytes} (long : u16FromLeBytes low high = data.length + 2)
    (other : fn ≠ 0x50) : (Piece.command .setup (qrHead low high cn fn ++ data)).Heard .escPos := by
  refine heard ⟨gs, rfl, .inr (.inl rfl)⟩ fun decoder rest => ?_
  have whole : ¬ (5 + (data.length + 2) > (qrHead low high cn fn ++ data ++ rest).length ∨ data.length + 2 < 2) := by
    simp only [qrHead, List.length_append, List.length_cons, List.length_nil]
    omega
  have asked : ¬ (qrHead low high cn fn ++ data ++ rest)[6]? = some 0x50 := fun same => other (Option.some.inj same)
  change decoder.escposQr (qrHead low high cn fn ++ data ++ rest) low high = _
  simp only [Decoder.escposQr, long, if_neg whole, if_neg asked]
  simp only [qrHead, List.length_append, List.length_cons, List.length_nil, obey]
  congr 2
  omega

theorem storeQr_heard {data : Bytes} (fits : data.length + 3 < 2 ^ 16) :
    (Piece.command (.qr (decode data)) (storeQr data)).Heard .escPos := by
  refine heard ⟨gs, rfl, .inr (.inl rfl)⟩ fun decoder rest => ?_
  have whole : ¬ (5 + (data.length + 3) > (storeQr data ++ rest).length ∨ data.length + 3 < 2) := by
    simp only [storeQr, List.length_append, List.length_cons, List.length_nil]
    omega
  have long : ¬ 5 + (data.length + 3) < 8 := by omega
  have stored : ((storeQr data ++ rest).take (5 + (data.length + 3))).drop 8 = data := by
    rw [show 5 + (data.length + 3) = 8 + data.length by omega]
    exact frame_data (storeQr data |>.take 8) data rest
  change decoder.escposQr (storeQr data ++ rest) _ _ = _
  have asked : (storeQr data ++ rest)[6]? = some 0x50 := rfl
  simp only [Decoder.escposQr, u16_bytes fits, if_neg whole, if_pos asked, if_neg long, stored]
  simp only [storeQr, List.length_append, List.length_cons, List.length_nil, obey]
  congr 2
  omega

theorem gs_heard {order : Order} {bytes : Bytes}
    (obeyed : ∀ decoder rest, Decoder.escposCommand decoder (gs :: bytes ++ rest) =
      some ((gs :: bytes).length, obey decoder order)) : (Piece.command order (gs :: bytes)).Heard .escPos :=
  heard ⟨gs, rfl, .inr (.inl rfl)⟩ obeyed

theorem esc_heard {order : Order} {bytes : Bytes}
    (obeyed : ∀ decoder rest, Decoder.escposCommand decoder (esc :: bytes ++ rest) =
      some ((esc :: bytes).length, obey decoder order)) : (Piece.command order (esc :: bytes)).Heard .escPos :=
  heard ⟨esc, rfl, .inl rfl⟩ obeyed

theorem barcode_says {symbology : Symbology} {data bytes : Bytes} (encoded : barcode symbology data = .ok bytes) :
    Says .escPos bytes (script.barcode symbology data) := by
  rw [barcode] at encoded
  split at encoded
  · rename_i fits
    cases encoded
    have height : Says .escPos [gs, 0x68, barcodeHeightDots] [.command .setup _] := .command (gs_heard fun _ _ => rfl)
    have width : Says .escPos [gs, 0x77, barcodeModuleWidth] [.command .setup _] := .command (gs_heard fun _ _ => rfl)
    have readable : Says .escPos [gs, 0x48, 2] [.command .setup _] := .command (gs_heard fun _ _ => rfl)
    exact ((height.append width).append readable).append (.command (printBarcode_heard symbology fits))
  · cases encoded

theorem qr_says {data bytes : Bytes} (encoded : qr data = .ok bytes) : Says .escPos bytes (script.qr data) := by
  rw [qr] at encoded
  split at encoded
  · rename_i fits
    cases encoded
    have model : Says .escPos (qrHead 4 0 0x31 0x41 ++ [0x32, 0x00]) _ := .command (qrSetup_heard rfl (by decide))
    have size : Says .escPos (qrHead 3 0 0x31 0x43 ++ [qrModuleSize]) _ := .command (qrSetup_heard rfl (by decide))
    have level : Says .escPos (qrHead 3 0 0x31 0x45 ++ [0x31]) _ := .command (qrSetup_heard rfl (by decide))
    have print : Says .escPos (qrHead 3 0 0x31 0x51 ++ [0x30]) _ := .command (qrSetup_heard rfl (by decide))
    exact (((model.append size).append level).append (.command (storeQr_heard fits))).append print
  · cases encoded

/-- ESC/POS is what its printer understands. -/
theorem speaks : Speaks dialect .escPos script where
  initialise := (Says.command (esc_heard fun _ _ => rfl)).append (.command (esc_heard fun _ _ => rfl))
  setAlign align := .command (by cases align <;> exact esc_heard fun _ _ => rfl)
  setBold bold := .command (by cases bold <;> exact esc_heard fun _ _ => rfl)
  setSize size := .command (by cases size <;> exact gs_heard fun _ _ => rfl)
  feed lines := .command (esc_heard fun _ _ => rfl)
  barcode := barcode_says
  qr := qr_says
  cut := .command (gs_heard fun _ _ => rfl)

theorem tidy : script.Tidy where
  initialise := by simp [script, Piece.Clean]
  setAlign _ := trivial
  setBold _ := trivial
  setSize _ := trivial
  feed _ := List.forall_mem_singleton.mpr trivial
  barcode symbology data := by simp [script, Piece.Clean]
  qr data := by simp [script, Piece.Clean]
  cut := trivial

end EscPos

namespace Star
open Hardware.Star

def printBarcode (symbology : Symbology) (data : Bytes) : Bytes :=
  [esc, 0x62, symbologyCode symbology, 2, barcodeWidthMode, barcodeHeightDots] ++ data ++ [rs]

def storeQr (data : Bytes) : Bytes :=
  [esc, gs, 0x79, 0x44, 0x31, 0x00, UInt8.ofNat (data.length % 256), UInt8.ofNat (data.length / 256)] ++ data

def script : Script where
  initialise := [.command .reset [esc, 0x40], .command .setup [esc, gs, 0x74, 0x00]]
  setAlign align := .command (.align (alignOf align)) (setAlign align)
  setBold bold := .command (.bold bold) (setBold bold)
  setSize size := .command (.size (isWide size) (isTall size)) (setSize size)
  feed lines := List.replicate lines.toNat (.line [])
  barcode symbology data := [.command (.barcode (labelOf symbology) (shown data)) (printBarcode symbology data)]
  qr data :=
    [.command .setup [esc, gs, 0x79, 0x53, 0x30, 0x02], .command .setup [esc, gs, 0x79, 0x53, 0x31, 0x01],
      .command .setup [esc, gs, 0x79, 0x53, 0x32, qrCellSize], .command (.qr (decode data)) (storeQr data),
      .command .setup [esc, gs, 0x79, 0x50]]
  cut := .command .cut cut

theorem heard {order : Order} {bytes : Bytes} (starts : bytes.head? = some esc) (obeyed : ∀ decoder rest,
    Decoder.starCommand decoder (bytes ++ rest) = (bytes.length, obey decoder order)) :
    (Piece.command order bytes).Heard .starLineMode := by
  refine ⟨⟨esc, starts, .inl rfl⟩, fun decoder fits rest => command_star fits ?_ (obeyed decoder rest)⟩
  obtain ⟨tail, rfl⟩ := List.head?_eq_some_iff.mp starts
  exact Nat.succ_ne_zero _

theorem blank_lines (printer : VirtualPrinter.Dialect) (count : Nat) :
    Says printer (List.replicate count 0x0A) (List.replicate count (.line [])) := by
  induction count with
  | zero => exact .nil
  | succ count ih => exact (Says.line List.not_mem_nil).append ih

theorem printBarcode_heard (symbology : Symbology) {data : Bytes} (single : rs ∉ data) :
    (Piece.command (.barcode (labelOf symbology) (shown data)) (printBarcode symbology data)).Heard .starLineMode := by
  refine heard rfl fun decoder rest => ?_
  have label : starSymbology (symbologyCode symbology) = labelOf symbology := by cases symbology <;> rfl
  have after : (printBarcode symbology data ++ rest).drop 6 = data ++ rs :: rest := by
    simp only [printBarcode, List.append_assoc]
    rfl
  have ends : (data ++ rs :: rest).idxOf rs = data.length := by
    rw [List.idxOf_append_of_notMem single, List.idxOf_cons_self, Nat.add_zero]
  change decoder.starBarcode (printBarcode symbology data ++ rest) (symbologyCode symbology) = _
  rw [Decoder.starBarcode, after, if_pos (List.mem_append_right _ List.mem_cons_self), ends, List.take_left, label]
  simp only [printBarcode, List.length_append, List.length_cons, List.length_nil]
  rfl

theorem storeQr_heard {data : Bytes} (fits : data.length < 2 ^ 16) :
    (Piece.command (.qr (decode data)) (storeQr data)).Heard .starLineMode := by
  refine heard rfl fun decoder rest => ?_
  have whole : ¬ 8 + data.length > (storeQr data ++ rest).length := by
    simp only [storeQr, List.length_append, List.length_cons, List.length_nil]
    omega
  have stored : ((storeQr data ++ rest).take (8 + data.length)).drop 8 = data :=
    frame_data (storeQr data |>.take 8) data rest
  change decoder.starQr (storeQr data ++ rest) _ _ = _
  simp only [Decoder.starQr, u16_bytes fits, if_neg whole, stored]
  simp only [storeQr, List.length_append, List.length_cons, List.length_nil, obey]

theorem barcode_says {symbology : Symbology} {data bytes : Bytes} (encoded : barcode symbology data = .ok bytes) :
    Says .starLineMode bytes (script.barcode symbology data) := by
  rw [barcode] at encoded
  split at encoded
  · cases encoded
  · rename_i single
    cases encoded
    exact .command (printBarcode_heard symbology single)

theorem qr_says {data bytes : Bytes} (encoded : qr data = .ok bytes) : Says .starLineMode bytes (script.qr data) := by
  rw [qr] at encoded
  split at encoded
  · rename_i fits
    cases encoded
    have model : Says .starLineMode [esc, gs, 0x79, 0x53, 0x30, 0x02] [.command .setup _] :=
      .command (heard rfl fun _ _ => rfl)
    have level : Says .starLineMode [esc, gs, 0x79, 0x53, 0x31, 0x01] [.command .setup _] :=
      .command (heard rfl fun _ _ => rfl)
    have size : Says .starLineMode [esc, gs, 0x79, 0x53, 0x32, qrCellSize] [.command .setup _] :=
      .command (heard rfl fun _ _ => rfl)
    have print : Says .starLineMode [esc, gs, 0x79, 0x50] [.command .setup _] :=
      .command (heard rfl fun _ _ => rfl)
    exact (((model.append level).append size).append (.command (storeQr_heard fits))).append print
  · cases encoded

/-- Star Line Mode is what its printer understands. -/
theorem speaks : Speaks dialect .starLineMode script where
  initialise := (Says.command (heard rfl fun _ _ => rfl)).append (.command (heard rfl fun _ _ => rfl))
  setAlign align := .command (by cases align <;> exact heard rfl fun _ _ => rfl)
  setBold bold := .command (by cases bold <;> exact heard rfl fun _ _ => rfl)
  setSize size := .command (by cases size <;> exact heard rfl fun _ _ => rfl)
  feed lines := blank_lines .starLineMode lines.toNat
  barcode := barcode_says
  qr := qr_says
  cut := .command (heard rfl fun _ _ => rfl)

theorem tidy : script.Tidy where
  initialise := by simp [script, Piece.Clean]
  setAlign _ := trivial
  setBold _ := trivial
  setSize _ := trivial
  feed _ piece member := by
    rw [List.eq_of_mem_replicate member]
    exact fun _ impossible => nomatch impossible
  barcode _ _ := List.forall_mem_singleton.mpr trivial
  qr data := by simp [script, Piece.Clean]
  cut := trivial

end Star

end ApexEdge.Proofs.ReceiptScripts
