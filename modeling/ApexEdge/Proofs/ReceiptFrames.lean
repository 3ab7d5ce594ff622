import ApexEdge.Hardware.Encode
import ApexEdge.Hardware.VirtualPrinter
import ApexEdge.Proofs.ReceiptLayout

/-! Printable text, and a print job as a sequence of pieces: commands, each with what it tells the printer, and
lines of text. A dialect speaks in pieces, and its printer takes them one at a time. -/

namespace ApexEdge.Proofs.ReceiptFrames
open Hardware Codepage VirtualPrinter Library

instance : DecidablePred Printable := fun ch =>
  inferInstanceAs (Decidable (0x20 ≤ ch.toNat ∧ ch.toNat ≤ 0x7E ∨ ch ∈ cp437High.map (·.2)))

section Printable
variable {ch : Char} {text : String} {width : Nat}

theorem table_back : ∀ entry ∈ cp437High, encodeChar entry.2 = [entry.1] ∧ decodeByte entry.1 = entry.2 ∧
    (entry.1 = 0x20 ↔ entry.2 = ' ') := by
  decide +kernel

theorem ascii_back : ∀ n < 0x7F, 0x20 ≤ n → encodeChar (Char.ofNat n) = [UInt8.ofNat n] ∧
    decodeByte (UInt8.ofNat n) = Char.ofNat n ∧ (UInt8.ofNat n = 0x20 ↔ Char.ofNat n = ' ') := by
  decide +kernel

theorem printable_byte (printable : Printable ch) : ∃ byte, encodeChar ch = [byte] ∧ decodeByte byte = ch ∧
    (byte = 0x20 ↔ ch = ' ') := by
  obtain ⟨low, high⟩ | known := printable
  · have back := ascii_back ch.toNat (Nat.lt_succ_of_le high) low
    rw [Char.ofNat_toNat] at back
    exact ⟨_, back⟩
  · obtain ⟨entry, member, rfl⟩ := List.mem_map.mp known
    exact ⟨_, table_back entry member⟩

theorem encodeChar_printable (printable : Printable ch) : encodeChar ch = [codeOf ch] := by
  obtain ⟨byte, one, _⟩ := printable_byte printable
  rw [codeOf, one]
  rfl

theorem decode_codeOf (printable : Printable ch) : decodeByte (codeOf ch) = ch := by
  obtain ⟨byte, one, back, _⟩ := printable_byte printable
  rw [codeOf, one]
  exact back

theorem codeOf_space (printable : Printable ch) : codeOf ch = codeOf ' ' ↔ ch = ' ' := by
  obtain ⟨byte, one, _, blank⟩ := printable_byte printable
  rw [codeOf, one]
  exact blank

theorem encode_printable (printable : ∀ ch ∈ text.toList, Printable ch) : encode text = text.toList.map codeOf := by
  rw [encode, List.map_eq_flatMap]
  exact List.flatMap_congr fun ch member => encodeChar_printable (printable ch member)

theorem decode_codes {chars : List Char} (printable : ∀ ch ∈ chars, Printable ch) :
    (chars.map codeOf).map decodeByte = chars := by
  rw [List.map_map]
  refine (List.map_congr_left fun ch member => ?_).trans (List.map_id chars)
  exact decode_codeOf (printable ch member)

theorem space_printable : Printable ' ' := .inl (by decide)

theorem blank_code : codeOf ' ' = 0x20 := by decide +kernel

/-- The printer lays out the characters themselves. -/
theorem layoutText_printable (width : Nat) (printable : ∀ ch ∈ text.toList, Printable ch) :
    layoutText text width = (layoutCells ' ' text.toList width).map (List.map (List.map codeOf)) := by
  rw [layoutText, encode_printable printable, ← blank_code]
  exact ReceiptLayout.layoutCells_renamed fun ch member => codeOf_space (printable ch member)

theorem layoutColumns_printable {left right : String} (label : ∀ ch ∈ left.toList, Printable ch)
    (value : ∀ ch ∈ right.toList, Printable ch) :
    layoutColumns left right width = (layoutRow ' ' left.toList right.toList width).map codeOf := by
  rw [layoutColumns, encode_printable label, encode_printable value, ← blank_code]
  exact ReceiptLayout.layoutRow_renamed codeOf ' ' left.toList right.toList width

end Printable

section Controls

/-- The bytes at which a printer looks for a command. -/
def Starts (byte : UInt8) : Prop := byte = 0x1B ∨ byte = 0x1D ∨ byte = 0x07

instance : DecidablePred Starts := fun byte => inferInstanceAs (Decidable (byte = 0x1B ∨ byte = 0x1D ∨ byte = 0x07))

/-- The characters that become such a byte. -/
def StartsChar (ch : Char) : Prop := ch = '\x1B' ∨ ch = '\x1D' ∨ ch = '\x07'

instance : DecidablePred StartsChar := fun ch =>
  inferInstanceAs (Decidable (ch = '\x1B' ∨ ch = '\x1D' ∨ ch = '\x07'))

variable {ch : Char} {text : String} {width : Nat} {lines : List Bytes}

theorem table_harmless : ∀ entry ∈ cp437High, entry.1 ≠ 0x0A ∧ ¬ Starts entry.1 := by
  decide +kernel

theorem ascii_starts : ∀ n < 128, 0x0A ∉ encodeChar (Char.ofNat n) ∧
    ((∃ byte ∈ encodeChar (Char.ofNat n), Starts byte) ↔ StartsChar (Char.ofNat n)) := by
  decide +kernel

theorem highByte_harmless (ch : Char) : (highByte ch).getD 0x3F ≠ 0x0A ∧ ¬ Starts ((highByte ch).getD 0x3F) := by
  cases found : highByte ch with
  | none => decide
  | some byte =>
    obtain ⟨entry, seen, rfl⟩ := Option.map_eq_some_iff.mp found
    exact table_harmless entry (List.mem_of_find?_eq_some seen)

theorem encodeChar_harmless (high : isAscii ch = false) : ∀ byte ∈ encodeChar ch, byte ≠ 0x0A ∧ ¬ Starts byte := by
  have checked : (encodeChar ch).all (fun byte => byte ≠ 0x0A ∧ ¬ Starts byte) = true := by
    unfold encodeChar
    split
    all_goals first
      | rfl
      | (rw [high]; exact List.all_eq_true.mpr fun byte member =>
          decide_eq_true (List.mem_singleton.mp member ▸ highByte_harmless ch))
  exact fun byte member => of_decide_eq_true (List.all_eq_true.mp checked byte member)

theorem lf_encodeChar (ch : Char) : 0x0A ∉ encodeChar ch := by
  cases ascii : isAscii ch with
  | true =>
    have none := (ascii_starts ch.toNat (of_decide_eq_true ascii)).1
    rwa [Char.ofNat_toNat] at none
  | false => exact fun member => (encodeChar_harmless ascii _ member).1 rfl

theorem starts_encodeChar (ch : Char) : (∃ byte ∈ encodeChar ch, Starts byte) ↔ StartsChar ch := by
  cases ascii : isAscii ch with
  | true =>
    have same := (ascii_starts ch.toNat (of_decide_eq_true ascii)).2
    rwa [Char.ofNat_toNat] at same
  | false =>
    refine ⟨fun ⟨byte, member, starts⟩ => absurd starts (encodeChar_harmless ascii byte member).2, ?_⟩
    rintro (rfl | rfl | rfl) <;> cases ascii

theorem lf_encode (text : String) : 0x0A ∉ encode text := by
  intro member
  obtain ⟨ch, _, member⟩ := List.mem_flatMap.mp member
  exact lf_encodeChar ch member

theorem starts_encode (text : String) : (∃ byte ∈ encode text, Starts byte) ↔ ∃ ch ∈ text.toList, StartsChar ch := by
  constructor
  · intro ⟨byte, member, starts⟩
    obtain ⟨ch, inside, member⟩ := List.mem_flatMap.mp member
    exact ⟨ch, inside, (starts_encodeChar ch).mp ⟨byte, member, starts⟩⟩
  · intro ⟨ch, inside, starts⟩
    obtain ⟨byte, member, starts⟩ := (starts_encodeChar ch).mpr starts
    exact ⟨byte, List.mem_flatMap.mpr ⟨ch, inside, member⟩, starts⟩

theorem starts_visible {byte : UInt8} (starts : Starts byte) : byte ≠ 0x20 := by
  rintro rfl
  exact absurd starts (by decide)

theorem starts_lines (laid : layoutText text width = some lines) :
    (∃ line ∈ lines, ∃ byte ∈ line, Starts byte) ↔ ∃ ch ∈ text.toList, StartsChar ch := by
  rw [← starts_encode]
  constructor
  · intro ⟨line, inside, byte, member, starts⟩
    exact ⟨byte, (ReceiptLayout.mem_lines laid (starts_visible starts)).mp ⟨line, inside, member⟩, starts⟩
  · intro ⟨byte, member, starts⟩
    obtain ⟨line, inside, member⟩ := (ReceiptLayout.mem_lines laid (starts_visible starts)).mpr member
    exact ⟨line, inside, byte, member, starts⟩

theorem lf_lines (laid : layoutText text width = some lines) : ∀ line ∈ lines, 0x0A ∉ line := by
  intro line inside member
  exact lf_encode text ((ReceiptLayout.mem_lines laid (by decide)).mp ⟨line, inside, member⟩)

/-- The cells of paper that a character takes; two of them are spelled with three letters. -/
def cellWidth (ch : Char) : Nat := if ch = '\u20AC' ∨ ch = '\u2026' then 3 else 1

theorem encodeChar_length (ch : Char) : (encodeChar ch).length = cellWidth ch := by
  by_cases euro : ch = '\u20AC'
  · subst euro
    rfl
  · by_cases ellipsis : ch = '\u2026'
    · subst ellipsis
      rfl
    · rw [cellWidth, if_neg (not_or.mpr ⟨euro, ellipsis⟩)]
      unfold encodeChar
      split
      all_goals first
        | rfl
        | exact absurd rfl euro
        | exact absurd rfl ellipsis
        | (split <;> rfl)

theorem encode_length (text : String) : (encode text).length = (text.toList.map cellWidth).sum := by
  rw [encode, List.length_flatMap]
  exact congrArg List.sum (List.map_congr_left fun ch _ => encodeChar_length ch)

/-- The characters that begin within the room. -/
def kept (room : Nat) : List Char → List Char
  | [] => []
  | ch :: rest => if room = 0 then [] else ch :: kept (room - cellWidth ch) rest

theorem starts_take {room : Nat} (some : room ≠ 0) (ch : Char) :
    (∃ byte ∈ (encodeChar ch).take room, Starts byte) ↔ StartsChar ch := by
  rw [← starts_encodeChar]
  refine ⟨fun ⟨byte, member, starts⟩ => ⟨byte, List.mem_of_mem_take member, starts⟩, fun starting => ?_⟩
  have single : (encodeChar ch).length ≤ room := by
    obtain rfl | rfl | rfl := (starts_encodeChar ch).mp starting <;> exact Nat.one_le_iff_ne_zero.mpr some
  rwa [List.take_of_length_le single]

theorem kept_mem {room : Nat} {chars : List Char} {ch : Char} (member : ch ∈ kept room chars) : ch ∈ chars := by
  induction chars generalizing room with
  | nil => exact member
  | cons other chars ih =>
    rw [kept] at member
    split at member
    · cases member
    · exact List.mem_cons.mpr ((List.mem_cons.mp member).imp_right ih)

theorem printable_plain (printable : Printable ch) : ¬ StartsChar ch := by
  rintro (rfl | rfl | rfl) <;> exact absurd printable (by decide +kernel)

/-- What is left of a text that is clipped starts a command when a character does that is kept. -/
theorem starts_kept (room : Nat) (chars : List Char) :
    (∃ byte ∈ (chars.flatMap encodeChar).take room, Starts byte) ↔ ∃ ch ∈ kept room chars, StartsChar ch := by
  induction chars generalizing room with
  | nil => simp [kept]
  | cons ch chars ih =>
    rw [List.flatMap_cons, List.take_append, encodeChar_length, kept]
    by_cases none : room = 0
    · simp [none]
    · rw [if_neg none, List.exists_mem_cons_iff, ← ih, ← starts_take none]
      simp only [List.mem_append, or_and_right, exists_or]

end Controls

/-- What a command tells a printer. -/
inductive Order where
  | reset
  | align (align : VirtualPrinter.Alignment)
  | bold (on : Bool)
  | size (doubleWidth doubleHeight : Bool)
  | feed (lines : UInt8)
  | barcode (symbology data : String)
  | qr (data : String)
  | cut
  | setup

def obey (decoder : Decoder) : Order → Decoder
  | .reset => { decoder with style := .default }
  | .align align => { decoder with style.align := align }
  | .bold on => { decoder with style.bold := on }
  | .size doubleWidth doubleHeight =>
    { decoder with style.doubleWidth := doubleWidth, style.doubleHeight := doubleHeight }
  | .feed lines => decoder.pushElement (.feed lines)
  | .barcode symbology data => decoder.pushElement (.barcode symbology data)
  | .qr data => decoder.pushElement (.qrCode data)
  | .cut => decoder.pushElement .cut
  | .setup => decoder

inductive Piece where
  | command (order : Order) (bytes : Bytes)
  | line (text : Bytes)

namespace Piece

def bytes : Piece → Bytes
  | .command _ bytes => bytes
  | .line text => withLineFeed text

/-- What the printer takes in one turn each. -/
def frames : Piece → List Bytes
  | .command _ bytes => [bytes]
  | .line text => text.map (fun byte => [byte]) ++ [[lf]]

/-- The printer takes the command whole and obeys it; a line is one line. -/
def Heard (printer : VirtualPrinter.Dialect) : Piece → Prop
  | .command order bytes => (∃ byte ∈ bytes.head?, Starts byte) ∧ ∀ decoder : Decoder, decoder.dialect = printer →
      ∀ rest, decoder.command (bytes ++ rest) = some (bytes.length, obey decoder order)
  | .line text => lf ∉ text

/-- No byte of a line starts a command. -/
def Clean : Piece → Prop
  | .command .. => True
  | .line text => ∀ byte ∈ text, ¬ Starts byte

def read (decoder : Decoder) : Piece → Decoder
  | .command order _ => obey decoder order
  | .line text => { decoder with line := decoder.line ++ text }.flushLine

end Piece

section Reading
variable {printer : VirtualPrinter.Dialect} {decoder : Decoder} {order : Order} {bytes text : Bytes} {pieces : List Piece}

theorem obey_dialect (decoder : Decoder) (order : Order) : (obey decoder order).dialect = decoder.dialect := by
  cases order <;> rfl

theorem obey_line (decoder : Decoder) (order : Order) : (obey decoder order).line = decoder.line := by
  cases order <;> rfl

theorem read_dialect (decoder : Decoder) (piece : Piece) : (piece.read decoder).dialect = decoder.dialect := by
  cases piece with
  | command order bytes => exact obey_dialect decoder order
  | line text => rfl

theorem turn_command {byte : UInt8} (starts : Starts byte) (rest : Bytes) :
    decoder.turn (byte :: rest) = decoder.command (byte :: rest) := by
  have visible : byte ≠ lf := by
    rintro rfl
    exact absurd starts (by decide)
  rw [Decoder.turn, if_neg visible]
  exact if_pos starts

theorem turn_text {byte : UInt8} (plain : ¬ Starts byte) (visible : byte ≠ lf) (rest : Bytes) :
    decoder.turn (byte :: rest) = some (1, { decoder with line := decoder.line ++ [byte] }) := by
  rw [Decoder.turn, if_neg visible]
  exact if_neg plain

theorem turn_lf (rest : Bytes) : decoder.turn (lf :: rest) = some (1, decoder.flushLine) := rfl

theorem command_reads (heard : (Piece.command order bytes).Heard printer) (fits : decoder.dialect = printer) :
    Framing.Reads Decoder.turn decoder bytes (obey decoder order) := by
  obtain ⟨⟨byte, head, starts⟩, taken⟩ := heard
  obtain ⟨tail, rfl⟩ := List.head?_eq_some_iff.mp head
  refine ⟨List.cons_ne_nil _ _, fun rest => ?_⟩
  rw [List.cons_append, turn_command starts]
  exact taken decoder fits rest

theorem text_reads (plain : ∀ byte ∈ text, ¬ Starts byte) (single : lf ∉ text) (decoder : Decoder) :
    Framing.ReadsAll Decoder.turn decoder (text.map fun byte => [byte]) { decoder with line := decoder.line ++ text } := by
  induction text generalizing decoder with
  | nil =>
    rw [List.append_nil]
    exact .nil decoder
  | cons byte text ih =>
    have visible : byte ≠ lf := fun same => single (same ▸ List.mem_cons_self)
    have next := ih (fun other member => plain other (List.mem_cons_of_mem _ member))
      (fun member => single (List.mem_cons_of_mem _ member)) { decoder with line := decoder.line ++ [byte] }
    rw [List.append_assoc] at next
    refine .cons ⟨List.cons_ne_nil _ _, fun rest => ?_⟩ next
    exact turn_text (plain byte List.mem_cons_self) visible rest

theorem piece_reads {piece : Piece} (heard : piece.Heard printer) (clean : piece.Clean) (fits : decoder.dialect = printer) :
    Framing.ReadsAll Decoder.turn decoder piece.frames (piece.read decoder) := by
  cases piece with
  | command order bytes => exact (command_reads heard fits).one
  | line text =>
    have ends : Framing.Reads Decoder.turn { decoder with line := decoder.line ++ text } [lf]
        (Piece.read decoder (.line text)) := ⟨List.cons_ne_nil _ _, turn_lf⟩
    exact (text_reads clean heard decoder).append ends.one

/-- A printer reads piece after piece. -/
theorem pieces_read (decoder : Decoder) (heard : ∀ piece ∈ pieces, piece.Heard printer) (clean : ∀ piece ∈ pieces, piece.Clean)
    (fits : decoder.dialect = printer) :
    Framing.ReadsAll Decoder.turn decoder (pieces.flatMap Piece.frames) (pieces.foldl Piece.read decoder) := by
  induction pieces generalizing decoder with
  | nil => exact .nil decoder
  | cons piece pieces ih =>
    rw [List.flatMap_cons]
    refine (piece_reads (heard piece List.mem_cons_self) (clean piece List.mem_cons_self) fits).append ?_
    exact ih _ (fun other member => heard other (List.mem_cons_of_mem _ member))
      (fun other member => clean other (List.mem_cons_of_mem _ member)) ((read_dialect decoder piece).trans fits)

theorem frames_flatten (piece : Piece) : piece.frames.flatten = piece.bytes := by
  cases piece with
  | command order bytes => exact List.append_nil bytes
  | line text =>
    rw [Piece.frames, List.flatten_append, ← List.flatMap_def, List.flatMap_singleton']
    rfl

theorem pieces_flatten (pieces : List Piece) : (pieces.flatMap Piece.frames).flatten = pieces.flatMap Piece.bytes := by
  rw [List.flatMap_def, List.flatten_flatten, List.map_map, List.flatMap_def]
  exact congrArg List.flatten (List.map_congr_left fun piece _ => frames_flatten piece)

end Reading

end ApexEdge.Proofs.ReceiptFrames
