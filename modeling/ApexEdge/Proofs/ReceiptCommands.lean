import ApexEdge.Proofs.ReceiptScripts

/-! What a printer executes when it is sent a receipt, against what the elements of the
receipt call for: the same, as long as no text holds the start of a command. -/

namespace ApexEdge.Proofs.ReceiptCommands
open Hardware Codepage Library ReceiptFrames ReceiptScripts
open VirtualPrinter hiding esc gs bel rs

/-- What a printer can be seen to do: a command, byte for byte, or the end of a line. -/
inductive Act where
  | command (bytes : Bytes)
  | line
  deriving DecidableEq

/-- What the printer does in the turn that takes these bytes. -/
def actOf (taken : Bytes) : Option Act :=
  match taken with
  | [] => none
  | byte :: rest => if byte = lf then some .line else if Starts byte then some (.command (byte :: rest)) else none

/-- The acts of a printer that has a log already; a line that is left over is printed too. -/
def executedAfter (decoder : Decoder) (log : List Bytes) (bytes : Bytes) : Option (List Act) :=
  (Framing.scan (Framing.logged Decoder.turn) 0 (decoder, log) bytes).map fun (decoder, log) =>
    log.filterMap actOf ++ if decoder.line = [] then [] else [.line]

def executed (printer : VirtualPrinter.Dialect) (bytes : Bytes) : Option (List Act) :=
  executedAfter (.start printer) [] bytes

def act : Piece → Act
  | .command _ bytes => .command bytes
  | .line _ => .line

/-- What the elements call for: the commands of the style, the codes, the feeds and the
cuts, and a line for each that is laid out. -/
def calledFor (script : Script) (doc : ReceiptDocument) : List Act := (script.document doc).map act

/-- The characters of an element that are printed as text. A label is printed as far as the
value leaves room for it. -/
def printedChars (width : Nat) : ReceiptElement → List Char
  | .text content _ => content.toList
  | .columns left right => kept (width - ((right.toList.map cellWidth).sum + 1)) left.toList ++ right.toList
  | _ => []

def Harmless (width : Nat) (element : ReceiptElement) : Prop := ∀ ch ∈ printedChars width element, ¬ StartsChar ch

instance (width : Nat) : DecidablePred (Harmless width) := fun element =>
  List.decidableBAll (fun ch => ¬ StartsChar ch) (printedChars width element)

section Acts
variable {printer : VirtualPrinter.Dialect} {decoder : Decoder} {log : List Bytes} {pieces : List Piece} {piece : Piece}

theorem act_plain {byte : UInt8} (plain : ¬ Starts byte) (visible : byte ≠ lf) : actOf [byte] = none := by
  rw [actOf, if_neg visible, if_neg plain]

theorem act_command {byte : UInt8} {rest : Bytes} (starts : Starts byte) :
    actOf (byte :: rest) = some (.command (byte :: rest)) := by
  have visible : byte ≠ lf := by
    rintro rfl
    exact absurd starts (by decide)
  rw [actOf, if_neg visible, if_pos starts]

theorem acts_plain {text : Bytes} (plain : ∀ byte ∈ text, ¬ Starts byte) (single : lf ∉ text) :
    (text.map fun byte => [byte]).filterMap actOf = [] := by
  rw [List.filterMap_map, List.filterMap_eq_nil_iff]
  exact fun byte member => act_plain (plain byte member) fun same => single (same ▸ member)

theorem piece_acts (heard : piece.Heard printer) (clean : piece.Clean) : piece.frames.filterMap actOf = [act piece] := by
  cases piece with
  | command order bytes =>
    obtain ⟨byte, head, starts⟩ := heard.1
    obtain ⟨tail, rfl⟩ := List.head?_eq_some_iff.mp head
    rw [Piece.frames, List.filterMap_cons_some (act_command starts)]
    rfl
  | line text =>
    rw [Piece.frames, List.filterMap_append, acts_plain clean heard]
    rfl

theorem read_line (idle : decoder.line = []) (piece : Piece) : (piece.read decoder).line = [] := by
  cases piece with
  | command order bytes => exact (obey_line decoder order).trans idle
  | line text => rfl

/-- A piece that is heard and clean is just done. -/
theorem executed_clean (heard : piece.Heard printer) (clean : piece.Clean) (fits : decoder.dialect = printer) (rest : Bytes) :
    executedAfter decoder log (piece.bytes ++ rest) = executedAfter (piece.read decoder) (log ++ piece.frames) rest := by
  have reads := ((piece_reads heard clean fits).logged log).scan rest
  rw [frames_flatten] at reads
  rw [executedAfter, reads]
  rfl

/-- At the start of a command the printer does not go on with the line. -/
theorem executed_start {byte : UInt8} {rest : Bytes} (starts : Starts byte) {acts : List Act}
    (did : executedAfter decoder log (byte :: rest) = some acts) :
    ∃ bytes later, acts = log.filterMap actOf ++ .command bytes :: later := by
  obtain ⟨⟨after, final⟩, done, rfl⟩ := Option.map_eq_some_iff.mp did
  rw [Framing.scan, Option.bind_eq_bind, Option.bind_eq_some_iff] at done
  obtain ⟨⟨taken, next, middle⟩, took, done⟩ := done
  obtain ⟨⟨_, _⟩, _, same⟩ := Option.map_eq_some_iff.mp took
  cases same
  obtain ⟨later, rfl⟩ := Framing.log_grows done
  refine ⟨byte :: rest.take (max taken 1 - 1),
    later.filterMap actOf ++ if after.line = [] then [] else [.line], ?_⟩
  have first : (byte :: rest).take (max taken 1) = byte :: rest.take (max taken 1 - 1) := by
    rw [← Nat.sub_add_cancel (Nat.le_max_right taken 1), List.take_succ_cons, Nat.add_sub_cancel]
  simp only [List.filterMap_append, first, List.filterMap_cons_some (act_command starts),
    List.append_assoc, List.nil_append, List.cons_append]

theorem executed_plain {byte : UInt8} (plain : ¬ Starts byte) (visible : byte ≠ lf) (rest : Bytes) :
    executedAfter decoder log (byte :: rest) =
      executedAfter { decoder with line := decoder.line ++ [byte] } (log ++ [[byte]]) rest := by
  have reads : Framing.Reads Decoder.turn decoder [byte] _ := ⟨List.cons_ne_nil _ _, turn_text plain visible⟩
  exact congrArg (Option.map _) ((reads.logged log).scan rest)

/-- A line with the start of a command does not come out as a line. -/
theorem executed_unclean {text rest : Bytes} (single : lf ∉ text) (starts : ∃ byte ∈ text, Starts byte) (others : List Act) :
    executedAfter decoder log (text ++ rest) ≠ some (log.filterMap actOf ++ .line :: others) := by
  induction text generalizing decoder log with
  | nil =>
    obtain ⟨byte, member, _⟩ := starts
    cases member
  | cons byte text ih =>
    rw [List.cons_append]
    by_cases first : Starts byte
    · intro did
      obtain ⟨bytes, later, same⟩ := executed_start first did
      cases List.append_cancel_left same
    · have visible : byte ≠ lf := fun same => single (same ▸ List.mem_cons_self)
      have later : ∃ byte ∈ text, Starts byte := by
        obtain ⟨other, member, starts⟩ := starts
        exact ⟨other, (List.mem_cons.mp member).resolve_left fun same => first (same ▸ starts), starts⟩
      have silent : (log ++ [[byte]]).filterMap actOf = log.filterMap actOf := by
        rw [List.filterMap_append, List.filterMap_cons_none (act_plain first visible), List.filterMap_nil, List.append_nil]
      rw [executed_plain first visible, ← silent]
      exact ih (fun member => single (List.mem_cons_of_mem _ member)) later

/-- The printer does what the pieces say, just when each of their lines is clean. -/
theorem executed_pieces (log : List Bytes) (heard : ∀ piece ∈ pieces, piece.Heard printer) (fits : decoder.dialect = printer)
    (idle : decoder.line = []) :
    executedAfter decoder log (pieces.flatMap Piece.bytes) = some (log.filterMap actOf ++ pieces.map act) ↔
      ∀ piece ∈ pieces, piece.Clean := by
  induction pieces generalizing decoder log with
  | nil =>
    refine iff_of_true ?_ fun _ impossible => nomatch impossible
    change some (log.filterMap actOf ++ if decoder.line = [] then [] else [.line]) = _
    rw [if_pos idle]
    rfl
  | cons piece pieces ih =>
    rw [List.forall_mem_cons, List.flatMap_cons, List.map_cons]
    have first := heard piece List.mem_cons_self
    by_cases clean : piece.Clean
    · have next := @ih (piece.read decoder) (log ++ piece.frames)
        (fun other member => heard other (List.mem_cons_of_mem _ member)) ((read_dialect decoder piece).trans fits)
        (read_line idle piece)
      rw [List.filterMap_append, piece_acts first clean, List.append_assoc] at next
      rw [executed_clean first clean fits, and_iff_right clean]
      exact next
    · refine iff_of_false ?_ fun all => clean all.1
      cases piece with
      | command order bytes => exact absurd trivial clean
      | line text =>
        rw [Piece.bytes, withLineFeed, List.append_assoc]
        refine executed_unclean first ?_ _
        simpa only [Piece.Clean, not_forall, not_not, exists_prop] using clean

end Acts

section Documents
variable {dialect : Hardware.Dialect} {printer : VirtualPrinter.Dialect} {script : Script} {width : Nat}
  {style : TextStyle} {elements : List ReceiptElement} {bytes : Bytes} {doc : ReceiptDocument}

theorem clean_text {content : String} {lines : List Bytes} (laid : layoutText content width = some lines) :
    (∀ piece ∈ lines.map Piece.line, piece.Clean) ↔ ∀ ch ∈ content.toList, ¬ StartsChar ch := by
  have same := not_congr (starts_lines laid)
  simp only [not_exists, not_and] at same
  rw [List.forall_mem_map]
  exact same

theorem clean_columns (left right : String) : (Piece.line (layoutColumns left right width)).Clean ↔
    Harmless width (.columns left right) := by
  have value := not_congr (starts_encode right)
  have label := not_congr (starts_kept (width - ((encode right).length + 1)) left.toList)
  rw [encode_length] at label
  simp only [not_exists, not_and] at label value
  rw [Harmless, printedChars, List.forall_mem_append, ← value, ← label, ← encode_length, Piece.Clean]
  constructor
  · intro clean
    refine ⟨fun byte kept starts => ?_, fun byte shown starts => ?_⟩
    · exact clean byte ((ReceiptLayout.mem_row (starts_visible starts)).mpr (.inl kept)) starts
    · exact clean byte ((ReceiptLayout.mem_row (starts_visible starts)).mpr (.inr shown)) starts
  · rintro ⟨label, value⟩ byte member starts
    exact ((ReceiptLayout.mem_row (starts_visible starts)).mp member).elim
      (fun kept => label byte kept starts) fun shown => value byte shown starts

theorem clean_divider (width : Nat) : (Piece.line (layoutDivider width)).Clean := by
  intro byte member
  rw [List.eq_of_mem_replicate member]
  decide

theorem clean_element (tidy : script.Tidy) {element : ReceiptElement}
    (encoded : encodeElement dialect width style element = .ok bytes) :
    (∀ piece ∈ script.element width style element, piece.Clean) ↔ Harmless width element := by
  have styled := tidy.applyStyle style (element.styleAfter style)
  rw [Script.element, List.forall_mem_append, and_iff_right styled]
  cases element with
  | text content wanted =>
    rw [encodeElement] at encoded
    cases laid : layoutText content (width / wanted.size.widthMultiple) with
    | none =>
      rw [laid] at encoded
      cases encoded
    | some lines =>
      rw [Script.body, laid]
      exact clean_text laid
  | columns left right => exact List.forall_mem_singleton.trans (clean_columns left right)
  | divider => exact iff_of_true (List.forall_mem_singleton.mpr (clean_divider width)) (List.forall_mem_nil _)
  | feed lines => exact iff_of_true (tidy.feed lines) (List.forall_mem_nil _)
  | barcode symbology data => exact iff_of_true (tidy.barcode symbology (asBytes data)) (List.forall_mem_nil _)
  | qrCode data => exact iff_of_true (tidy.qr (asBytes data)) (List.forall_mem_nil _)
  | cut => exact iff_of_true (List.forall_mem_singleton.mpr tidy.cut) (List.forall_mem_nil _)

theorem clean_elements (tidy : script.Tidy) (encoded : encodeElements dialect width style elements = .ok bytes) :
    (∀ piece ∈ script.elements width style elements, piece.Clean) ↔ ∀ element ∈ elements, Harmless width element := by
  induction elements generalizing style bytes with
  | nil => exact iff_of_true (fun _ impossible => nomatch impossible) fun _ impossible => nomatch impossible
  | cons element rest ih =>
    obtain ⟨first, head, encoded⟩ := bind_eq_ok encoded
    obtain ⟨others, tail, _⟩ := bind_eq_ok encoded
    rw [Script.elements, List.forall_mem_append, List.forall_mem_cons, clean_element tidy head, ih tail]

theorem clean_document (tidy : script.Tidy) (encoded : encodeDocument dialect doc = .ok bytes) :
    (∀ piece ∈ script.document doc, piece.Clean) ↔ ∀ element ∈ doc.elements, Harmless doc.widthChars element := by
  obtain ⟨body, wrote, _⟩ := document_bytes encoded
  rw [Script.document, List.forall_mem_append, and_iff_right tidy.initialise, clean_elements tidy wrote]

/-- The printer executes what the document calls for, just when it is harmless. -/
theorem executed_document (speaks : Speaks dialect printer script) (tidy : script.Tidy)
    (encoded : encodeDocument dialect doc = .ok bytes) :
    executed printer bytes = some (calledFor script doc) ↔ ∀ element ∈ doc.elements, Harmless doc.widthChars element := by
  have said := speaks.document encoded
  rw [said.bytes, executed, calledFor]
  exact (executed_pieces [] said.heard rfl rfl).trans (clean_document tidy encoded)

end Documents

/-- In both dialects: receipt data issues no commands of its own just when no text on the
paper holds ESC, GS or BEL. Codes and feeds are harmless whatever they hold. -/
theorem commands_exact_iff_harmless (doc : ReceiptDocument) (bytes : Bytes) :
    (EscPos.encode doc = .ok bytes → (executed .escPos bytes = some (calledFor EscPos.script doc) ↔
      ∀ element ∈ doc.elements, Harmless doc.widthChars element)) ∧
    (Star.encode doc = .ok bytes → (executed .starLineMode bytes = some (calledFor Star.script doc) ↔
      ∀ element ∈ doc.elements, Harmless doc.widthChars element)) :=
  ⟨executed_document EscPos.speaks EscPos.tidy, executed_document Star.speaks Star.tidy⟩

/-- A ticket with a heading and a price, in both dialects. -/
theorem ticket_exact :
    let ticket : ReceiptDocument := ⟨16, [.text "Café" .centred, .columns "Tea" "3.50", .feed 2, .cut], by decide⟩
    ∃ epson star, EscPos.encode ticket = .ok epson ∧ Star.encode ticket = .ok star ∧
      executed .escPos epson = some (calledFor EscPos.script ticket) ∧
      executed .starLineMode star = some (calledFor Star.script ticket) :=
  ⟨_, _, rfl, rfl, ((commands_exact_iff_harmless _ _).1 rfl).mpr (by decide +kernel),
    ((commands_exact_iff_harmless _ _).2 rfl).mpr (by decide +kernel)⟩

/-- A text that spells the pulse for the drawer opens it. -/
theorem text_opens_drawer : ∃ bytes, EscPos.encode ⟨32, [.text "\x1Bp\x00\x19·" .default], by decide⟩ = .ok bytes ∧
    executed .escPos bytes = some [.command [0x1B, 0x40], .command [0x1B, 0x74, 0x00], .command EscPos.drawerKick, .line] ∧
    calledFor EscPos.script ⟨32, [.text "\x1Bp\x00\x19·" .default], by decide⟩ =
      [.command [0x1B, 0x40], .command [0x1B, 0x74, 0x00], .line] :=
  ⟨_, rfl, by decide +kernel, by decide +kernel⟩

end ApexEdge.Proofs.ReceiptCommands
