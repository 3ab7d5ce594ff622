import ApexEdge.Proofs.ReceiptFrames

/-! Which streams the virtual printer gets through. How far a command goes depends on its own
bytes and on how many are left; one command alone breaks the reading off. -/

namespace ApexEdge.Proofs.DecoderTotality
open Hardware Codepage VirtualPrinter Library ReceiptFrames

/-- The bytes of an ESC/POS command; nothing for what is not one. -/
def escposLength : Bytes → Nat
  | 0x1B :: 0x40 :: _ => 2
  | 0x1B :: 0x74 :: _ :: _ | 0x1B :: 0x61 :: _ :: _ | 0x1B :: 0x45 :: _ :: _ | 0x1B :: 0x64 :: _ :: _ => 3
  | 0x1D :: 0x21 :: _ :: _ | 0x1D :: 0x68 :: _ :: _ | 0x1D :: 0x77 :: _ :: _ | 0x1D :: 0x48 :: _ :: _ => 3
  | 0x1B :: 0x70 :: _ :: _ :: _ :: _ => 5
  | 0x1D :: 0x56 :: 66 :: _ :: _ => 4
  | 0x1D :: 0x56 :: _ :: _ => 3
  | 0x1D :: 0x6B :: symbology :: length :: data =>
    if symbology ≥ 65 then 4 + min length.toNat data.length else 0
  | 0x1D :: 0x28 :: 0x6B :: low :: high :: data =>
    if u16FromLeBytes low high < 2 then 5 + data.length else 5 + min (u16FromLeBytes low high) data.length
  | _ => 0

/-- The bytes of a Star command; a barcode goes up to RS. -/
def starLength : Bytes → Nat
  | 0x1B :: 0x40 :: _ | 0x1B :: 0x45 :: _ | 0x1B :: 0x46 :: _ => 2
  | 0x1B :: 0x1D :: 0x74 :: _ :: _ | 0x1B :: 0x1D :: 0x61 :: _ :: _ => 4
  | 0x1B :: 0x69 :: _ :: _ :: _ | 0x1B :: 0x07 :: _ :: _ :: _ => 4
  | 0x1B :: 0x64 :: _ :: _ => 3
  | 0x07 :: _ => 1
  | 0x1B :: 0x62 :: _ :: _ :: _ :: _ :: data => 6 + min (data.idxOf rs + 1) data.length
  | 0x1B :: 0x1D :: 0x79 :: 0x53 :: _ :: _ :: _ => 6
  | 0x1B :: 0x1D :: 0x79 :: 0x44 :: 0x31 :: _ :: low :: high :: data => 8 + min (u16FromLeBytes low high) data.length
  | 0x1B :: 0x1D :: 0x79 :: 0x50 :: _ => 4
  | _ => 0

def commandLength : VirtualPrinter.Dialect → Bytes → Nat
  | .starLineMode => starLength
  | _ => escposLength

/-- What one turn takes: a byte of text, a command, or two bytes that are no command. -/
def turnLength (dialect : VirtualPrinter.Dialect) (bytes : Bytes) : Nat :=
  match bytes with
  | [] => 0
  | byte :: rest =>
    if Starts byte then
      if commandLength dialect (byte :: rest) = 0 then max (min (byte :: rest).length 2) 1
      else commandLength dialect (byte :: rest)
    else 1

/-- The QR store function with a declared length that ends before its data would start. -/
def StoresShort (dialect : VirtualPrinter.Dialect) (bytes : Bytes) : Prop :=
  dialect ≠ .starLineMode ∧ ∃ cn rest, bytes = 0x1D :: 0x28 :: 0x6B :: 0x02 :: 0x00 :: cn :: 0x50 :: rest

variable {dialect : VirtualPrinter.Dialect} {decoder next : Decoder} {bytes frame rest : Bytes}

theorem u16_eq_two {low high : UInt8} : u16FromLeBytes low high = 2 ↔ low = 0x02 ∧ high = 0x00 := by
  unfold u16FromLeBytes
  rw [← UInt8.toNat_inj, ← UInt8.toNat_inj]
  have := low.toNat_lt
  change _ ↔ low.toNat = 2 ∧ high.toNat = 0
  omega

theorem escposQr_takes {low high : UInt8} {data : Bytes} (decoder : Decoder)
    (good : ¬ StoresShort .escPos (0x1D :: 0x28 :: 0x6B :: low :: high :: data)) :
    ∃ next, decoder.escposQr (0x1D :: 0x28 :: 0x6B :: low :: high :: data) low high =
      some (escposLength (0x1D :: 0x28 :: 0x6B :: low :: high :: data), next) ∧ next.dialect = decoder.dialect := by
  unfold Decoder.escposQr
  simp only [escposLength, List.length_cons]
  split
  next short =>
    refine ⟨_, congrArg some (Prod.ext ?_ rfl), rfl⟩
    split <;> omega
  next whole =>
    rw [if_neg (by omega : ¬ u16FromLeBytes low high < 2),
      Nat.min_eq_left (by omega : u16FromLeBytes low high ≤ data.length)]
    split
    next store =>
      split
      next early =>
        -- a declared length of two leaves no room for the byte before the data
        obtain ⟨rfl, rfl⟩ := u16_eq_two.mp (Nat.le_antisymm (by omega) (by omega : 2 ≤ u16FromLeBytes low high))
        obtain _ | ⟨cn, _ | ⟨function, rest⟩⟩ := data
        · cases store
        · cases store
        · cases store
          exact absurd ⟨nofun, cn, rest, rfl⟩ good
      next => exact ⟨_, rfl, rfl⟩
    next => exact ⟨_, rfl, rfl⟩

theorem escposBarcode_takes (decoder : Decoder) (symbology length : UInt8) (header data : Bytes)
    (long : header.length = 4) :
    (decoder.escposBarcode (header ++ data) symbology length).1 = 4 + min length.toNat data.length ∧
      (decoder.escposBarcode (header ++ data) symbology length).2.dialect = decoder.dialect := by
  unfold Decoder.escposBarcode
  simp only [List.length_append, long]
  split
  · refine ⟨?_, rfl⟩
    change 4 + data.length = _
    omega
  · refine ⟨?_, rfl⟩
    change 4 + length.toNat = _
    omega

theorem escpos_takes (decoder : Decoder) (good : ¬ StoresShort .escPos bytes) :
    ∃ next, decoder.escposCommand bytes = some (escposLength bytes, next) ∧ next.dialect = decoder.dialect := by
  fun_cases Decoder.escposCommand decoder bytes
  case case9 => exact ⟨decoder.pushElement .cut, by simp only [escposLength], rfl⟩
  case case13 symbology length data one =>
    have taken := escposBarcode_takes decoder symbology length [0x1D, 0x6B, symbology, length] data rfl
    have length : escposLength (0x1D :: 0x6B :: symbology :: length :: data) = 4 + min length.toNat data.length := by
      rw [escposLength, if_pos one]
    exact ⟨_, congrArg some (Prod.ext (taken.1.trans length.symm) rfl), taken.2⟩
  case case14 symbology length data other => exact ⟨_, by rw [escposLength, if_neg other], rfl⟩
  case case15 => exact escposQr_takes decoder good
  case case16 =>
    refine ⟨_, ?_, rfl⟩
    simp only [escposLength]
  all_goals exact ⟨_, rfl, rfl⟩

theorem escpos_breaks (decoder : Decoder) (bad : StoresShort .escPos bytes) : decoder.escposCommand bytes = none := by
  obtain ⟨-, cn, rest, rfl⟩ := bad
  have whole : ¬ (5 + u16FromLeBytes 0x02 0x00 > rest.length + 7 ∨ u16FromLeBytes 0x02 0x00 < 2) := by
    rw [u16_eq_two.mpr ⟨rfl, rfl⟩]
    omega
  simp only [Decoder.escposCommand, Decoder.escposQr, List.length_cons]
  rw [if_neg whole]
  rfl

theorem starBarcode_takes (decoder : Decoder) (symbology : UInt8) (header data : Bytes) (long : header.length = 6) :
    (decoder.starBarcode (header ++ data) symbology).1 = 6 + min (data.idxOf rs + 1) data.length ∧
      (decoder.starBarcode (header ++ data) symbology).2.dialect = decoder.dialect := by
  have behind : (header ++ data).drop 6 = data := by rw [← long, List.drop_left]
  unfold Decoder.starBarcode
  simp only [behind]
  split
  next found =>
    have inside := List.idxOf_lt_length_of_mem found
    refine ⟨?_, rfl⟩
    change 6 + data.idxOf rs + 1 = _
    omega
  next missing =>
    have outside := List.idxOf_eq_length_iff.mpr missing
    refine ⟨?_, rfl⟩
    change (header ++ data).length = _
    rw [List.length_append, outside]
    omega

theorem starQr_takes (decoder : Decoder) (low high : UInt8) (header data : Bytes) (long : header.length = 8) :
    (decoder.starQr (header ++ data) low high).1 = 8 + min (u16FromLeBytes low high) data.length ∧
      (decoder.starQr (header ++ data) low high).2.dialect = decoder.dialect := by
  unfold Decoder.starQr
  simp only [List.length_append, long]
  split
  · refine ⟨?_, rfl⟩
    change 8 + data.length = _
    omega
  · refine ⟨?_, rfl⟩
    change 8 + u16FromLeBytes low high = _
    omega

theorem star_takes (decoder : Decoder) (bytes : Bytes) :
    (decoder.starCommand bytes).1 = starLength bytes ∧ (decoder.starCommand bytes).2.dialect = decoder.dialect := by
  fun_cases Decoder.starCommand decoder bytes
  case case10 symbology height width narrow data =>
    exact starBarcode_takes decoder symbology [0x1B, 0x62, symbology, height, width, narrow] data rfl
  case case12 mode low high data =>
    exact starQr_takes decoder low high [0x1B, 0x1D, 0x79, 0x44, 0x31, mode, low, high] data rfl
  case case14 =>
    refine ⟨?_, rfl⟩
    simp only [starLength]
  all_goals exact ⟨rfl, rfl⟩

theorem escposLength_le (bytes : Bytes) : escposLength bytes ≤ bytes.length := by
  fun_cases escposLength bytes
  all_goals first
    | exact Nat.zero_le _
    | simp only [List.length_cons]; omega

theorem starLength_le (bytes : Bytes) : starLength bytes ≤ bytes.length := by
  fun_cases starLength bytes
  all_goals first
    | exact Nat.zero_le _
    | simp only [List.length_cons]; omega

theorem commandLength_le : commandLength dialect bytes ≤ bytes.length := by
  cases dialect with
  | starLineMode => exact starLength_le bytes
  | escPos | unknown => exact escposLength_le bytes

theorem storesShort_unknown : StoresShort .unknown bytes ↔ StoresShort .escPos bytes :=
  and_congr_left' ⟨fun _ => nofun, fun _ => nofun⟩

/-- What the dialect makes of the bytes, before what is no command is passed over. -/
def spoken (decoder : Decoder) (bytes : Bytes) : Option (Nat × Decoder) :=
  match decoder.dialect with
  | .starLineMode => some (decoder.starCommand bytes)
  | _ => decoder.escposCommand bytes

/-- Two bytes that are no command, or the one that is left, are passed over. -/
def passOver (bytes : Bytes) (read : Nat × Decoder) : Nat × Decoder :=
  if read.1 = 0 then
    let width := max (min bytes.length 2) 1
    (width, read.2.warn ("unrecognised command " ++ hex (bytes.take width)))
  else read

theorem command_eq (decoder : Decoder) (bytes : Bytes) :
    decoder.command bytes = (spoken decoder bytes).map (passOver bytes) := by
  have through (read : Option (Nat × Decoder)) :
      (read.bind fun taken =>
        if taken.1 = 0 then
          some (max (min bytes.length 2) 1,
            taken.2.warn ("unrecognised command " ++ hex (bytes.take (max (min bytes.length 2) 1))))
        else some taken) = read.map (passOver bytes) := by
    cases read with
    | none => rfl
    | some read => exact (apply_ite some ..).symm
  unfold Decoder.command spoken
  cases decoder.dialect <;> exact through _

theorem spoken_takes (speaks : decoder.dialect = dialect) (good : ¬ StoresShort dialect bytes) :
    ∃ next, spoken decoder bytes = some (commandLength dialect bytes, next) ∧ next.dialect = dialect := by
  unfold spoken
  rw [speaks]
  cases dialect with
  | starLineMode =>
    obtain ⟨taken, same⟩ := star_takes decoder bytes
    exact ⟨_, congrArg some (Prod.ext taken rfl), same.trans speaks⟩
  | escPos =>
    obtain ⟨next, taken, same⟩ := escpos_takes decoder good
    exact ⟨next, taken, same.trans speaks⟩
  | unknown =>
    obtain ⟨next, taken, same⟩ := escpos_takes decoder (mt storesShort_unknown.mpr good)
    exact ⟨next, taken, same.trans speaks⟩

theorem command_takes (speaks : decoder.dialect = dialect) (good : ¬ StoresShort dialect bytes) :
    ∃ next, decoder.command bytes = some (if commandLength dialect bytes = 0 then max (min bytes.length 2) 1
      else commandLength dialect bytes, next) ∧ next.dialect = dialect := by
  obtain ⟨next, taken, same⟩ := spoken_takes speaks good
  rw [command_eq, taken, Option.map_some, passOver]
  dsimp only
  split
  · exact ⟨_, rfl, same⟩
  · exact ⟨next, rfl, same⟩

theorem command_breaks (speaks : decoder.dialect = dialect) (bad : StoresShort dialect bytes) :
    decoder.command bytes = none := by
  have broken : spoken decoder bytes = none := by
    unfold spoken
    rw [speaks]
    cases dialect with
    | starLineMode => exact absurd rfl bad.1
    | escPos => exact escpos_breaks decoder bad
    | unknown => exact escpos_breaks decoder (storesShort_unknown.mp bad)
  rw [command_eq, broken, Option.map_none]

/-- A turn takes what the bytes alone say, in whichever state the decoder is. -/
theorem turn_measured (dialect : VirtualPrinter.Dialect) : Framing.Measured Decoder.turn (turnLength dialect)
    (fun decoder => decoder.dialect = dialect) (StoresShort dialect) where
  wide bytes nonempty := by
    obtain ⟨byte, rest, rfl⟩ := List.exists_cons_of_ne_nil nonempty
    have enough : commandLength dialect (byte :: rest) ≤ (byte :: rest).length := commandLength_le
    simp only [turnLength, List.length_cons] at enough ⊢
    split
    · split <;> omega
    · omega
  takes {decoder bytes} speaks nonempty good := by
    obtain ⟨byte, rest, rfl⟩ := List.exists_cons_of_ne_nil nonempty
    by_cases starts : Starts byte
    · rw [turn_command starts]
      simp only [turnLength, if_pos starts]
      exact command_takes speaks good
    · simp only [Decoder.turn, turnLength, if_neg starts]
      split
      · exact ⟨_, rfl, speaks⟩
      · exact ⟨_, if_neg starts, speaks⟩
  breaks {decoder bytes} speaks bad := by
    obtain ⟨other, cn, rest, rfl⟩ := bad
    exact command_breaks speaks ⟨other, cn, rest, rfl⟩

/-- A byte of text, or a command: what a turn may take. -/
def TextOrCommand (frame : Bytes) : Prop :=
  (∃ byte, frame = [byte] ∧ ¬ Starts byte) ∨ ∃ byte rest, frame = byte :: rest ∧ Starts byte

/-- Where the turns start, read off the bytes. -/
def turns (bytes : Bytes) : List Bytes := Framing.positions (turnLength (detectDialect bytes)) 0 bytes

/-- The stream is read to its end: its bytes are pieces, each taken once and none beyond the end. -/
def Consumes (bytes : Bytes) : Prop :=
  ∃ frames decoder, Framing.Tiles Decoder.turn (Decoder.start (detectDialect bytes)) bytes frames decoder ∧
    frames.flatten = bytes ∧ (∀ frame ∈ frames, TextOrCommand frame) ∧
    decodeJob bytes = some ⟨detectDialect bytes, decoder.finish.elements, decoder.finish.warnings⟩

theorem taken_whole (nonempty : frame ≠ [])
    (taking : decoder.turn (frame ++ rest) = some (frame.length, next)) : TextOrCommand frame := by
  obtain ⟨byte, tail, rfl⟩ := List.exists_cons_of_ne_nil nonempty
  by_cases starts : Starts byte
  · exact .inr ⟨byte, tail, rfl, starts⟩
  have single : (byte :: tail).length = 1 := by
    rw [List.cons_append] at taking
    by_cases line : byte = lf
    · rw [line, turn_lf] at taking
      exact (congrArg Prod.fst (Option.some.inj taking)).symm
    · rw [turn_text starts line] at taking
      exact (congrArg Prod.fst (Option.some.inj taking)).symm
  obtain rfl := List.eq_nil_of_length_eq_zero (Nat.succ.inj single)
  exact .inl ⟨byte, rfl, starts⟩

theorem frames_whole {frames : List Bytes}
    (tiles : Framing.Tiles Decoder.turn decoder bytes frames next) : ∀ frame ∈ frames, TextOrCommand frame := by
  induction tiles with
  | done => exact fun _ member => absurd member List.not_mem_nil
  | step nonempty taking _ ih => exact List.forall_mem_cons.mpr ⟨taken_whole nonempty taking, ih⟩

/-- The printer reads a stream to its end exactly when no turn starts at a store function that
declares two bytes, outside the Star dialect. -/
theorem consumes_iff (bytes : Bytes) :
    Consumes bytes ↔ ∀ rest ∈ turns bytes, ¬ StoresShort (detectDialect bytes) rest := by
  have speaks : (Decoder.start (detectDialect bytes)).dialect = detectDialect bytes := rfl
  have whole := Framing.tiles_iff (turn_measured (detectDialect bytes)) speaks bytes
  refine Iff.trans ⟨fun ⟨frames, next, tiles, _⟩ => ⟨frames, next, tiles⟩, ?_⟩ whole
  rintro ⟨frames, next, tiles⟩
  refine ⟨frames, next, tiles, tiles.flatten, frames_whole tiles, ?_⟩
  have done := tiles.scan
  simp only [decodeJob, Decoder.run, done, Option.map_some]

/-- `GS ( k 2 0 1 P`: the data would start behind the end of the command. -/
theorem short_store_panics : ¬ Consumes [0x1D, 0x28, 0x6B, 0x02, 0x00, 0x31, 0x50] := by
  have panics : decodeJob [0x1D, 0x28, 0x6B, 0x02, 0x00, 0x31, 0x50] = none := rfl
  rintro ⟨frames, decoder, -, -, -, decoded⟩
  rw [panics] at decoded
  cases decoded

end ApexEdge.Proofs.DecoderTotality
