import ApexEdge.Hardware.Document
import ApexEdge.Library.Framing

/-! The virtual printer: a byte stream turned back into what the paper says. The dialect is
guessed before the stream is read, since the command sets collide. -/

namespace ApexEdge.Hardware.VirtualPrinter
open Codepage Library

abbrev esc : UInt8 := 0x1B
abbrev gs : UInt8 := 0x1D
abbrev bel : UInt8 := 0x07
abbrev rs : UInt8 := 0x1E
abbrev lf : UInt8 := 0x0A

inductive Dialect where
  | escPos
  | starLineMode
  | unknown
  deriving DecidableEq

inductive Alignment where
  | left
  | centre
  | right
  deriving DecidableEq

structure LineStyle where
  align : Alignment
  bold : Bool
  doubleWidth : Bool
  doubleHeight : Bool
  deriving DecidableEq

def LineStyle.default : LineStyle := ⟨.left, false, false, false⟩

inductive DecodedElement where
  | line (text : String) (style : LineStyle)
  | feed (lines : UInt8)
  | barcode (symbology data : String)
  | qrCode (data : String)
  | cut
  | drawerKick
  deriving DecidableEq

structure DecodedJob where
  dialect : Dialect
  elements : List DecodedElement
  warnings : List String

/-- Whether the two bytes stand side by side somewhere. -/
def hasWindow (first second : UInt8) : Bytes → Bool
  | one :: other :: rest => (one == first && other == second) || hasWindow first second (other :: rest)
  | _ => false

def detectDialect (bytes : Bytes) : Dialect :=
  if bytes = [] then .unknown
  else if hasWindow esc gs bytes then .starLineMode
  else if hasWindow esc 0x74 bytes || hasWindow gs 0x21 bytes then .escPos
  else if hasWindow esc 0x70 bytes then .escPos
  else if bytes[0]? = some esc ∧ bytes[1]? = some bel then .starLineMode
  else .unknown

structure Decoder where
  dialect : Dialect
  elements : List DecodedElement
  warnings : List String
  line : Bytes
  style : LineStyle

def hexDigit (digit : Nat) : Char := Char.ofNat (if digit < 10 then 0x30 + digit else 0x37 + digit)

def hex (bytes : Bytes) : String :=
  " ".intercalate (bytes.map fun byte => String.ofList [hexDigit (byte.toNat / 16), hexDigit (byte.toNat % 16)])

def alignment (n : UInt8) : Alignment :=
  match n with
  | 1 => .centre
  | 2 => .right
  | _ => .left

def escposSymbology (code : UInt8) : String :=
  match code with
  | 67 => "Ean13"
  | 69 => "Code39"
  | 73 => "Code128"
  | _ => "unknown"

def starSymbology (code : UInt8) : String :=
  match code with
  | 3 => "Ean13"
  | 4 => "Code39"
  | 6 => "Code128"
  | _ => "unknown"

/-- The data without the code set that Epson wants in front of it. -/
def stripCodeSet (data : List Char) : List Char :=
  match data with
  | '\x7B' :: 'B' :: rest => rest
  | data => data

def u16FromLeBytes (low high : UInt8) : Nat := low.toNat + 256 * high.toNat

namespace Decoder

def pushElement (decoder : Decoder) (element : DecodedElement) : Decoder :=
  { decoder with elements := decoder.elements ++ [element] }

def warn (decoder : Decoder) (warning : String) : Decoder :=
  { decoder with warnings := decoder.warnings ++ [warning] }

def flushLine (decoder : Decoder) : Decoder :=
  { decoder with elements := decoder.elements ++ [.line (decode decoder.line) decoder.style], line := [] }

def pushBarcode (decoder : Decoder) (symbology : String) (data : Bytes) : Decoder :=
  decoder.pushElement (.barcode symbology (String.ofList (stripCodeSet (data.map decodeByte))))

/-- The data of the store function starts after eight bytes; a command that ends before them panics. -/
def escposQr (decoder : Decoder) (rest : Bytes) (low high : UInt8) : Option (Nat × Decoder) :=
  let length := u16FromLeBytes low high
  let finish := 5 + length
  if finish > rest.length ∨ length < 2 then
    some (rest.length, decoder.warn "QR command ran past the end of the job")
  else if rest[6]? = some 0x50 then
    if finish < 8 then none
    else some (finish, decoder.pushElement (.qrCode (decode ((rest.take finish).drop 8))))
  else some (finish, decoder)

def escposBarcode (decoder : Decoder) (rest : Bytes) (symbology length : UInt8) : Nat × Decoder :=
  let finish := 4 + length.toNat
  if finish > rest.length then
    (rest.length, decoder.warn "barcode data ran past the end of the job")
  else (finish, decoder.pushBarcode (escposSymbology symbology) ((rest.take finish).drop 4))

def escposCommand (decoder : Decoder) (rest : Bytes) : Option (Nat × Decoder) :=
  match rest with
  | 0x1B :: 0x40 :: _ => some (2, { decoder with style := .default })
  | 0x1B :: 0x74 :: _ :: _ => some (3, decoder)
  | 0x1B :: 0x61 :: n :: _ => some (3, { decoder with style.align := alignment n })
  | 0x1B :: 0x45 :: n :: _ => some (3, { decoder with style.bold := n != 0 })
  | 0x1D :: 0x21 :: n :: _ =>
    some (3, { decoder with style.doubleHeight := n &&& 0x01 != 0, style.doubleWidth := n &&& 0x10 != 0 })
  | 0x1B :: 0x64 :: n :: _ => some (3, decoder.pushElement (.feed n))
  | 0x1B :: 0x70 :: _ :: _ :: _ :: _ => some (5, decoder.pushElement .drawerKick)
  | 0x1D :: 0x56 :: 66 :: _ :: _ => some (4, decoder.pushElement .cut)
  | 0x1D :: 0x56 :: _ :: _ => some (3, decoder.pushElement .cut)
  | 0x1D :: 0x68 :: _ :: _ | 0x1D :: 0x77 :: _ :: _ | 0x1D :: 0x48 :: _ :: _ => some (3, decoder)
  | 0x1D :: 0x6B :: symbology :: length :: _ =>
    if symbology ≥ 65 then some (decoder.escposBarcode rest symbology length) else some (0, decoder)
  | 0x1D :: 0x28 :: 0x6B :: low :: high :: _ => decoder.escposQr rest low high
  | _ => some (0, decoder)

/-- The data goes up to the first RS. -/
def starBarcode (decoder : Decoder) (rest : Bytes) (symbology : UInt8) : Nat × Decoder :=
  let data := rest.drop 6
  if rs ∈ data then
    (6 + data.idxOf rs + 1, decoder.pushBarcode (starSymbology symbology) (data.take (data.idxOf rs)))
  else (rest.length, decoder.warn "barcode data was never terminated with RS")

def starQr (decoder : Decoder) (rest : Bytes) (low high : UInt8) : Nat × Decoder :=
  let finish := 8 + u16FromLeBytes low high
  if finish > rest.length then (rest.length, decoder.warn "QR data ran past the end of the job")
  else (finish, decoder.pushElement (.qrCode (decode ((rest.take finish).drop 8))))

def starCommand (decoder : Decoder) (rest : Bytes) : Nat × Decoder :=
  match rest with
  | 0x1B :: 0x40 :: _ => (2, { decoder with style := .default })
  | 0x1B :: 0x1D :: 0x74 :: _ :: _ => (4, decoder)
  | 0x1B :: 0x1D :: 0x61 :: n :: _ => (4, { decoder with style.align := alignment n })
  | 0x1B :: 0x45 :: _ => (2, { decoder with style.bold := true })
  | 0x1B :: 0x46 :: _ => (2, { decoder with style.bold := false })
  | 0x1B :: 0x69 :: height :: width :: _ =>
    (4, { decoder with style.doubleHeight := height != 0, style.doubleWidth := width != 0 })
  | 0x1B :: 0x64 :: _ :: _ => (3, decoder.pushElement .cut)
  | 0x1B :: 0x07 :: _ :: _ :: _ => (4, decoder)
  | 0x07 :: _ => (1, decoder.pushElement .drawerKick)
  | 0x1B :: 0x62 :: symbology :: _ :: _ :: _ :: _ => decoder.starBarcode rest symbology
  | 0x1B :: 0x1D :: 0x79 :: 0x53 :: _ :: _ :: _ => (6, decoder)
  | 0x1B :: 0x1D :: 0x79 :: 0x44 :: 0x31 :: _ :: low :: high :: _ => decoder.starQr rest low high
  | 0x1B :: 0x1D :: 0x79 :: 0x50 :: _ => (4, decoder)
  | _ => (0, decoder)

/-- A command that is not recognised is warned of and takes two bytes, or what is left. -/
def command (decoder : Decoder) (rest : Bytes) : Option (Nat × Decoder) := do
  let (consumed, decoder) ←
    match decoder.dialect with
    | .starLineMode => some (decoder.starCommand rest)
    | _ => decoder.escposCommand rest
  if consumed = 0 then
    let width := max (min rest.length 2) 1
    return (width, decoder.warn ("unrecognised command " ++ hex (rest.take width)))
  else return (consumed, decoder)

/-- One turn of the loop, at a byte that is there. -/
def turn (decoder : Decoder) (bytes : Bytes) : Option (Nat × Decoder) :=
  match bytes with
  | [] => some (0, decoder)
  | byte :: rest =>
    if byte = lf then some (1, decoder.flushLine)
    else if byte = esc ∨ byte = gs ∨ byte = bel then decoder.command (byte :: rest)
    else some (1, { decoder with line := decoder.line ++ [byte] })

/-- A stream that ends without a line feed still printed something. -/
def finish (decoder : Decoder) : Decoder := if decoder.line ≠ [] then decoder.flushLine else decoder

def run (decoder : Decoder) (bytes : Bytes) : Option Decoder := (Framing.scan turn 0 decoder bytes).map finish

def start (dialect : Dialect) : Decoder := ⟨dialect, [], [], [], .default⟩

end Decoder

def decodeJob (bytes : Bytes) : Option DecodedJob :=
  let dialect := detectDialect bytes
  ((Decoder.start dialect).run bytes).map fun decoder => ⟨dialect, decoder.elements, decoder.warnings⟩

end ApexEdge.Hardware.VirtualPrinter
