import ApexEdge.Hardware.Document

/-! The walk over a receipt that both dialects share: wrapping, column padding and the style
that the printer is in are kept here, so that the dialects differ in their bytes only. -/

namespace ApexEdge.Hardware
open Codepage

inductive HardwareError where
  | emptyPayload (operation : String)
  | invalidPayload (operation detail : String)
  deriving DecidableEq

/-- How an encoder fails: it refuses the receipt, or it panics. -/
inductive EncodeFailure where
  | refused (error : HardwareError)
  | panicked
  deriving DecidableEq

/-- The bytes that a dialect writes for each operation. -/
structure Dialect where
  initialise : Bytes
  setAlign : Alignment → Bytes
  setBold : Bool → Bytes
  setSize : TextSize → Bytes
  feed : UInt8 → Bytes
  barcode : Symbology → Bytes → Except HardwareError Bytes
  qr : Bytes → Except HardwareError Bytes
  cut : Bytes

/-- Commands are written only for what changes. -/
def Dialect.applyStyle (dialect : Dialect) (style wanted : TextStyle) : Bytes :=
  (if style.align ≠ wanted.align then dialect.setAlign wanted.align else []) ++
  (if style.bold ≠ wanted.bold then dialect.setBold wanted.bold else []) ++
  (if style.size ≠ wanted.size then dialect.setSize wanted.size else [])

/-- The style that the printer is in after an element. -/
def ReceiptElement.styleAfter (style : TextStyle) : ReceiptElement → TextStyle
  | .text _ wanted => wanted
  | .columns .. | .divider => .default
  | .barcode .. | .qrCode _ => .centred
  | .feed _ | .cut => style

def isAsciiText (data : String) : Bool := data.toList.all isAscii

def asBytes (data : String) : Bytes := data.toList.flatMap String.utf8EncodeChar

def validateBarcode (symbology : Symbology) (data : String) : Except HardwareError Bytes :=
  if data.toList = [] then .error (.emptyPayload "encode_barcode")
  else if ¬ isAsciiText data then .error (.invalidPayload "encode_barcode" "barcode data must be ASCII")
  else
    match symbology with
    | .code128 | .code39 => .ok (asBytes data)
    | .ean13 =>
      if ¬ data.toList.all Char.isDigit ∨ ¬ (12 ≤ (asBytes data).length ∧ (asBytes data).length ≤ 13) then
        .error (.invalidPayload "encode_barcode" "EAN-13 needs 12 or 13 digits")
      else .ok (asBytes data)

def withLineFeed (line : Bytes) : Bytes := line ++ [0x0A]

def refusing (result : Except HardwareError Bytes) : Except EncodeFailure Bytes :=
  match result with
  | .ok bytes => .ok bytes
  | .error error => .error (.refused error)

def encodeElement (dialect : Dialect) (width : Nat) (style : TextStyle) (element : ReceiptElement) :
    Except EncodeFailure Bytes :=
  match element with
  | .text content wanted =>
    match layoutText content (width / wanted.size.widthMultiple) with
    | none => .error .panicked
    | some lines => .ok (dialect.applyStyle style wanted ++ lines.flatMap withLineFeed)
  | .columns left right =>
    .ok (dialect.applyStyle style .default ++ withLineFeed (layoutColumns left right width))
  | .divider => .ok (dialect.applyStyle style .default ++ withLineFeed (layoutDivider width))
  | .feed lines => .ok (dialect.feed lines)
  | .barcode symbology data => do
    let data ← refusing (validateBarcode symbology data)
    let bytes ← refusing (dialect.barcode symbology data)
    return dialect.applyStyle style .centred ++ bytes
  | .qrCode data =>
    if data.toList = [] then .error (.refused (.emptyPayload "encode_qr"))
    else do
      let bytes ← refusing (dialect.qr (asBytes data))
      return dialect.applyStyle style .centred ++ bytes
  | .cut => .ok dialect.cut

/-- The elements in turn, each in the style that the one before it left. -/
def encodeElements (dialect : Dialect) (width : Nat) : TextStyle → List ReceiptElement → Except EncodeFailure Bytes
  | _, [] => .ok []
  | style, element :: rest => do
    let bytes ← encodeElement dialect width style element
    let others ← encodeElements dialect width (element.styleAfter style) rest
    return bytes ++ others

def encodeDocument (dialect : Dialect) (doc : ReceiptDocument) : Except EncodeFailure Bytes :=
  if doc.elements = [] then .error (.refused (.emptyPayload "encode_receipt"))
  else do
    let bytes ← encodeElements dialect doc.widthChars .default doc.elements
    return dialect.initialise ++ bytes

end ApexEdge.Hardware

/-! The command sets of the printers: ESC/POS, the Epson command set, and Star Line Mode,
most of whose commands differ from it. -/

namespace ApexEdge.Hardware.EscPos
open Codepage

abbrev esc : UInt8 := 0x1B
abbrev gs : UInt8 := 0x1D

abbrev barcodeHeightDots : UInt8 := 60
abbrev barcodeModuleWidth : UInt8 := 2
abbrev qrModuleSize : UInt8 := 6

def initialise : Bytes := [esc, 0x40] ++ [esc, 0x74, 0x00]

def setAlign (align : Alignment) : Bytes :=
  let n := match align with
    | .left => 0
    | .centre => 1
    | .right => 2
  [esc, 0x61, n]

def setBold (bold : Bool) : Bytes := [esc, 0x45, if bold then 1 else 0]

def setSize (size : TextSize) : Bytes :=
  let n := match size with
    | .normal => 0x00
    | .doubleHeight => 0x01
    | .doubleWidth => 0x10
    | .doubleBoth => 0x11
  [gs, 0x21, n]

def feed (lines : UInt8) : Bytes := [esc, 0x64, lines]

def symbologyCode : Symbology → UInt8
  | .ean13 => 67
  | .code39 => 69
  | .code128 => 73

/-- Epson wants the code set of a Code 128 selected inside the data. -/
def barcodePayload (symbology : Symbology) (data : Bytes) : Bytes :=
  (if symbology = .code128 then [0x7B, 0x42] else []) ++ data

def barcode (symbology : Symbology) (data : Bytes) : Except HardwareError Bytes :=
  let payload := barcodePayload symbology data
  if payload.length < 2 ^ 8 then
    .ok ([gs, 0x68, barcodeHeightDots] ++ [gs, 0x77, barcodeModuleWidth] ++ [gs, 0x48, 2] ++
      [gs, 0x6B, symbologyCode symbology, UInt8.ofNat payload.length] ++ payload)
  else .error (.invalidPayload "encode_barcode" "barcode data exceeds 255 bytes")

/-- The store command carries its length, low byte first. -/
def qr (data : Bytes) : Except HardwareError Bytes :=
  let stored := data.length + 3
  if stored < 2 ^ 16 then
    .ok ([gs, 0x28, 0x6B, 0x04, 0x00, 0x31, 0x41, 0x32, 0x00] ++
      [gs, 0x28, 0x6B, 0x03, 0x00, 0x31, 0x43, qrModuleSize] ++
      [gs, 0x28, 0x6B, 0x03, 0x00, 0x31, 0x45, 0x31] ++
      [gs, 0x28, 0x6B, UInt8.ofNat (stored % 256), UInt8.ofNat (stored / 256), 0x31, 0x50, 0x30] ++ data ++
      [gs, 0x28, 0x6B, 0x03, 0x00, 0x31, 0x51, 0x30])
  else .error (.invalidPayload "encode_qr" "QR payload too large")

def cut : Bytes := [gs, 0x56, 66, 0]

def drawerKick : Bytes := [esc, 0x70, 0x00, 25, 250]

def dialect : Dialect := ⟨initialise, setAlign, setBold, setSize, feed, barcode, qr, cut⟩

def encode (document : ReceiptDocument) : Except EncodeFailure Bytes := encodeDocument dialect document

end ApexEdge.Hardware.EscPos

namespace ApexEdge.Hardware.Star
open Codepage

abbrev esc : UInt8 := 0x1B
abbrev gs : UInt8 := 0x1D
abbrev bel : UInt8 := 0x07
abbrev rs : UInt8 := 0x1E

abbrev barcodeHeightDots : UInt8 := 60
abbrev barcodeWidthMode : UInt8 := 2
abbrev qrCellSize : UInt8 := 6

def initialise : Bytes := [esc, 0x40] ++ [esc, gs, 0x74, 0x00]

def setAlign (align : Alignment) : Bytes :=
  let n := match align with
    | .left => 0
    | .centre => 1
    | .right => 2
  [esc, gs, 0x61, n]

/-- Emphasis on and off are two commands. -/
def setBold (bold : Bool) : Bytes := [esc, if bold then 0x45 else 0x46]

def setSize (size : TextSize) : Bytes :=
  let (height, width) : UInt8 × UInt8 := match size with
    | .normal => (0, 0)
    | .doubleHeight => (1, 0)
    | .doubleWidth => (0, 1)
    | .doubleBoth => (1, 1)
  [esc, 0x69, height, width]

/-- Blank lines are line feeds. -/
def feed (lines : UInt8) : Bytes := List.replicate lines.toNat 0x0A

def symbologyCode : Symbology → UInt8
  | .ean13 => 3
  | .code39 => 4
  | .code128 => 6

/-- RS ends the data, so data with it is refused. -/
def barcode (symbology : Symbology) (data : Bytes) : Except HardwareError Bytes :=
  if rs ∈ data then .error (.invalidPayload "encode_barcode" "barcode data must not contain RS")
  else
    .ok ([esc, 0x62, symbologyCode symbology, 2, barcodeWidthMode, barcodeHeightDots] ++ data ++ [rs])

def qr (data : Bytes) : Except HardwareError Bytes :=
  let length := data.length
  if length < 2 ^ 16 then
    .ok ([esc, gs, 0x79, 0x53, 0x30, 0x02] ++ [esc, gs, 0x79, 0x53, 0x31, 0x01] ++
      [esc, gs, 0x79, 0x53, 0x32, qrCellSize] ++
      [esc, gs, 0x79, 0x44, 0x31, 0x00, UInt8.ofNat (length % 256), UInt8.ofNat (length / 256)] ++ data ++
      [esc, gs, 0x79, 0x50])
  else .error (.invalidPayload "encode_qr" "QR payload too large")

def cut : Bytes := [esc, 0x64, 3]

def drawerKick : Bytes := [esc, bel, 5, 50, bel]

def dialect : Dialect := ⟨initialise, setAlign, setBold, setSize, feed, barcode, qr, cut⟩

def encode (document : ReceiptDocument) : Except EncodeFailure Bytes := encodeDocument dialect document

end ApexEdge.Hardware.Star
