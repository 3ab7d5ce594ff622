import Mathlib.Algebra.GroupWithZero.Nat
import Mathlib.Algebra.Ring.Int.Defs
import Mathlib.Data.List.Basic

/-! Receipt text and the single-byte code page 437 of the printer. Characters that the page
lacks are spelled with letters, or become a question mark. -/

namespace ApexEdge.Hardware.Codepage

abbrev Bytes := List UInt8

/-- The Latin part of the page. One table serves both directions. -/
def cp437High : List (UInt8 × Char) := [
  (0x80, 'Ç'), (0x81, 'ü'), (0x82, 'é'), (0x83, 'â'), (0x84, 'ä'), (0x85, 'à'),
  (0x86, 'å'), (0x87, 'ç'), (0x88, 'ê'), (0x89, 'ë'), (0x8A, 'è'), (0x8B, 'ï'),
  (0x8C, 'î'), (0x8D, 'ì'), (0x8E, 'Ä'), (0x8F, 'Å'), (0x90, 'É'), (0x91, 'æ'),
  (0x92, 'Æ'), (0x93, 'ô'), (0x94, 'ö'), (0x95, 'ò'), (0x96, 'û'), (0x97, 'ù'),
  (0x98, 'ÿ'), (0x99, 'Ö'), (0x9A, 'Ü'), (0x9B, '¢'), (0x9C, '£'), (0x9D, '¥'),
  (0x9F, 'ƒ'), (0xA0, 'á'), (0xA1, 'í'), (0xA2, 'ó'), (0xA3, 'ú'), (0xA4, 'ñ'),
  (0xA5, 'Ñ'), (0xA6, 'ª'), (0xA7, 'º'), (0xA8, '¿'), (0xAA, '¬'), (0xAB, '½'),
  (0xAC, '¼'), (0xAD, '¡'), (0xAE, '«'), (0xAF, '»'), (0xE1, 'ß'), (0xE6, 'µ'),
  (0xF1, '±'), (0xF8, '°'), (0xFA, '·'), (0xFD, '²')]

def highByte (ch : Char) : Option UInt8 := (cp437High.find? (·.2 == ch)).map (·.1)

def highChar (byte : UInt8) : Option Char := (cp437High.find? (·.1 == byte)).map (·.2)

def isAscii (ch : Char) : Bool := ch.toNat < 128

def encodeChar (ch : Char) : Bytes :=
  match ch with
  | '\u20AC' => [0x45, 0x55, 0x52]
  | '\u2013' | '\u2014' => [0x2D]
  | '\u2018' | '\u2019' => [0x27]
  | '\u201C' | '\u201D' => [0x22]
  | '\u2026' => [0x2E, 0x2E, 0x2E]
  -- Layout owns line breaks.
  | '\n' | '\r' => [0x20]
  | ch => if isAscii ch then [UInt8.ofNat ch.toNat] else [(highByte ch).getD 0x3F]

def encode (text : String) : Bytes := text.toList.flatMap encodeChar

def decodeByte (byte : UInt8) : Char :=
  if byte ≤ 0x7F then Char.ofNat byte.toNat else (highChar byte).getD '\uFFFD'

def decode (bytes : Bytes) : String := String.ofList (bytes.map decodeByte)

/-- A character that the page prints as itself: printable ASCII or in the table. -/
def Printable (ch : Char) : Prop := 0x20 ≤ ch.toNat ∧ ch.toNat ≤ 0x7E ∨ ch ∈ cp437High.map (·.2)

/-- The one byte of a printable character. -/
def codeOf (ch : Char) : UInt8 := (encodeChar ch).headD 0

end ApexEdge.Hardware.Codepage

/-! A receipt without a printer: what to print, and how it is laid out on the paper. Layout
works on code page bytes; it is written for any kind of cell so that it can be compared with
the layout of the characters themselves. -/

namespace ApexEdge.Hardware
open Codepage

inductive Alignment where
  | left
  | centre
  | right
  deriving DecidableEq

inductive TextSize where
  | normal
  | doubleHeight
  | doubleWidth
  | doubleBoth
  deriving DecidableEq

/-- How many cells one glyph takes. -/
def TextSize.widthMultiple : TextSize → Nat
  | .doubleWidth | .doubleBoth => 2
  | .normal | .doubleHeight => 1

structure TextStyle where
  align : Alignment
  bold : Bool
  size : TextSize
  deriving DecidableEq

namespace TextStyle

def default : TextStyle := ⟨.left, false, .normal⟩

def centred : TextStyle := { default with align := .centre }

end TextStyle

inductive Symbology where
  | code128
  | ean13
  | code39
  deriving DecidableEq

inductive ReceiptElement where
  | text (content : String) (style : TextStyle)
  | columns (left right : String)
  | divider
  | feed (lines : UInt8)
  | barcode (symbology : Symbology) (data : String)
  | qrCode (data : String)
  | cut
  deriving DecidableEq

/-- The elements and the paper width in characters, which is never zero. -/
structure ReceiptDocument where
  widthChars : Nat
  elements : List ReceiptElement
  wide : 1 ≤ widthChars

def ReceiptDocument.new (widthChars : Nat) : ReceiptDocument := ⟨max widthChars 1, [], Nat.le_max_right ..⟩

def ReceiptDocument.push (doc : ReceiptDocument) (element : ReceiptElement) : ReceiptDocument :=
  { doc with elements := doc.elements ++ [element] }

section Layout
variable {α : Type} [DecidableEq α]

/-- Pieces of `width` cells; the last may be shorter. -/
def chunks (width : Nat) (cells : List α) : List (List α) :=
  if _short : width = 0 ∨ cells = [] then [] else
    cells.take width :: chunks width (cells.drop width)
termination_by cells.length
decreasing_by
  have := List.length_pos_of_ne_nil (not_or.mp _short).2
  have := (not_or.mp _short).1
  simp only [List.length_drop]
  omega

/-- The lines that are full and the one being filled. -/
structure Page (α : Type) where
  lines : List (List α)
  current : List α

def Page.take (page : Page α) : Page α := ⟨page.lines ++ [page.current], []⟩

/-- One word. A word longer than the line is split hard, which panics for lines of no width. -/
def layoutWord (space : α) (width : Nat) (page : Page α) (word : List α) : Option (Page α) :=
  if word.length > width then
    if width = 0 then none else
      let page := if page.current ≠ [] then page.take else page
      some { page with lines := page.lines ++ chunks width word }
  else
    let projected := if page.current = [] then word.length else page.current.length + 1 + word.length
    let page := if projected > width then page.take else page
    let current := if page.current ≠ [] then page.current ++ [space] else page.current
    some { page with current := current ++ word }

def Page.finish (page : Page α) : List (List α) :=
  if page.current ≠ [] ∨ page.lines = [] then page.lines ++ [page.current] else page.lines

/-- Wraps on word boundaries. -/
def layoutCells (space : α) (cells : List α) (width : Nat) : Option (List (List α)) :=
  if cells = [] then some [[]] else
    ((cells.splitOn space).foldlM (layoutWord space width) ⟨[], []⟩).map Page.finish

/-- The label is clipped when the two cannot both fit; the value never moves. -/
def layoutRow (space : α) (left right : List α) (width : Nat) : List α :=
  let row := left.take (width - (right.length + 1))
  row ++ List.replicate (max (width - (row.length + right.length)) 1) space ++ right

end Layout

def layoutText (content : String) (width : Nat) : Option (List Bytes) :=
  layoutCells 0x20 (encode content) width

def layoutColumns (left right : String) (width : Nat) : Bytes :=
  layoutRow 0x20 (encode left) (encode right) width

def layoutDivider (width : Nat) : Bytes := List.replicate width 0x2D

/-- The name of the symbology as it is shown instead of the bars. -/
def Symbology.shown : Symbology → String
  | .code128 => "Code128"
  | .ean13 => "Ean13"
  | .code39 => "Code39"

def spaces (count : Nat) : String := String.ofList (List.replicate count ' ')

/-- Alignment is shown in the text only; on paper the printer aligns. -/
def align (text : String) (width : Nat) (alignment : Alignment) : String :=
  let padding := width - text.length
  match alignment with
  | .left => text
  | .centre => spaces (padding / 2) ++ text
  | .right => spaces padding ++ text

/-- The lines in which one element is shown. Here the width is never zero. -/
def plainLines (width : Nat) : ReceiptElement → Option (List String)
  | .text content style =>
    let width := max (width / style.size.widthMultiple) 1
    (layoutText content width).map fun lines => lines.map fun line => align (decode line) width style.align
  | .columns left right => some [decode (layoutColumns left right width)]
  | .divider => some [decode (layoutDivider width)]
  | .feed lines => some (List.replicate lines.toNat "")
  | .barcode symbology data => some ["[" ++ symbology.shown ++ " " ++ data ++ "]"]
  | .qrCode data => some ["[QR " ++ data ++ "]"]
  | .cut => some ["-- cut --"]

def ReceiptDocument.plainText (doc : ReceiptDocument) : Option String :=
  (doc.elements.mapM (plainLines doc.widthChars)).map fun lines => "\n".intercalate lines.flatten

example : layoutText "ABCDEFGHIJ" 4 = some [encode "ABCD", encode "EFGH", encode "IJ"] := by
  decide +kernel

end ApexEdge.Hardware
