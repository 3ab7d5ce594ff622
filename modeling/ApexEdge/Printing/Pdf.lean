import ApexEdge.Library.PdfFile
import ApexEdge.Library.Replacing
import ApexEdge.Library.Text
import ApexEdge.Sync.SyncRun

/-! A receipt in HTML as a PDF of one page. What stands outside of tags is wrapped, and the
lines are shown one under the other. -/

namespace ApexEdge.Printing
open Library.PdfFile Library.Replacing Library.Words Sync

/-- The tags that end a line. -/
def lineTags : List String := ["p", "div", "li", "tr", "h1", "h2", "h3", "h4", "h5", "h6", "br"]

def trimStart (c : Char) (text : List Char) : List Char := text.dropWhile (· == c)

def trimEnd (c : Char) (text : List Char) : List Char := (text.reverse.dropWhile (· == c)).reverse

/-- The first word between the brackets, without slashes. -/
def tagName (raw : List Char) : String :=
  let tag := trimEnd '/' (trimStart '/' (trim raw))
  String.ofList (((words isWhitespace tag).headD []).map Char.toLower)

structure Stripper where
  out : List Char
  inTag : Bool
  tagBuf : List Char

/-- A line that has just ended does not end again. -/
def newLine (out : List Char) : List Char := if out.getLast? = some '\n' then out else out ++ ['\n']

def Stripper.step (stripper : Stripper) (ch : Char) : Stripper :=
  if stripper.inTag then
    if ch = '>' then
      let out := if tagName stripper.tagBuf ∈ lineTags then newLine stripper.out else stripper.out
      ⟨out, false, []⟩
    else { stripper with tagBuf := stripper.tagBuf ++ [ch] }
  else if ch = '<' then { stripper with inTag := true, tagBuf := [] }
  else { stripper with out := stripper.out ++ [ch] }

def stripTags (html : List Char) : List Char := (html.foldl Stripper.step ⟨[], false, []⟩).out

def htmlToText (html : List Char) : List Char :=
  let out := replaceAll "&nbsp;".toList " ".toList (stripTags html)
  let out := replaceAll "&amp;".toList "&".toList out
  let out := replaceAll "&lt;".toList "<".toList out
  replaceAll "&gt;".toList ">".toList out

/-- The lines that are full and the one being filled. -/
structure Wrapping where
  lines : List (List Char)
  current : List Char

def Wrapping.word (maxChars : Nat) (wrapping : Wrapping) (word : List Char) : Wrapping :=
  let needsSpace := wrapping.current ≠ []
  let projected := wrapping.current.length + word.length + (if needsSpace then 1 else 0)
  if projected > maxChars ∧ wrapping.current ≠ [] then ⟨wrapping.lines ++ [wrapping.current], word⟩
  else
    let current := if needsSpace then wrapping.current ++ [' '] else wrapping.current
    { wrapping with current := current ++ word }

def Wrapping.finish (wrapping : Wrapping) : List (List Char) :=
  if wrapping.current ≠ [] then wrapping.lines ++ [wrapping.current] else wrapping.lines

def wrapLine (maxChars : Nat) (line : List Char) : List (List Char) :=
  ((words isWhitespace line).foldl (Wrapping.word maxChars) ⟨[], []⟩).finish

def wrapLines (text : List Char) (maxChars : Nat) : List (List Char) :=
  let normalized := ((lines text).map trim).filter (· ≠ [])
  let wrapped := normalized.flatMap (wrapLine maxChars)
  if wrapped = [] then [[' ']] else wrapped

def escapePdfText (input : List Char) : List Char :=
  replaceAll [')'] ['\\', ')'] (replaceAll ['('] ['\\', '('] (replaceAll ['\\'] ['\\', '\\'] input))

/-- The file as far as it is written, and where its objects start. -/
structure Writer where
  pdf : List UInt8
  offsets : List Nat

def Writer.write (writer : Writer) (bytes : List UInt8) : Writer := { writer with pdf := writer.pdf ++ bytes }

def Writer.note (writer : Writer) : Writer := { writer with offsets := writer.offsets ++ [writer.pdf.length] }

def Writer.obj (writer : Writer) (id : Nat) (body : String) : Writer :=
  writer.note.write (decimal id ++ ascii " 0 obj\n" ++ ascii body ++ ascii "\nendobj\n")

/-- The first line is shown where the text starts, each other one below the one before it. -/
def showLine (index : Nat) (line : List Char) : List UInt8 :=
  (if index = 0 then [] else ascii "T*\n") ++ ascii "(" ++ utf8 (escapePdfText line) ++ ascii ") Tj\n"

def contentStream (lines : List (List Char)) : List UInt8 :=
  ascii "BT\n/F1 11 Tf\n14 TL\n50 792 Td\n" ++ (lines.mapIdx showLine).flatten ++ ascii "ET\n"

/-- The objects before the page's content. -/
def preamble : Writer :=
  let start : Writer := ⟨ascii "%PDF-1.4\n%" ++ [0xE2, 0xE3, 0xCF, 0xD3] ++ ascii "\n", [0]⟩
  let writer := start.obj 1 "<< /Type /Catalog /Pages 2 0 R >>"
  let writer := writer.obj 2 "<< /Type /Pages /Kids [3 0 R] /Count 1 >>"
  let writer := writer.obj 3
    "<< /Type /Page /Parent 2 0 R /MediaBox [0 0 595 842] /Resources << /Font << /F1 4 0 R >> >> /Contents 5 0 R >>"
  writer.obj 4 "<< /Type /Font /Subtype /Type1 /BaseFont /Helvetica >>"

def Writer.stream (writer : Writer) (bytes : List UInt8) : Writer :=
  writer.note.write (ascii "5 0 obj\n<< /Length " ++ decimal bytes.length ++ ascii " >>\nstream\n" ++ bytes ++
    ascii "endstream\nendobj\n")

def Writer.finish (writer : Writer) : List UInt8 :=
  let xrefStart := writer.pdf.length
  let objectCount := writer.offsets.length
  writer.pdf ++ ascii "xref\n0 " ++ decimal objectCount ++ ascii "\n" ++ ascii "0000000000 65535 f \n" ++
    (writer.offsets.drop 1).flatMap (fun offset => padded 10 offset ++ ascii " 00000 n \n") ++
    ascii "trailer\n<< /Size " ++ decimal objectCount ++ ascii " /Root 1 0 R >>\nstartxref\n" ++
    decimal xrefStart ++ ascii "\n%%EOF\n"

def htmlToPdf (html : String) : List UInt8 :=
  (preamble.stream (contentStream (wrapLines (htmlToText html.toList) 90))).finish

end ApexEdge.Printing
