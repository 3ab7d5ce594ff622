import Mathlib.Algebra.GroupWithZero.Nat
import Mathlib.Algebra.Ring.Int.Defs
import Mathlib.Data.List.Basic

/-! The parts of a PDF file that everything else in it rests on: decimal numbers, the table
that says where each object starts, the length of a stream, and string literals. What reads
them is written against the file format and knows no writer. -/

namespace ApexEdge.Library.PdfFile

/-- The bytes of a text. -/
def utf8 (text : List Char) : List UInt8 := text.flatMap String.utf8EncodeChar

def ascii (text : String) : List UInt8 := utf8 text.toList

def code (digit : Char) : UInt8 := UInt8.ofNat digit.toNat

def decimal (n : Nat) : List UInt8 := (Nat.toDigits 10 n).map code

/-- With zeros before it, for a field of fixed width. -/
def padded (width n : Nat) : List UInt8 := List.replicate (width - (decimal n).length) 0x30 ++ decimal n

section Reading

def isDigit (byte : UInt8) : Bool := 0x30 ≤ byte ∧ byte ≤ 0x39

def number (digits : List UInt8) : Nat := Nat.ofDigitChars 10 (digits.map fun byte => Char.ofNat byte.toNat) 0

/-- What comes behind a token that has to stand here. -/
def expect (token input : List UInt8) : Option (List UInt8) :=
  if token <+: input then some (input.drop token.length) else none

/-- A number and what comes behind it. -/
def readNumber (input : List UInt8) : Option (Nat × List UInt8) :=
  if input.takeWhile isDigit = [] then none
  else some (number (input.takeWhile isDigit), input.dropWhile isDigit)

/-- Where the file says that its table starts, which is written at its end. -/
def readStart (file : List UInt8) : Option Nat := do
  let ending ← expect (ascii "\n%%EOF\n").reverse file.reverse
  let _ ← expect (ascii "startxref\n").reverse (ending.dropWhile isDigit)
  if ending.takeWhile isDigit = [] then none else some (number (ending.takeWhile isDigit).reverse)

/-- Entries of twenty bytes, each with the offset of an object in use. -/
def readEntries : Nat → List UInt8 → Option (List Nat × List UInt8)
  | 0, input => some ([], input)
  | count + 1, input =>
    if (input.take 10).length = 10 ∧ (input.take 10).all isDigit then do
      let others ← expect (ascii " 00000 n \n") (input.drop 10)
      let (offsets, rest) ← readEntries count others
      return (number (input.take 10) :: offsets, rest)
    else none

/-- The table: its size, an entry that is free, and those of all objects from the first on. -/
def readTable (input : List UInt8) : Option (List Nat × List UInt8) := do
  let input ← expect (ascii "xref\n0 ") input
  let (count, input) ← readNumber input
  let input ← expect (ascii "\n0000000000 65535 f \n") input
  readEntries (count - 1) input

/-- Where an object starts there stands its number. -/
def heading (id : Nat) : List UInt8 := decimal id ++ ascii " 0 obj\n"

/-- All objects from `id` on start where the table says. -/
def AllStart (file : List UInt8) : Nat → List Nat → Prop
  | _, [] => True
  | id, offset :: offsets => heading id <+: file.drop offset ∧ AllStart file (id + 1) offsets

instance AllStart.decidable (file : List UInt8) : ∀ id offsets, Decidable (AllStart file id offsets)
  | _, [] => .isTrue trivial
  | id, offset :: offsets =>
    have := AllStart.decidable file (id + 1) offsets
    inferInstanceAs (Decidable (heading id <+: file.drop offset ∧ AllStart file (id + 1) offsets))

/-- The bytes of a stream. There are as many as its length says, and then it ends. -/
def readStream (id : Nat) (input : List UInt8) : Option (List UInt8) := do
  let input ← expect (heading id ++ ascii "<< /Length ") input
  let (length, input) ← readNumber input
  let input ← expect (ascii " >>\nstream\n") input
  let _ ← expect (ascii "endstream\nendobj\n") (input.drop length)
  if length ≤ input.length then some (input.take length) else none

/-- Where the reader of string literals is. -/
inductive Mode where
  | outside
  | inside (depth : Nat) (text : List UInt8)
  /-- Behind a backslash. -/
  | escaped (depth : Nat) (text : List UInt8)
  /-- Behind some digits of a character's octal code. -/
  | octal (left value depth : Nat) (text : List UInt8)
  /-- Behind a carriage return, with which a line feed counts as one end of line. -/
  | returned (depth : Nat) (text : List UInt8)
  deriving DecidableEq

structure Lexer where
  mode : Mode
  strings : List (List UInt8)
  deriving DecidableEq

/-- A byte of a literal that nothing comes before. -/
def Lexer.inside (lexer : Lexer) (depth : Nat) (text : List UInt8) (byte : UInt8) : Lexer :=
  if byte = 0x5C then { lexer with mode := .escaped depth text }
  else if byte = 0x28 then { lexer with mode := .inside (depth + 1) (text ++ [byte]) }
  else if byte = 0x29 then
    match depth with
    | 0 => ⟨.outside, lexer.strings ++ [text]⟩
    | depth + 1 => { lexer with mode := .inside depth (text ++ [byte]) }
  else if byte = 0x0D then { lexer with mode := .returned depth (text ++ [0x0A]) }
  else { lexer with mode := .inside depth (text ++ [byte]) }

def isOctal (byte : UInt8) : Bool := 0x30 ≤ byte ∧ byte ≤ 0x37

/-- What a backslash makes of the byte behind it. -/
def Lexer.escape (lexer : Lexer) (depth : Nat) (text : List UInt8) (byte : UInt8) : Lexer :=
  let plain := fun (item : UInt8) => { lexer with mode := Mode.inside depth (text ++ [item]) }
  if isOctal byte then { lexer with mode := .octal 2 (byte.toNat - 0x30) depth text }
  else if byte = 0x6E then plain 0x0A
  else if byte = 0x72 then plain 0x0D
  else if byte = 0x74 then plain 0x09
  else if byte = 0x62 then plain 0x08
  else if byte = 0x66 then plain 0x0C
  else if byte = 0x0A then { lexer with mode := .inside depth text }
  else if byte = 0x0D then { lexer with mode := .returned depth text }
  else plain byte

def Lexer.read (lexer : Lexer) (byte : UInt8) : Option Lexer :=
  match lexer.mode with
  | .outside =>
    if byte = 0x28 then some { lexer with mode := .inside 0 [] }
    else if byte = 0x29 then none
    else some lexer
  | .inside depth text => some (lexer.inside depth text byte)
  | .escaped depth text => some (lexer.escape depth text byte)
  | .octal left value depth text =>
    if left ≠ 0 ∧ isOctal byte then
      some { lexer with mode := .octal (left - 1) (8 * value + (byte.toNat - 0x30)) depth text }
    else some (lexer.inside depth (text ++ [UInt8.ofNat value]) byte)
  | .returned depth text =>
    if byte = 0x0A then some { lexer with mode := .inside depth text } else some (lexer.inside depth text byte)

/-- The strings that a stream shows, in their order. -/
def readStrings (stream : List UInt8) : Option (List (List UInt8)) := do
  let lexer ← stream.foldlM Lexer.read ⟨.outside, []⟩
  if lexer.mode = .outside then some lexer.strings else none

/-- What a reader makes of a file whose object `content` is the stream of its page. -/
structure Reading where
  offsets : List Nat
  stream : List UInt8
  strings : List (List UInt8)
  deriving DecidableEq

def readFile (content : Nat) (file : List UInt8) : Option Reading := do
  let start ← readStart file
  let (offsets, _) ← readTable (file.drop start)
  let offset ← offsets[content - 1]?
  let stream ← readStream content (file.drop offset)
  let strings ← readStrings stream
  if ascii "%PDF-" <+: file ∧ AllStart file 1 offsets then some ⟨offsets, stream, strings⟩ else none

end Reading

section Numbers
variable {n width : Nat} {token input rest : List UInt8}

theorem digit_code : ∀ digit : Char, digit.isDigit = true → isDigit (code digit) = true ∧ Char.ofNat (code digit).toNat = digit := by
  intro digit isDigit
  have bounds : 48 ≤ digit.toNat ∧ digit.toNat ≤ 57 := by
    simp only [Char.isDigit, Bool.and_eq_true, decide_eq_true_eq] at isDigit
    exact ⟨UInt32.le_iff_toNat_le.mp isDigit.1, UInt32.le_iff_toNat_le.mp isDigit.2⟩
  have all : ∀ n < 58, 48 ≤ n → PdfFile.isDigit (UInt8.ofNat n) = true ∧ (UInt8.ofNat n).toNat = n := by decide
  obtain ⟨digits, back⟩ := all digit.toNat (Nat.lt_succ_of_le bounds.2) bounds.1
  refine ⟨digits, ?_⟩
  rw [code, back, Char.ofNat_toNat]

theorem decimal_digits : ∀ byte ∈ decimal n, isDigit byte = true := by
  intro byte member
  obtain ⟨digit, inside, rfl⟩ := List.mem_map.mp member
  exact (digit_code digit (Nat.isDigit_of_mem_toDigits (by decide) (by decide) inside)).1

theorem decimal_some : decimal n ≠ [] := mt List.map_eq_nil_iff.mp Nat.toDigits_ne_nil

/-- The digits of a number say which it is. -/
theorem number_decimal : number (decimal n) = n := by
  have back : (decimal n).map (fun byte => Char.ofNat byte.toNat) = Nat.toDigits 10 n := by
    rw [decimal, List.map_map]
    refine (List.map_congr_left fun digit inside => ?_).trans (List.map_id _)
    exact (digit_code digit (Nat.isDigit_of_mem_toDigits (by decide) (by decide) inside)).2
  rw [number, back, Nat.ofDigitChars_ten_toDigits]

theorem padded_digits : ∀ byte ∈ padded width n, isDigit byte = true := by
  intro byte member
  rcases List.mem_append.mp member with zero | digit
  · rw [(List.mem_replicate.mp zero).2]
    rfl
  · exact decimal_digits byte digit

theorem number_padded : number (padded width n) = n := by
  have zeros : ∀ count : Nat, (List.replicate count (0x30 : UInt8)).map (fun byte => Char.ofNat byte.toNat) =
      List.replicate count '0' := fun count => List.map_replicate
  rw [padded, number, List.map_append, zeros, Nat.ofDigitChars_append, Nat.ofDigitChars_replicate_zero, Nat.mul_zero]
  exact number_decimal

theorem padded_length (short : n < 10 ^ width) (some : 0 < width) : (padded width n).length = width := by
  have digits : (decimal n).length ≤ width := by
    rw [decimal, List.length_map]
    exact (Nat.length_toDigits_le_iff (by decide) some).mpr short
  rw [padded, List.length_append, List.length_replicate]
  omega

@[simp] theorem expect_append (token rest : List UInt8) : expect token (token ++ rest) = some rest := by
  rw [expect, if_pos (List.prefix_append ..), List.drop_left]

theorem takeWhile_decimal (stops : rest.head?.all fun byte => !isDigit byte) :
    (decimal n ++ rest).takeWhile isDigit = decimal n ∧ (decimal n ++ rest).dropWhile isDigit = rest := by
  rw [List.takeWhile_append_of_pos decimal_digits, List.dropWhile_append_of_pos decimal_digits]
  cases rest with
  | nil => exact ⟨List.append_nil _, rfl⟩
  | cons byte rest =>
    have ends : isDigit byte = false := by simpa using stops
    rw [List.takeWhile_cons_of_neg (by rw [ends]; decide), List.dropWhile_cons_of_neg (by rw [ends]; decide), List.append_nil]
    exact ⟨rfl, rfl⟩

theorem readNumber_decimal (stops : rest.head?.all fun byte => !isDigit byte) :
    readNumber (decimal n ++ rest) = some (n, rest) := by
  obtain ⟨digits, behind⟩ := takeWhile_decimal (n := n) stops
  rw [readNumber, digits, behind, if_neg decimal_some, number_decimal]

/-- What is written at the end of a file is found there. -/
theorem readStart_file (body : List UInt8) (n : Nat) :
    readStart (body ++ ascii "startxref\n" ++ decimal n ++ ascii "\n%%EOF\n") = some n := by
  have all : ∀ byte ∈ (decimal n).reverse, isDigit byte = true := fun byte member =>
    decimal_digits byte (List.mem_reverse.mp member)
  have ending : (ascii "startxref\n").reverse ++ body.reverse =
      0x0A :: ((ascii "startxref").reverse ++ body.reverse) := by
    rw [show (ascii "startxref\n").reverse = 0x0A :: (ascii "startxref").reverse from by decide +kernel]
    rfl
  rw [readStart, List.reverse_append, List.reverse_append, List.reverse_append, expect_append]
  change (expect _ (((decimal n).reverse ++ ((ascii "startxref\n").reverse ++ body.reverse)).dropWhile isDigit) >>= _) = _
  rw [List.dropWhile_append_of_pos all, List.takeWhile_append_of_pos all, ending,
    List.dropWhile_cons_of_neg (by decide), List.takeWhile_cons_of_neg (by decide), ← ending, expect_append,
    List.append_nil]
  change (if (decimal n).reverse = [] then none else some (number (decimal n).reverse.reverse)) = some n
  rw [if_neg (mt List.reverse_eq_nil_iff.mp decimal_some), List.reverse_reverse, number_decimal]

/-- The entry of an object in use. -/
def entry (offset : Nat) : List UInt8 := padded 10 offset ++ ascii " 00000 n \n"

theorem readEntries_entries {offsets : List Nat} (short : ∀ offset ∈ offsets, offset < 10 ^ 10) (rest : List UInt8) :
    readEntries offsets.length (offsets.flatMap entry ++ rest) = some (offsets, rest) := by
  induction offsets with
  | nil => rfl
  | cons offset offsets ih =>
    obtain ⟨fits, others⟩ := List.forall_mem_cons.mp short
    have wide := padded_length fits (by decide)
    have field : (padded 10 offset ++ (ascii " 00000 n \n" ++ (offsets.flatMap entry ++ rest))).take 10 = padded 10 offset :=
      List.take_left' wide
    have behind : (padded 10 offset ++ (ascii " 00000 n \n" ++ (offsets.flatMap entry ++ rest))).drop 10 =
        ascii " 00000 n \n" ++ (offsets.flatMap entry ++ rest) := List.drop_left' wide
    rw [List.length_cons, List.flatMap_cons, entry, List.append_assoc, List.append_assoc, readEntries, field, behind,
      if_pos ⟨wide, List.all_eq_true.mpr padded_digits⟩, expect_append, number_padded]
    change (readEntries offsets.length (offsets.flatMap entry ++ rest) >>= _) = _
    rw [ih others]
    rfl

theorem readTable_table {offsets : List Nat} (short : ∀ offset ∈ offsets, offset < 10 ^ 10) (rest : List UInt8) :
    readTable (ascii "xref\n0 " ++ decimal (offsets.length + 1) ++ ascii "\n0000000000 65535 f \n" ++
      offsets.flatMap entry ++ rest) = some (offsets, rest) := by
  have stops : (ascii "\n0000000000 65535 f \n" ++ (offsets.flatMap entry ++ rest)).head?.all fun byte => !isDigit byte := by
    rw [show ascii "\n0000000000 65535 f \n" = 0x0A :: ascii "0000000000 65535 f \n" from by decide +kernel]
    rfl
  simp only [List.append_assoc]
  rw [readTable, expect_append]
  simp only [Option.bind_eq_bind, Option.bind_some]
  rw [readNumber_decimal stops, Option.bind_some, expect_append, Option.bind_some, Nat.add_sub_cancel]
  exact readEntries_entries short rest

/-- The bytes of a stream are read by their number. -/
theorem readStream_stream (id : Nat) (stream rest : List UInt8) :
    readStream id (heading id ++ ascii "<< /Length " ++ decimal stream.length ++ ascii " >>\nstream\n" ++ stream ++
      ascii "endstream\nendobj\n" ++ rest) = some stream := by
  have stops : (ascii " >>\nstream\n" ++ (stream ++ (ascii "endstream\nendobj\n" ++ rest))).head?.all
      fun byte => !isDigit byte := by
    rw [show ascii " >>\nstream\n" = 0x20 :: ascii ">>\nstream\n" from by decide +kernel]
    rfl
  simp only [List.append_assoc]
  rw [readStream, ← List.append_assoc, expect_append]
  simp only [Option.bind_eq_bind, Option.bind_some]
  rw [readNumber_decimal stops, Option.bind_some, expect_append, Option.bind_some, List.drop_left, expect_append,
    Option.bind_some]
  rw [if_pos (by rw [List.length_append]; exact Nat.le_add_right ..), List.take_left]

end Numbers

section Objects
variable {file more : List UInt8} {id offset : Nat} {offsets : List Nat}

theorem prefix_longer {token : List UInt8} (stands : token <+: file.drop offset) (more : List UInt8) :
    token <+: (file ++ more).drop offset := by
  by_cases inside : offset ≤ file.length
  · rw [List.drop_append_of_le_length inside]
    exact stands.trans (List.prefix_append ..)
  · rw [List.drop_eq_nil_of_le (Nat.le_of_not_le inside), List.prefix_nil] at stands
    exact stands ▸ List.nil_prefix

/-- What is written later moves no object. -/
theorem AllStart.longer (all : AllStart file id offsets) (more : List UInt8) : AllStart (file ++ more) id offsets := by
  induction offsets generalizing id with
  | nil => trivial
  | cons offset offsets ih => exact ⟨prefix_longer all.1 more, ih all.2⟩

theorem AllStart.next (all : AllStart file id offsets) (stands : heading (id + offsets.length) <+: file.drop offset) :
    AllStart file id (offsets ++ [offset]) := by
  induction offsets generalizing id with
  | nil => exact ⟨stands, trivial⟩
  | cons first offsets ih =>
    refine ⟨all.1, ih all.2 ?_⟩
    rw [List.length_cons] at stands
    rwa [Nat.add_assoc, Nat.add_comm 1]

end Objects

section Strings
variable {text bytes rest : List UInt8} {strings : List (List UInt8)}

/-- A byte of a literal. Those that mean something there have a backslash before them. -/
def escapeByte (byte : UInt8) : List UInt8 := if byte = 0x5C ∨ byte = 0x28 ∨ byte = 0x29 then [0x5C, byte] else [byte]

theorem read_outside (plain : ∀ byte ∈ bytes, byte ≠ 0x28 ∧ byte ≠ 0x29) (rest : List UInt8) :
    (bytes ++ rest).foldlM Lexer.read ⟨.outside, strings⟩ = rest.foldlM Lexer.read ⟨.outside, strings⟩ := by
  induction bytes with
  | nil => rfl
  | cons byte bytes ih =>
    obtain ⟨⟨noOpening, noClosing⟩, others⟩ := List.forall_mem_cons.mp plain
    have stays : Lexer.read ⟨.outside, strings⟩ byte = some ⟨.outside, strings⟩ := by
      simp only [Lexer.read, if_neg noOpening, if_neg noClosing]
    rw [List.cons_append, List.foldlM_cons, stays]
    exact ih others

theorem read_byte {byte : UInt8} (visible : byte ≠ 0x0D) (text rest : List UInt8) :
    (escapeByte byte ++ rest).foldlM Lexer.read ⟨.inside 0 text, strings⟩ =
      rest.foldlM Lexer.read ⟨.inside 0 (text ++ [byte]), strings⟩ := by
  by_cases special : byte = 0x5C ∨ byte = 0x28 ∨ byte = 0x29
  · rw [escapeByte, if_pos special]
    rcases special with rfl | rfl | rfl <;> rfl
  · obtain ⟨noSlash, noOpening, noClosing⟩ : byte ≠ 0x5C ∧ byte ≠ 0x28 ∧ byte ≠ 0x29 := by
      simpa only [not_or] using special
    have stays : Lexer.read ⟨.inside 0 text, strings⟩ byte = some ⟨.inside 0 (text ++ [byte]), strings⟩ := by
      simp only [Lexer.read, Lexer.inside, if_neg noSlash, if_neg noOpening, if_neg noClosing, if_neg visible]
    rw [escapeByte, if_neg special, List.singleton_append, List.foldlM_cons, stays]
    rfl

theorem read_text (visible : 0x0D ∉ bytes) (text rest : List UInt8) :
    (bytes.flatMap escapeByte ++ rest).foldlM Lexer.read ⟨.inside 0 text, strings⟩ =
      rest.foldlM Lexer.read ⟨.inside 0 (text ++ bytes), strings⟩ := by
  induction bytes generalizing text with
  | nil => rw [List.append_nil]; rfl
  | cons byte bytes ih =>
    obtain ⟨here, others⟩ := not_or.mp (mt List.mem_cons.mpr visible)
    rw [List.flatMap_cons, List.append_assoc, read_byte (Ne.symm here), ih others, List.append_assoc]
    rfl

/-- An escaped literal is read as the text it stands for. -/
theorem read_literal (visible : 0x0D ∉ text) (rest : List UInt8) :
    (0x28 :: (text.flatMap escapeByte ++ 0x29 :: rest)).foldlM Lexer.read ⟨.outside, strings⟩ =
      rest.foldlM Lexer.read ⟨.outside, strings ++ [text]⟩ := by
  rw [List.foldlM_cons]
  change (text.flatMap escapeByte ++ 0x29 :: rest).foldlM Lexer.read ⟨.inside 0 [], strings⟩ = _
  rw [read_text visible, List.foldlM_cons]
  rfl

end Strings

section Encoding

/-- Beyond ASCII no byte of a character is one of ASCII. -/
theorem utf8EncodeChar_high {c : Char} (high : 128 ≤ c.toNat) : ∀ byte ∈ String.utf8EncodeChar c, 128 ≤ byte.toNat := by
  have big : ∀ n : Nat, 128 ≤ n → n < 256 → 128 ≤ (UInt8.ofNat n).toNat := by
    intro n low small
    rw [UInt8.toNat_ofNat', Nat.mod_eq_of_lt small]
    exact low
  have long : ¬c.val.toNat ≤ 0x7f := by
    change ¬c.toNat ≤ 0x7f
    omega
  unfold String.utf8EncodeChar
  dsimp only
  rw [if_neg long]
  intro byte member
  split at member
  · simp only [List.mem_cons, List.not_mem_nil, or_false] at member
    rcases member with rfl | rfl <;> exact big _ (by omega) (by omega)
  · split at member
    · simp only [List.mem_cons, List.not_mem_nil, or_false] at member
      rcases member with rfl | rfl | rfl <;> exact big _ (by omega) (by omega)
    · simp only [List.mem_cons, List.not_mem_nil, or_false] at member
      rcases member with rfl | rfl | rfl | rfl <;> exact big _ (by omega) (by omega)

theorem utf8EncodeChar_low {c : Char} (low : c.toNat < 128) : String.utf8EncodeChar c = [UInt8.ofNat c.toNat] := by
  unfold String.utf8EncodeChar
  dsimp only
  rw [if_pos (show c.val.toNat ≤ 0x7f from Nat.le_of_lt_succ low)]
  rfl

/-- A byte of ASCII stands for itself and nothing else. -/
theorem mem_utf8 {text : List Char} {byte : UInt8} (low : byte.toNat < 128) :
    byte ∈ utf8 text ↔ Char.ofNat byte.toNat ∈ text := by
  rw [utf8, List.mem_flatMap]
  constructor
  · intro ⟨c, inside, member⟩
    by_cases high : 128 ≤ c.toNat
    · have beyond := utf8EncodeChar_high high byte member
      omega
    · have small : c.toNat < 128 := Nat.lt_of_not_le high
      rw [utf8EncodeChar_low small, List.mem_singleton] at member
      rw [member, UInt8.toNat_ofNat', Nat.mod_eq_of_lt (by omega), Char.ofNat_toNat]
      exact inside
  · intro inside
    have same : (Char.ofNat byte.toNat).toNat = byte.toNat := by
      have valid : byte.toNat.isValidChar := .inl (by omega)
      rw [Char.ofNat, dif_pos valid]
      exact UInt32.toNat_ofNatLT ..
    refine ⟨_, inside, ?_⟩
    rw [utf8EncodeChar_low (by omega), same, UInt8.ofNat_toNat]
    exact List.mem_singleton_self byte

end Encoding

end ApexEdge.Library.PdfFile
