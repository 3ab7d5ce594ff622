import ApexEdge.Library.Totals

/-! Rows of fields as text: fields are set apart by a separator, records by line breaks, and a
field may stand in quotes, in which a quote is doubled. A reader of such text, and when it
reads back what a writer wrote. -/

namespace ApexEdge.Library.Delimited

abbrev Field := List Char
abbrev Record := List Field

/-- The characters of a format; a line feed ends a line, a carriage return where it says so. -/
structure Delimiters where
  separator : Char
  quote : Char
  returns : Bool
  apart : quote ≠ separator
  separator_inside : separator ≠ '\n' ∧ separator ≠ '\r'
  quote_inside : quote ≠ '\n' ∧ quote ≠ '\r'

/-- Where a reader stands: before a field, behind a carriage return, in a field, in its
quotes, or behind a quote in them. -/
inductive Mode where
  | start | returned | plain | quoted | closed
  deriving DecidableEq, Repr

structure Reader where
  records : List Record
  fields : List Field
  field : Field
  mode : Mode
  deriving DecidableEq, Repr

namespace Reader

def endField (reader : Reader) : Reader := ⟨reader.records, reader.fields ++ [reader.field], [], .start⟩

def endRecord (reader : Reader) (mode : Mode) : Reader :=
  ⟨reader.records ++ [reader.fields ++ [reader.field]], [], [], mode⟩

def take (reader : Reader) (char : Char) (mode : Mode) : Reader :=
  { reader with field := reader.field ++ [char], mode := mode }

def outside (delimiters : Delimiters) (reader : Reader) (char : Char) : Reader :=
  if char = delimiters.separator then reader.endField
  else if char = '\n' then reader.endRecord .start
  else if delimiters.returns ∧ char = '\r' then reader.endRecord .returned
  else reader.take char .plain

def step (delimiters : Delimiters) (reader : Reader) (char : Char) : Reader :=
  match reader.mode with
  | .start => if char = delimiters.quote then { reader with mode := .quoted } else outside delimiters reader char
  | .returned =>
    -- a line feed behind a carriage return belongs to the same line break
    if char = '\n' then { reader with mode := .start }
    else if char = delimiters.quote then { reader with mode := .quoted }
    else outside delimiters reader char
  | .plain => outside delimiters reader char
  | .quoted => if char = delimiters.quote then { reader with mode := .closed } else reader.take char .quoted
  | .closed => if char = delimiters.quote then reader.take char .quoted else outside delimiters reader char

/-- At the end of the text, a record that has begun is a record. -/
def finish (reader : Reader) : List Record :=
  if reader.fields = [] ∧ (reader.mode = .start ∨ reader.mode = .returned) then reader.records
  else reader.records ++ [reader.fields ++ [reader.field]]

end Reader

def read (delimiters : Delimiters) (text : List Char) : List Record :=
  (text.foldl (Reader.step delimiters) ⟨[], [], [], .start⟩).finish

/-- A writer of a format, which quotes what would not stand without quotes. -/
structure Writer where
  delimiters : Delimiters
  quotes : Field → Bool
  covers : ∀ field, delimiters.separator ∈ field ∨ delimiters.quote ∈ field ∨ '\n' ∈ field → quotes field = true

namespace Writer
variable (writer : Writer)

def escape (field : Field) : List Char :=
  if writer.quotes field then
    writer.delimiters.quote ::
      field.flatMap (fun char => if char = writer.delimiters.quote then [char, char] else [char]) ++
      [writer.delimiters.quote]
  else field

def row (fields : Record) : List Char :=
  [writer.delimiters.separator].intercalate (fields.map writer.escape) ++ ['\n']

def table (rows : List Record) : List Char := rows.flatMap writer.row

end Writer

/-! ### Fields that stand -/

section Fields
variable {writer : Writer} {reader : Reader} {field : Field} {records : List Record} {fields : List Field}

/-- A field that a reader does not end early: one in quotes, or without carriage returns that would. -/
def Stands (writer : Writer) (field : Field) : Prop :=
  writer.delimiters.returns = true → '\r' ∈ field → writer.quotes field = true

/-- A field that is written without quotes has nothing in it that ends it, but for carriage returns. -/
theorem unquoted (bare : writer.quotes field = false) :
    ∀ char ∈ field, char ≠ writer.delimiters.separator ∧ char ≠ writer.delimiters.quote ∧ char ≠ '\n' := by
  intro char member
  have covers := writer.covers field
  rw [bare] at covers
  refine ⟨?_, ?_, ?_⟩
  · rintro rfl
    exact nomatch covers (.inl member)
  · rintro rfl
    exact nomatch covers (.inr (.inl member))
  · rintro rfl
    exact nomatch covers (.inr (.inr member))

theorem escape_unquoted (bare : writer.quotes field = false) : writer.escape field = field := by
  rw [Writer.escape, if_neg (by simp [bare])]

theorem read_quoted (delimiters : Delimiters) (taken field : Field) (fields : List Field) (records : List Record) :
    (field.flatMap fun char => if char = delimiters.quote then [char, char] else [char]).foldl
      (Reader.step delimiters) ⟨records, fields, taken, .quoted⟩ = ⟨records, fields, taken ++ field, .quoted⟩ := by
  induction field generalizing taken with
  | nil => rw [List.append_nil]; rfl
  | cons char field ih =>
    have first : (if char = delimiters.quote then [char, char] else [char]).foldl
        (Reader.step delimiters) ⟨records, fields, taken, .quoted⟩ = ⟨records, fields, taken ++ [char], .quoted⟩ := by
      by_cases quote : char = delimiters.quote
      · simp [quote, Reader.step, Reader.take]
      · simp [quote, Reader.step, Reader.take]
    rw [List.flatMap_cons, List.foldl_append, first, ih, List.append_assoc]
    rfl

/-- What a reader makes of a field without quotes that has nothing special in it. -/
theorem read_plain {delimiters : Delimiters} (taken : Field)
    (ordinary : ∀ char ∈ field, char ≠ delimiters.separator ∧ char ≠ delimiters.quote ∧ char ≠ '\n' ∧
      ¬(delimiters.returns = true ∧ char = '\r')) :
    field.foldl (Reader.step delimiters) ⟨records, fields, taken, .plain⟩ =
      ⟨records, fields, taken ++ field, .plain⟩ := by
  induction field generalizing taken with
  | nil => rw [List.append_nil]; rfl
  | cons char field ih =>
    obtain ⟨⟨separator, quote, feed, back⟩, later⟩ := List.forall_mem_cons.mp ordinary
    have first : Reader.step delimiters ⟨records, fields, taken, .plain⟩ char =
        ⟨records, fields, taken ++ [char], .plain⟩ := by
      simp [Reader.step, Reader.outside, Reader.take, separator, feed, back]
    rw [List.foldl_cons, first, ih _ later, List.append_assoc]
    rfl

/-- A reader that is not inside quotes, and behind a break has nothing under way. -/
structure Between (reader : Reader) : Prop where
  outside : reader.mode ≠ .quoted
  started : reader.mode = .start → reader.field = []
  returned : reader.mode = .returned → reader.fields = [] ∧ reader.field = []

/-- Behind a field, a separator ends it. -/
theorem separator_ends {delimiters : Delimiters} (between : Between reader) :
    reader.step delimiters delimiters.separator = reader.endField := by
  have apart := delimiters.apart.symm
  have inside := delimiters.separator_inside.1
  obtain ⟨outside, -, -⟩ := between
  unfold Reader.step Reader.outside
  cases mode : reader.mode with
  | quoted => exact absurd mode outside
  | _ => simp [apart, inside]

/-- Behind a field, a line feed ends the record, or the line break has ended it already. -/
theorem feed_ends {delimiters : Delimiters} (between : Between reader) :
    reader.step delimiters '\n' = if reader.mode = .returned then { reader with mode := .start }
      else reader.endRecord .start := by
  have quote := delimiters.quote_inside.1.symm
  have inside := delimiters.separator_inside.1.symm
  obtain ⟨outside, -, -⟩ := between
  unfold Reader.step Reader.outside
  cases mode : reader.mode with
  | quoted => exact absurd mode outside
  | _ => simp [quote, inside]

theorem read_escaped (quoted : writer.quotes field = true) (records : List Record) (fields : List Field) :
    (writer.escape field).foldl (Reader.step writer.delimiters) ⟨records, fields, [], .start⟩ =
      ⟨records, fields, field, .closed⟩ := by
  rw [Writer.escape, if_pos quoted, List.cons_append, List.foldl_cons, List.foldl_append]
  have opened : Reader.step writer.delimiters ⟨records, fields, [], .start⟩ writer.delimiters.quote =
      ⟨records, fields, [], .quoted⟩ := by
    simp [Reader.step]
  rw [opened, read_quoted, List.nil_append]
  simp [Reader.step]

/-- A field that stands is read whole. -/
theorem read_field (stands : Stands writer field) (records : List Record) (fields : List Field) :
    ∃ mode, mode ≠ .returned ∧ Between ⟨records, fields, field, mode⟩ ∧
      (writer.escape field).foldl (Reader.step writer.delimiters) ⟨records, fields, [], .start⟩ =
        ⟨records, fields, field, mode⟩ := by
  cases quoted : writer.quotes field with
  | true => exact ⟨.closed, nofun, ⟨nofun, nofun, nofun⟩, read_escaped quoted records fields⟩
  | false =>
    have ordinary : ∀ char ∈ field, char ≠ writer.delimiters.separator ∧ char ≠ writer.delimiters.quote ∧
        char ≠ '\n' ∧ ¬(writer.delimiters.returns = true ∧ char = '\r') := by
      intro char member
      obtain ⟨separator, quote, feed⟩ := unquoted quoted char member
      refine ⟨separator, quote, feed, ?_⟩
      rintro ⟨ends, rfl⟩
      exact nomatch quoted.symm.trans (stands ends member)
    rw [escape_unquoted quoted]
    cases field with
    | nil => exact ⟨.start, nofun, ⟨nofun, fun _ => rfl, nofun⟩, rfl⟩
    | cons char rest =>
      obtain ⟨⟨separator, quote, feed, back⟩, later⟩ := List.forall_mem_cons.mp ordinary
      have first : Reader.step writer.delimiters ⟨records, fields, [], .start⟩ char =
          ⟨records, fields, [char], .plain⟩ := by
        simp [Reader.step, Reader.outside, Reader.take, separator, quote, feed, back]
      refine ⟨.plain, nofun, ⟨nofun, nofun, nofun⟩, ?_⟩
      rw [List.foldl_cons, first, read_plain [char] later]
      rfl

theorem row_single (field : Field) : writer.row [field] = writer.escape field ++ ['\n'] := by
  simp [Writer.row, List.intercalate]

theorem row_cons (field next : Field) (rest : Record) :
    writer.row (field :: next :: rest) = writer.escape field ++ writer.delimiters.separator :: writer.row (next :: rest) := by
  simp [Writer.row, List.intercalate]

/-- A row of fields that stand is read as it is. -/
theorem read_row {row : Record} (some : row ≠ []) (stand : ∀ field ∈ row, Stands writer field) (before : List Field) :
    (writer.row row).foldl (Reader.step writer.delimiters) ⟨records, before, [], .start⟩ =
      ⟨records ++ [before ++ row], [], [], .start⟩ := by
  induction row generalizing before with
  | nil => exact absurd rfl some
  | cons field rest ih =>
    obtain ⟨here, later⟩ := List.forall_mem_cons.mp stand
    obtain ⟨mode, settled, between, taken⟩ := read_field here records before
    cases rest with
    | nil =>
      rw [row_single, List.foldl_append, taken, List.foldl_cons, feed_ends between, if_neg settled]
      rfl
    | cons next rest =>
      rw [row_cons, List.foldl_append, taken, List.foldl_cons, separator_ends between]
      have tail := ih (List.cons_ne_nil _ _) later (before ++ [field])
      rw [List.append_assoc] at tail
      exact tail

/-- A row without fields looks like a row with an empty one. -/
def filled (row : Record) : Record := if row = [] then [[]] else row

theorem read_rows {rows : List Record} (stand : ∀ row ∈ rows, ∀ field ∈ row, Stands writer field)
    (records : List Record) :
    (writer.table rows).foldl (Reader.step writer.delimiters) ⟨records, [], [], .start⟩ =
      ⟨records ++ rows.map filled, [], [], .start⟩ := by
  induction rows generalizing records with
  | nil => rw [List.map_nil, List.append_nil]; rfl
  | cons row rows ih =>
    obtain ⟨here, later⟩ := List.forall_mem_cons.mp stand
    have first : (writer.row row).foldl (Reader.step writer.delimiters) ⟨records, [], [], .start⟩ =
        ⟨records ++ [filled row], [], [], .start⟩ := by
      rw [filled]
      by_cases empty : row = []
      · have feed := @feed_ends ⟨records, [], [], .start⟩ writer.delimiters ⟨nofun, fun _ => rfl, nofun⟩
        rw [if_pos empty, empty, Writer.row]
        exact feed
      · rw [if_neg empty]
        exact read_row empty here []
    rw [Writer.table, List.flatMap_cons, List.foldl_append, first, ← Writer.table, ih later, List.map_cons,
      List.append_assoc]
    rfl

end Fields

/-! ### Fields that do not -/

section Returns
variable {writer : Writer} {reader : Reader} {field : Field}

/-- The carriage returns in what has been read. -/
def Reader.kept (reader : Reader) : Nat :=
  ((reader.records.flatten ++ reader.fields ++ [reader.field]).map (List.count '\r')).sum

theorem kept_endField (reader : Reader) : reader.endField.kept = reader.kept := by
  simp [Reader.kept, Reader.endField]

theorem kept_endRecord (reader : Reader) (mode : Mode) : (reader.endRecord mode).kept = reader.kept := by
  simp [Reader.kept, Reader.endRecord]

/-- Outside quotes no carriage return is kept. -/
theorem kept_step {delimiters : Delimiters} (ends : delimiters.returns = true) (between : Between reader)
    (unclosed : reader.mode ≠ .closed) {char : Char}
    (inside : char ≠ delimiters.separator ∧ char ≠ delimiters.quote ∧ char ≠ '\n') :
    Between (reader.step delimiters char) ∧ (reader.step delimiters char).mode ≠ .closed ∧
      (reader.step delimiters char).kept = reader.kept := by
  obtain ⟨separator, quote, feed⟩ := inside
  have stepped : reader.step delimiters char =
      if char = '\r' then reader.endRecord .returned else reader.take char .plain := by
    unfold Reader.step Reader.outside
    cases mode : reader.mode with
    | quoted => exact absurd mode between.outside
    | closed => exact absurd mode unclosed
    | _ => simp [separator, quote, feed, ends]
  rw [stepped]
  by_cases back : char = '\r'
  · rw [if_pos back]
    exact ⟨⟨nofun, nofun, fun _ => ⟨rfl, rfl⟩⟩, nofun, kept_endRecord reader .returned⟩
  · rw [if_neg back]
    refine ⟨⟨nofun, nofun, nofun⟩, nofun, ?_⟩
    simp [Reader.kept, Reader.take, List.count_append, back]

theorem kept_plain {delimiters : Delimiters} (ends : delimiters.returns = true) (between : Between reader)
    (unclosed : reader.mode ≠ .closed)
    (inside : ∀ char ∈ field, char ≠ delimiters.separator ∧ char ≠ delimiters.quote ∧ char ≠ '\n') :
    Between (field.foldl (Reader.step delimiters) reader) ∧
      (field.foldl (Reader.step delimiters) reader).kept = reader.kept := by
  induction field generalizing reader with
  | nil => exact ⟨between, rfl⟩
  | cons char field ih =>
    obtain ⟨here, later⟩ := List.forall_mem_cons.mp inside
    obtain ⟨next, unclosed, kept⟩ := kept_step ends between unclosed here
    obtain ⟨last, whole⟩ := ih next unclosed later
    exact ⟨last, whole.trans kept⟩

/-- The carriage returns of a field that its quotes keep. -/
def quotedReturns (writer : Writer) (field : Field) : Nat := if writer.quotes field then field.count '\r' else 0

/-- Before a field. -/
def Ready (reader : Reader) : Prop := reader.mode = .start ∧ reader.field = []

theorem kept_field (ends : writer.delimiters.returns = true) (ready : Ready reader) (field : Field) :
    Between ((writer.escape field).foldl (Reader.step writer.delimiters) reader) ∧
      ((writer.escape field).foldl (Reader.step writer.delimiters) reader).kept =
        reader.kept + quotedReturns writer field := by
  obtain ⟨records, fields, under, mode⟩ := reader
  obtain ⟨rfl, rfl⟩ : mode = .start ∧ under = [] := ready
  cases quoted : writer.quotes field with
  | true =>
    rw [read_escaped quoted, quotedReturns, if_pos quoted]
    exact ⟨⟨nofun, nofun, nofun⟩, by simp [Reader.kept, Nat.add_assoc]⟩
  | false =>
    rw [escape_unquoted quoted, quotedReturns, if_neg (by simp [quoted])]
    exact kept_plain ends ⟨nofun, fun _ => rfl, nofun⟩ nofun (unquoted quoted)

theorem kept_feed {delimiters : Delimiters} (between : Between reader) :
    Ready (reader.step delimiters '\n') ∧ (reader.step delimiters '\n').fields = [] ∧
      (reader.step delimiters '\n').kept = reader.kept := by
  rw [feed_ends between]
  by_cases returned : reader.mode = .returned
  · rw [if_pos returned]
    obtain ⟨none, nothing⟩ := between.returned returned
    exact ⟨⟨rfl, nothing⟩, none, rfl⟩
  · rw [if_neg returned]
    exact ⟨⟨rfl, rfl⟩, rfl, kept_endRecord reader .start⟩

theorem kept_row (ends : writer.delimiters.returns = true) (ready : Ready reader) (row : Record) :
    let after := (writer.row row).foldl (Reader.step writer.delimiters) reader
    Ready after ∧ after.fields = [] ∧ after.kept = reader.kept + (row.map (quotedReturns writer)).sum := by
  induction row generalizing reader with
  | nil => exact kept_feed ⟨ready.1 ▸ nofun, fun _ => ready.2, ready.1 ▸ nofun⟩
  | cons field rest ih =>
    obtain ⟨between, kept⟩ := kept_field ends ready field
    cases rest with
    | nil =>
      obtain ⟨done, none, same⟩ := @kept_feed _ writer.delimiters between
      rw [row_single, List.foldl_append]
      exact ⟨done, none, same.trans kept⟩
    | cons next rest =>
      rw [row_cons, List.foldl_append, List.foldl_cons, separator_ends between]
      obtain ⟨done, none, same⟩ := @ih (Reader.endField _) ⟨rfl, rfl⟩
      refine ⟨done, none, same.trans ?_⟩
      rw [kept_endField, kept, Nat.add_assoc, ← List.sum_cons, ← List.map_cons]

theorem kept_table (ends : writer.delimiters.returns = true) (rows : List Record) (ready : Ready reader)
    (none : reader.fields = []) :
    let after := (writer.table rows).foldl (Reader.step writer.delimiters) reader
    Ready after ∧ after.fields = [] ∧ after.kept = reader.kept + (rows.flatten.map (quotedReturns writer)).sum := by
  induction rows generalizing reader with
  | nil => exact ⟨ready, none, rfl⟩
  | cons row rows ih =>
    obtain ⟨next, nothing, kept⟩ := kept_row ends ready row
    obtain ⟨done, last, same⟩ := ih next nothing
    rw [Writer.table, List.flatMap_cons, List.foldl_append, ← Writer.table]
    refine ⟨done, last, same.trans ?_⟩
    rw [kept, List.flatten_cons, List.map_append, List.sum_append, Nat.add_assoc]

/-- What is read keeps the carriage returns in quotes, and no others. -/
theorem returns_read (ends : writer.delimiters.returns = true) (rows : List Record) :
    ((read writer.delimiters (writer.table rows)).flatten.map (List.count '\r')).sum =
      (rows.flatten.map (quotedReturns writer)).sum := by
  obtain ⟨⟨started, nothing⟩, none, kept⟩ := @kept_table writer ⟨[], [], [], .start⟩ ends rows ⟨rfl, rfl⟩ rfl
  rw [read, Reader.finish, if_pos ⟨none, .inl started⟩]
  simpa [Reader.kept, none, nothing] using kept

end Returns

/-- A table is read back as it was written exactly when no row is without fields and every
field stands. -/
theorem read_table_iff (writer : Writer) (rows : List Record) :
    read writer.delimiters (writer.table rows) = rows ↔
      ∀ row ∈ rows, row ≠ [] ∧ ∀ field ∈ row, Stands writer field := by
  have whole (stand : ∀ row ∈ rows, ∀ field ∈ row, Stands writer field) :
      read writer.delimiters (writer.table rows) = rows.map filled := by
    rw [read, read_rows stand]
    rfl
  constructor
  · intro same
    have stand : ∀ row ∈ rows, ∀ field ∈ row, Stands writer field := by
      intro row listed field member ends back
      have counted := returns_read ends rows
      rw [same] at counted
      have least : ∀ field ∈ rows.flatten, quotedReturns writer field ≤ field.count '\r' := by
        intro field _
        unfold quotedReturns
        split <;> omega
      have each := Table.eq_of_sum_le least counted.le field (List.mem_flatten.mpr ⟨row, listed, member⟩)
      have some := List.count_pos_iff.mpr back
      rw [quotedReturns] at each
      by_contra bare
      rw [if_neg bare] at each
      omega
    refine fun row listed => ⟨fun empty => ?_, stand row listed⟩
    have kept := List.map_inj_left.mp (((whole stand).symm.trans same).trans (List.map_id rows).symm) row listed
    rw [empty] at kept
    cases kept
  · intro all
    rw [whole fun row listed => (all row listed).2]
    refine (List.map_congr_left fun row listed => ?_).trans (List.map_id rows)
    exact if_neg (all row listed).1

end ApexEdge.Library.Delimited
