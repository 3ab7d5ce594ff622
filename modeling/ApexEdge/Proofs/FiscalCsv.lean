import ApexEdge.Fiscal.Export
import ApexEdge.Library.Delimited

/-! Reading back the tables of a cash-point closing. The writer quotes a field for a separator,
a quote, a line feed or an ampersand in it, but not for a carriage return, which ends a line
for most readers. -/

namespace ApexEdge.Proofs.FiscalCsv
open Library.Delimited Fiscal

/-- Semicolons and quotes, with carriage returns as line breaks or without. -/
def csvDelimiters (returns : Bool) : Delimiters := ⟨';', '"', returns, by decide, by decide, by decide⟩

/-- A field that is written in quotes. -/
def Quoted (field : Field) : Prop := ';' ∈ field ∨ '"' ∈ field ∨ '\n' ∈ field ∨ '&' ∈ field

instance (field : Field) : Decidable (Quoted field) := inferInstanceAs (Decidable (_ ∨ _))

def csvWriter (returns : Bool) : Writer :=
  ⟨csvDelimiters returns, fun field => decide (Quoted field), fun _ special => decide_eq_true (by
    rcases special with separator | quote | feed
    · exact .inl separator
    · exact .inr (.inl quote)
    · exact .inr (.inr (.inl feed)))⟩

section Tables
variable (returns : Bool)

theorem csvEscape_eq (field : Field) : csvEscape field = (csvWriter returns).escape field := by
  have doubled : (fun char => if char = '"' then ['"', '"'] else [char]) =
      fun char : Char => if char = '"' then [char, char] else [char] := by
    funext char
    split
    next quote => rw [quote]
    next => rfl
  unfold csvEscape Writer.escape
  rw [doubled]
  split
  next quoted => exact (if_pos (decide_eq_true quoted)).symm
  next bare => exact (if_neg (mt of_decide_eq_true bare)).symm

theorem csvTable_eq (rows : List Record) : csvTable rows = (csvWriter returns).table rows := by
  unfold csvTable Writer.table
  refine congrArg (List.flatMap · rows) (funext fun row => ?_)
  rw [csvRow, Writer.row, funext (csvEscape_eq returns)]
  rfl

/-- A table is read back as it was written exactly when each of its rows has a field and, where
carriage returns end lines, each field with one is quoted for something else. -/
theorem csv_reads_back_iff (rows : List Record) :
    read (csvDelimiters returns) (csvTable rows) = rows ↔
      ∀ row ∈ rows, row ≠ [] ∧ ∀ field ∈ row, returns = true → '\r' ∈ field → Quoted field := by
  rw [csvTable_eq returns]
  refine (read_table_iff (csvWriter returns) rows).trans (forall₂_congr fun row _ => and_congr_right fun _ => ?_)
  exact forall₂_congr fun field _ => forall₂_congr fun _ _ => decide_eq_true_iff

/-- A carriage return in a name breaks its row, and a row of no fields is one of an empty field. -/
theorem carriage_return_breaks_row :
    read (csvDelimiters true) (csvTable [["Tea\rmild".toList, "3.00".toList]]) =
      [["Tea".toList], ["mild".toList, "3.00".toList]] ∧
    csvTable [[]] = csvTable [["".toList]] := by decide +kernel

end Tables

/-- The files of a closing are read back as its tables, whatever is sold, where carriage
returns do not end lines; where they do, when the texts with one are quoted. -/
theorem closing_reads_back (formats : Formats) (closing : CashPointClosing) (returns : Bool) :
    ((dsfinvkFiles formats closing).map fun file => (file.1, read (csvDelimiters returns) file.2)) =
        (closing.tables formats).map (fun table => (table.1, table.2.map (·.map String.toList))) ↔
      ∀ table ∈ closing.tables formats, ∀ row ∈ table.2, ∀ text ∈ row,
        returns = true → '\r' ∈ text.toList → Quoted text.toList := by
  have some : ∀ table ∈ closing.tables formats, ∀ row ∈ table.2, row.map String.toList ≠ [] := by
    intro table listed row member empty
    obtain rfl := List.map_eq_nil_iff.mp empty
    simp only [CashPointClosing.tables, List.mem_cons, List.not_mem_nil, or_false] at listed
    rcases listed with rfl | rfl | rfl | rfl | rfl
    · simp [CashPointClosing.kasse] at member
    · simp [CashPointClosing.bonkopf] at member
    · simp [CashPointClosing.bonpos] at member
    · simp [CashPointClosing.bonust] at member
    · simp [CashPointClosing.zahlart] at member
  rw [dsfinvkFiles, List.map_map, List.map_inj_left]
  refine forall₂_congr fun ⟨name, rows⟩ listed => ?_
  dsimp only [Function.comp_apply]
  rw [Prod.mk.injEq, and_iff_right rfl, csvTable_eq returns]
  refine (read_table_iff (csvWriter returns) _).trans ?_
  rw [List.forall_mem_map]
  refine forall₂_congr fun row member => ?_
  rw [and_iff_right (some _ listed row member), List.forall_mem_map]
  exact forall₂_congr fun text _ => forall₂_congr fun _ _ => decide_eq_true_iff

end ApexEdge.Proofs.FiscalCsv
