import Gradebook.Proofs.Marksheet.Layout
import Mathlib.Data.List.TakeWhile

/-! Marksheets that are written out of records are read as these records. The subject of a record may hold tags, tabs
and percentage tokens: it ends at a comma only. -/

namespace Gradebook.Marksheet

open Text (isDigitOfAnyScript trimChars)

/-- An entry that can be told from its row. -/
structure Record where
  entry : Entry
  subject_shown : entry.subject ≠ ""
  subject_trimmed : Text.trim entry.subject = entry.subject
  subject_comma : ',' ∉ entry.subject.toList
  teacher_trimmed : Text.trim entry.teacher = entry.teacher
  teacher_comma : ',' ∉ entry.teacher.toList
  teacher_tag : '<' ∉ entry.teacher.toList

/-- A text between rows. -/
abbrev Margin := {s : String // TokenFree s.toList}

/-- A record, the tab to write it with, and the text behind its row. -/
structure Line where
  tab : Tab
  record : Record
  margin : Margin

/-- The row of an entry. -/
def written (tab : Tab) (entry : Entry) : String :=
  String.ofList tab.chars ++ toString entry.percentage.value ++ ", " ++ entry.subject ++ ", " ++ entry.teacher ++ "<"

/-- The text before the first row, and the rows with the text behind each. -/
def sheet (first : Margin) (lines : List Line) : String :=
  first.1 ++ String.join (lines.map fun line => written line.tab line.record.entry ++ line.margin.1)

/-! ### Decimal percentages -/

theorem percentageOf_decimal (p : Percentage) : percentageOf (Nat.toDigits 10 p.value) = .ok p := by
  obtain ⟨n, hn⟩ := p
  have read := Text.readInteger_decimal Int64.minValue.toInt Int64.maxValue.toInt (hn.trans (by decide))
  have whole : (Int64.ofInt n).toInt = n := Int64.toInt_ofInt_of_le (by omega) (by omega)
  have within : (0 : Int) ≤ n ∧ (n : Int) ≤ 100 := by omega
  simp only [percentageOf, Text.readInt64, String.toList_ofList, read, Except.map, whole, Percentage.ofInt?,
    dif_pos within, Int.toNat_natCast]

theorem decimal_numeral (n : Nat) : Numeral (Nat.toDigits 10 n) [] := by
  refine ⟨Nat.toDigits_ne_nil, fun d hd => ?_, nofun⟩
  exact Text.isDigitOfAnyScript_of_isDigit (Nat.isDigit_of_mem_toDigits (by decide) (by decide) hd)

/-! ### Rows of records -/

theorem trimChars_spaced {s : String} (trimmed : Text.trim s = s) : trimChars (' ' :: s.toList) = s.toList := by
  rw [Text.trimChars_blank (by decide), Text.trimChars_of_trim trimmed]

def Record.row (record : Record) (tab : Tab) : Row where
  tab := tab
  digits := Nat.toDigits 10 record.entry.percentage.value
  lead := []
  body := ' ' :: record.entry.subject.toList
  tail := ' ' :: record.entry.teacher.toList
  percentage := record.entry.percentage
  numeral := decimal_numeral _
  percentage_of := percentageOf_decimal _
  lead_comma := List.not_mem_nil
  body_comma := List.not_mem_cons_of_ne_of_not_mem (by decide) record.subject_comma
  body_shown := by
    rw [trimChars_spaced record.subject_trimmed]
    exact fun h => record.subject_shown (String.toList_eq_nil_iff.mp h)
  tail_tag := List.not_mem_cons_of_ne_of_not_mem (by decide) record.teacher_tag

theorem Record.row_entry (record : Record) (tab : Tab) : (record.row tab).entry = record.entry := by
  have comma : ',' ∉ ' ' :: record.entry.teacher.toList :=
    List.not_mem_cons_of_ne_of_not_mem (by decide) record.teacher_comma
  simp only [Row.entry, Record.row, lastPiece_absent comma, trimChars_spaced record.subject_trimmed,
    trimChars_spaced record.teacher_trimmed, String.ofList_toList]

theorem Record.written_toList (record : Record) (tab : Tab) :
    (written tab record.entry).toList = (record.row tab).chars ++ ['<'] := by
  have decimal : (toString record.entry.percentage.value).toList = Nat.toDigits 10 record.entry.percentage.value := by
    simp
  have comma : ", ".toList = [',', ' '] := rfl
  have tag : "<".toList = ['<'] := rfl
  simp only [written, String.toList_append, String.toList_ofList, decimal, comma, tag, Row.chars, Row.inner, row,
    List.append_assoc, List.cons_append, List.nil_append]

/-- A written sheet is laid out in the rows of its records. -/
theorem sheet_layout (first : Margin) (lines : List Line) : ∃ rows last,
    (sheet first lines).toList = layout rows last ∧ TokenFree last ∧
      rowEntries rows = lines.map fun line => line.record.entry := by
  induction lines generalizing first with
  | nil => exact ⟨[], first.1.toList, by simp [sheet, layout], first.2, rfl⟩
  | cons line more ih =>
      obtain ⟨rows, last, laid, free, same⟩ := ih line.margin
      refine ⟨(⟨first.1.toList, first.2⟩, line.record.row line.tab) :: rows, last, ?_, free, ?_⟩
      · rw [layout, ← laid]
        simp only [sheet, List.map_cons, String.join_cons, String.toList_append, line.record.written_toList,
          List.append_assoc, List.cons_append, List.nil_append]
      · rw [List.map_cons, ← same, ← line.record.row_entry line.tab]
        rfl

/-- Reading undoes writing: the records, in order, and nothing else. -/
theorem entries_sheet (first : Margin) (lines : List Line) :
    entries (sheet first lines) = .ok (lines.map fun line => line.record.entry) := by
  obtain ⟨rows, last, laid, free, same⟩ := sheet_layout first lines
  exact entries_eq_ok.mpr ⟨rows, last, laid, free, same.symm⟩

/-- A subject with a tag and a token in it, a teacher without a name, and a tab at the end of a margin. -/
theorem entries_sheet_token_in_subject :
    entries "<a>Ana</a>\t\t87, Größe <b>\t12 Θ, Mr Smith<>\t\\\\t100, 物理, <" =
      .ok [⟨"Größe <b>\t12 Θ", "Mr Smith", ⟨87, by decide⟩⟩, ⟨"物理", "", ⟨100, by decide⟩⟩] := by
  let first : Margin := ⟨"<a>Ana</a>\t", by decide⟩
  let tagged : Line := {
    tab := .plain
    record := ⟨⟨"Größe <b>\t12 Θ", "Mr Smith", ⟨87, by decide⟩⟩, by decide, by decide, by decide, by decide, by decide,
      by decide⟩
    margin := ⟨">\t\\", by decide⟩ }
  let nameless : Line := {
    tab := .written
    record := ⟨⟨"物理", "", ⟨100, by decide⟩⟩, by decide, by decide, by decide, by decide, by decide, by decide⟩
    margin := ⟨"", by decide⟩ }
  have text : sheet first [tagged, nameless] =
      "<a>Ana</a>\t\t87, Größe <b>\t12 Θ, Mr Smith<>\t\\\\t100, 物理, <" := by decide +kernel
  rw [← text]
  exact entries_sheet first [tagged, nameless]

end Gradebook.Marksheet
