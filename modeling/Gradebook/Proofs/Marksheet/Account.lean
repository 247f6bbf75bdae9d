import Gradebook.Proofs.Marksheet.Layout

/-! How many entries a marksheet gives. Each entry is told by one percentage token, and every other token of a marksheet
that is read stands inside a row. So there are as many entries as tokens when no row has a token inside. The
boundaries of a row are looked for up to the end of the marksheet: a row without a comma of its own takes the commas,
the subject and the teacher of the row behind it, and an error is given only where all that follows lacks a
boundary. -/

namespace Gradebook.Marksheet

/-- Every token of a marksheet that is read tells an entry or stands inside the row of one. A marksheet is not read
when, behind some rows, a token is malformed. -/
theorem entries_account (text : String) :
    (∀ es, entries text = .ok es → ∃ rows last, text.toList = layout rows last ∧ TokenFree last ∧
      es = rowEntries rows ∧
      tokenCount text.toList = es.length + innerTokens rows ∧
      (es.length = tokenCount text.toList ↔ ∀ row ∈ rows, TokenFree row.2.inner)) ∧
    (∀ e, entries text = .error e ↔
      ∃ rows last, text.toList = layout rows last ∧ Stuck (width (layout rows [])) last e) := by
  refine ⟨fun es read => ?_, fun e => entries_eq_error⟩
  obtain ⟨rows, last, laid, free, rfl⟩ := entries_eq_ok.mp read
  have length : (rowEntries rows).length = rows.length := List.length_map _
  have count : tokenCount text.toList = (rowEntries rows).length + innerTokens rows := by
    rw [laid, tokenCount_layout, tokenCount_eq_zero.mpr free, length, Nat.add_zero]
  refine ⟨rows, last, laid, free, rfl, count, ?_⟩
  rw [count, ← innerTokens_eq_zero]
  omega

/-- A row with a token in its subject, and a row that is cut off behind one that is not. -/
theorem entries_account_one_row :
    (∃ rows last, "\t87, Art \t12, Ms Lee<".toList = layout rows last ∧ TokenFree last ∧
      [⟨"Art \t12", "Ms Lee", ⟨87, by decide⟩⟩] = rowEntries rows ∧
      tokenCount "\t87, Art \t12, Ms Lee<".toList = 1 + innerTokens rows ∧
      (1 = tokenCount "\t87, Art \t12, Ms Lee<".toList ↔ ∀ row ∈ rows, TokenFree row.2.inner)) ∧
    ∃ rows last, "\t87, Art, Ms Lee<\t50, Art".toList = layout rows last ∧
      Stuck (width (layout rows [])) last (.layout 22 "no comma after subject") := by
  have read : entries "\t87, Art \t12, Ms Lee<" = .ok [⟨"Art \t12", "Ms Lee", ⟨87, by decide⟩⟩] :=
    entriesFrom_cons rfl (entriesFrom_free (by decide) _)
  have cut : entries "\t87, Art, Ms Lee<\t50, Art" = .error (.layout 22 "no comma after subject") := by
    have first : entryFrom 0 "\t87, Art, Ms Lee<\t50, Art".toList =
        .ok (⟨"Art", "Ms Lee", ⟨87, by decide⟩⟩, 16, "<\t50, Art".toList) := rfl
    rw [entries, entriesFrom_eq, first]
    simp only
    rw [entriesFrom_eq]
    rfl
  exact ⟨(entries_account _).1 _ read, ((entries_account _).2 _).mp cut⟩

/-- A row without commas takes the next row in: two tokens are read as one entry, although the first row is not read
when it stands alone. -/
theorem row_without_commas_absorbs_next :
    entries "\t50 Art Ms Lee<\t64, Physics, Dr Jones<" = .ok [⟨"Physics", "Dr Jones", ⟨50, by decide⟩⟩] ∧
    tokenCount "\t50 Art Ms Lee<\t64, Physics, Dr Jones<".toList = 2 ∧
    entries "\t50 Art Ms Lee<" = .error (.layout 3 "no comma after percentage") ∧
    ¬∀ text es, entries text = .ok es → es.length = tokenCount text.toList := by
  have merged : entries "\t50 Art Ms Lee<\t64, Physics, Dr Jones<" =
      .ok [⟨"Physics", "Dr Jones", ⟨50, by decide⟩⟩] :=
    entriesFrom_cons rfl (entriesFrom_free (by decide) _)
  have two : tokenCount "\t50 Art Ms Lee<\t64, Physics, Dr Jones<".toList = 2 := by
    have first : findPercentage 0 "\t50 Art Ms Lee<\t64, Physics, Dr Jones<".toList =
        some (['5', '0'], 3, " Art Ms Lee<\t64, Physics, Dr Jones<".toList) := rfl
    have second : findPercentage 0 " Art Ms Lee<\t64, Physics, Dr Jones<".toList =
        some (['6', '4'], 15, ", Physics, Dr Jones<".toList) := rfl
    rw [tokenCount_of_some first, tokenCount_of_some second, tokenCount_eq_zero.mpr (by decide)]
  have alone : entries "\t50 Art Ms Lee<" = .error (.layout 3 "no comma after percentage") := by
    rw [entries, entriesFrom_eq]
    rfl
  refine ⟨merged, two, alone, fun each => ?_⟩
  have one := each _ _ merged
  rw [two] at one
  cases one

end Gradebook.Marksheet
