import Gradebook.Proofs.Marksheet.Row

/-! How a marksheet that is read is laid out: rows, each after text that is free of tokens and closed by a tag, and
more such text behind the last. These are the marksheets that are read without an error, and their rows are the
entries. Every other marksheet has a malformed token behind the rows it starts with. -/

namespace Gradebook.Marksheet

/-- Text that is free of percentage tokens. -/
abbrev Filler := {cs : List Char // TokenFree cs}

/-- Rows, each with the text before it and the tag behind it, and the text after the last tag. -/
def layout : List (Filler × Row) → List Char → List Char
  | [], last => last
  | (filler, row) :: more, last => filler.1 ++ (row.chars ++ '<' :: layout more last)

/-- The entries that rows are read as. -/
def rowEntries (rows : List (Filler × Row)) : List Entry := rows.map fun row => row.2.entry

/-- The number of tokens that stand inside rows, behind the token that starts the row. -/
def innerTokens : List (Filler × Row) → Nat
  | [] => 0
  | (_, row) :: more => tokenCount row.inner + innerTokens more

variable {cs rest digits : List Char} {offset resume : Nat} {entry : Entry} {es : List Entry} {e : Error}

theorem layout_append (rows : List (Filler × Row)) (xs ys : List Char) :
    layout rows xs ++ ys = layout rows (xs ++ ys) := by
  induction rows with
  | nil => rfl
  | cons head more ih =>
      obtain ⟨filler, row⟩ := head
      simp only [layout, List.append_assoc, List.cons_append, ih]

/-! ### Entry after entry -/

theorem percentageOf_error (bad : percentageOf digits = .error e) : e = .badPercentage (String.ofList digits) := by
  simp only [percentageOf] at bad
  split at bad
  · split at bad
    · cases bad
    · cases bad
      rfl
  · cases bad
    rfl

theorem Stuck.ne_notFound (stuck : Stuck offset cs e) (what : String) : e ≠ .notFound what := by
  obtain ⟨_, _, _, malformed⟩ := stuck
  cases malformed with
  | percentage bad =>
      rw [percentageOf_error bad]
      nofun
  | boundary _ lacks => cases lacks <;> nofun

theorem entriesFrom_eq (offset : Nat) (cs : List Char) : entriesFrom offset cs =
    match entryFrom offset cs with
    | .ok (entry, resume, rest) => (entriesFrom resume rest).map (entry :: ·)
    | .error (.notFound _) => .ok []
    | .error e => .error e := by
  rw [entriesFrom]
  split <;> simp_all

theorem entriesFrom_cons (first : entryFrom offset cs = .ok (entry, resume, rest))
    (others : entriesFrom resume rest = .ok es) : entriesFrom offset cs = .ok (entry :: es) := by
  rw [entriesFrom_eq, first]
  simp only [others]
  rfl

/-- What is read depends on where the first token ends and on what follows it. -/
theorem entriesFrom_congr (same : findPercentage offset cs = findPercentage resume rest) :
    entriesFrom offset cs = entriesFrom resume rest := by
  rw [entriesFrom_eq, entriesFrom_eq, entryFrom, entryFrom, same]

theorem entriesFrom_free (free : TokenFree cs) (offset : Nat) : entriesFrom offset cs = .ok [] := by
  rw [entriesFrom_eq, entryFrom_free free]

theorem entriesFrom_tag (offset : Nat) (cs : List Char) : entriesFrom offset ('<' :: cs) = entriesFrom (offset + 1) cs :=
  entriesFrom_congr (barrier_tag.findPercentage offset cs)

theorem entriesFrom_row (filler : Filler) (row : Row) (rest : List Char) (offset : Nat) :
    entriesFrom offset (filler.1 ++ (row.chars ++ '<' :: rest)) =
      (entriesFrom (offset + width (filler.1 ++ row.chars) + 1) rest).map (row.entry :: ·) := by
  rw [entriesFrom_eq, Row.entryFrom filler.2 row]
  simp only [entriesFrom_tag]

theorem entriesFrom_stuck (stuck : Stuck offset cs e) : entriesFrom offset cs = .error e := by
  rw [entriesFrom_eq, entryFrom_stuck stuck]
  split
  · next h => cases h
  · next what h =>
    cases h
    exact absurd rfl (stuck.ne_notFound what)
  · next h =>
    cases h
    rfl

theorem width_layout_cons (filler : Filler) (row : Row) (more : List (Filler × Row)) (last : List Char) :
    width (layout ((filler, row) :: more) last) = width (filler.1 ++ row.chars) + 1 + width (layout more last) := by
  have tag : Char.utf8Size '<' = 1 := rfl
  simp only [layout, width_append, width, tag]
  omega

/-- After rows, reading goes on behind the tag of the last. -/
theorem entriesFrom_layout (rows : List (Filler × Row)) (last : List Char) (offset : Nat) :
    entriesFrom offset (layout rows last) =
      (entriesFrom (offset + width (layout rows [])) last).map (rowEntries rows ++ ·) := by
  induction rows generalizing offset with
  | nil =>
      rw [layout, layout, width, Nat.add_zero]
      cases entriesFrom offset last <;> rfl
  | cons head more ih =>
      obtain ⟨filler, row⟩ := head
      rw [layout, entriesFrom_row, ih, width_layout_cons, ← Nat.add_assoc, ← Nat.add_assoc]
      cases entriesFrom (offset + width (filler.1 ++ row.chars) + 1 + width (layout more [])) last <;> rfl

/-! ### Every marksheet -/

/-- A text starts with rows, and behind them it is free of tokens or its first token is malformed. -/
theorem exists_layout (offset : Nat) (cs : List Char) : ∃ rows last, cs = layout rows last ∧
    (TokenFree last ∨ ∃ e, Stuck (offset + width (layout rows [])) last e) := by
  rcases free_or_row_or_stuck offset cs with free | ⟨filler, free, row, rest, hcs⟩ | ⟨e, stuck⟩
  · exact ⟨[], cs, rfl, .inl free⟩
  · -- the same of what stands behind the tag of the first row
    have shorter : rest.length < cs.length := by
      rw [hcs, List.length_append, List.length_append, List.length_cons]
      omega
    obtain ⟨rows, last, hrest, h⟩ := exists_layout (offset + width (filler ++ row.chars) + 1) rest
    refine ⟨(⟨filler, free⟩, row) :: rows, last, ?_, ?_⟩
    · rw [hcs, hrest, layout]
    · rwa [width_layout_cons, ← Nat.add_assoc, ← Nat.add_assoc]
  · exact ⟨[], cs, rfl, .inr ⟨e, stuck⟩⟩
  termination_by cs.length

theorem entriesFrom_eq_ok : entriesFrom offset cs = .ok es ↔
    ∃ rows last, cs = layout rows last ∧ TokenFree last ∧ es = rowEntries rows := by
  constructor
  · intro h
    obtain ⟨rows, last, rfl, free | ⟨e, stuck⟩⟩ := exists_layout offset cs
    · rw [entriesFrom_layout, entriesFrom_free free] at h
      cases h
      exact ⟨rows, last, rfl, free, List.append_nil _⟩
    · rw [entriesFrom_layout, entriesFrom_stuck stuck] at h
      cases h
  · rintro ⟨rows, last, rfl, free, rfl⟩
    rw [entriesFrom_layout, entriesFrom_free free, Except.map, List.append_nil]

theorem entriesFrom_eq_error : entriesFrom offset cs = .error e ↔
    ∃ rows last, cs = layout rows last ∧ Stuck (offset + width (layout rows [])) last e := by
  constructor
  · intro h
    obtain ⟨rows, last, rfl, free | ⟨e', stuck⟩⟩ := exists_layout offset cs
    · rw [entriesFrom_layout, entriesFrom_free free] at h
      cases h
    · rw [entriesFrom_layout, entriesFrom_stuck stuck] at h
      cases h
      exact ⟨rows, last, rfl, stuck⟩
  · rintro ⟨rows, last, rfl, stuck⟩
    rw [entriesFrom_layout, entriesFrom_stuck stuck, Except.map]

theorem entries_eq_ok {text : String} : entries text = .ok es ↔
    ∃ rows last, text.toList = layout rows last ∧ TokenFree last ∧ es = rowEntries rows :=
  entriesFrom_eq_ok

theorem entries_eq_error {text : String} : entries text = .error e ↔
    ∃ rows last, text.toList = layout rows last ∧ Stuck (width (layout rows [])) last e := by
  rw [entries, entriesFrom_eq_error]
  simp only [Nat.zero_add]

/-- No entry is without a subject. -/
theorem subject_of_entries {text : String} (read : entries text = .ok es) :
    ∀ e ∈ es, Text.isBlankText e.subject = false := by
  obtain ⟨rows, last, -, -, rfl⟩ := entries_eq_ok.mp read
  intro e he
  obtain ⟨⟨filler, row⟩, -, rfl⟩ := List.mem_map.mp he
  exact Text.isBlankText_trimChars row.body_shown

/-! ### Tokens of a layout -/

theorem tokenCount_layout (rows : List (Filler × Row)) (last : List Char) :
    tokenCount (layout rows last) = rows.length + innerTokens rows + tokenCount last := by
  induction rows with
  | nil => rw [layout, innerTokens, List.length_nil, Nat.zero_add]
  | cons head more ih =>
      obtain ⟨filler, row⟩ := head
      have tag : tokenCount ('<' :: layout more last) = tokenCount (layout more last) :=
        tokenCount_congr (barrier_tag.findPercentage 0 _)
      rw [layout, tokenCount_of_some (Row.findPercentage filler.2 row _ 0), tokenCount_append barrier_tag.toFirm, tag, ih,
        innerTokens, List.length_cons]
      omega

theorem innerTokens_eq_zero {rows : List (Filler × Row)} :
    innerTokens rows = 0 ↔ ∀ row ∈ rows, TokenFree row.2.inner := by
  induction rows with
  | nil => simp [innerTokens]
  | cons head more ih =>
      rw [innerTokens, Nat.add_eq_zero_iff, ih, tokenCount_eq_zero, List.forall_mem_cons]

end Gradebook.Marksheet
