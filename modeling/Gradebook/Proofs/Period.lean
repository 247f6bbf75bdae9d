import Gradebook.Period
import Gradebook.Proofs.Except
import Gradebook.Proofs.Text

/-! Periods written as text and read back. A text is trimmed as a whole and cut at its first two slashes, and what
stands behind the second is trimmed once more. So a period is told by its text just when its column, if it has one,
comes with a term, is not empty and has no blanks around it. What the column holds inside, slashes among it, does not
matter. -/

namespace Gradebook

open Text (trimChars isBlank cutAt)

theorem Term.parse_word (term : Term) : Term.parse term.word = .ok term := by
  cases term <;> rfl

theorem Term.word_inj {a b : Term} : a.word = b.word ↔ a = b := by
  cases a <;> cases b <;> decide

theorem Term.word_chars (term : Term) : ∀ c ∈ term.word.toList, isBlank c = false ∧ c ≠ '/' := by
  have plain : (term.word.toList.all fun c => isBlank c = false ∧ c ≠ '/') = true := by cases term <;> decide
  simpa only [List.all_eq_true, decide_eq_true_eq] using plain

theorem Year.text_chars (year : Year) : ∀ c ∈ (toString year.toInt).toList, isBlank c = false ∧ c ≠ '/' := by
  intro c hc
  rcases Text.mem_toString_int hc with rfl | digit
  · decide
  · exact ⟨Text.isBlank_of_isDigit digit, by rintro rfl; cases digit⟩

namespace Period

/-- A period that can be told from its text. -/
structure Legible (p : Period) : Prop where
  placed : p.term = none → p.column = none
  shown : p.column ≠ some ""
  trimmed : ∀ column ∈ p.column, Text.trim column = column

/-- A slash and what stands behind it, if something does. -/
def behind : Option (List Char) → List Char
  | none => []
  | some rest => '/' :: rest

variable {p : Period} {s column : String} {before : List Char}

theorem cutAt_behind (absent : '/' ∉ before) (rest : Option (List Char)) :
    cutAt '/' (before ++ behind rest) = (before, rest) := by
  cases rest with
  | none => rw [behind, List.append_nil, Text.cutAt_absent absent]
  | some rest => exact Text.cutAt_append absent rest

theorem columnOf?_eq_some {part : List Char} :
    columnOf? part = some column ↔ column.toList = trimChars part ∧ column ≠ "" := by
  unfold columnOf?
  by_cases empty : trimChars part = []
  · simp [empty]
  · rw [if_neg (by simpa using empty), Option.some.injEq, ← String.toList_inj, String.toList_ofList, eq_comm,
      iff_self_and]
    rintro same rfl
    exact empty same.symm

theorem toList_text (placed : p.term = none → p.column = none) : p.text.toList =
    (toString p.academicYear.toInt).toList ++
      behind (p.term.map fun term => term.word.toList ++ behind (p.column.map String.toList)) := by
  obtain ⟨year, _ | term, column⟩ := p
  · obtain rfl := placed rfl
    simp [text, slashed, behind]
  · cases column <;> simp [text, slashed, behind]

/-! ### Ends of a text -/

/-- Whether a text does not end with a blank. -/
def EndsShown (cs : List Char) : Prop := ∀ c ∈ cs.getLast?, isBlank c = false

theorem endsShown_of_mem {cs : List Char} (shown : ∀ c ∈ cs, isBlank c = false) : EndsShown cs :=
  fun c hc => shown c (List.mem_of_mem_getLast? hc)

theorem EndsShown.append {xs ys : List Char} (first : EndsShown xs) (last : EndsShown ys) : EndsShown (xs ++ ys) := by
  intro c hc
  rw [List.getLast?_append, Option.mem_def, Option.or_eq_some_iff] at hc
  exact hc.elim (last c) fun hc => first c hc.2

theorem endsShown_behind {rest : Option (List Char)} (shown : ∀ cs ∈ rest, EndsShown cs) : EndsShown (behind rest) := by
  cases rest with
  | none => nofun
  | some cs =>
      have slash : EndsShown ['/'] := endsShown_of_mem (List.forall_mem_singleton.mpr (by decide))
      exact slash.append (shown cs rfl)

/-- The text starts with the year, and ends with the year, the term, a slash or the column. -/
theorem Legible.text_trimmed (legible : p.Legible) : trimChars p.text.toList = p.text.toList := by
  have year : ∀ c ∈ (toString p.academicYear.toInt).toList, isBlank c = false := fun c hc =>
    (Year.text_chars p.academicYear c hc).1
  rw [toList_text legible.placed]
  apply Text.trimChars_of_ends
  · intro c hc
    rw [List.head?_append, Option.mem_def, Option.or_eq_some_iff] at hc
    rcases hc with hc | ⟨-, hc⟩
    · exact year c (List.mem_of_mem_head? hc)
    · cases term : p.term <;> simp only [term, behind] at hc <;> cases hc
      decide
  · refine (endsShown_of_mem year).append (endsShown_behind fun cs hcs => ?_)
    obtain ⟨term, -, rfl⟩ := Option.map_eq_some_iff.mp hcs
    refine (endsShown_of_mem fun c hc => (term.word_chars c hc).1).append (endsShown_behind fun cs hcs => ?_)
    obtain ⟨column, hcolumn, rfl⟩ := Option.map_eq_some_iff.mp hcs
    rw [← Text.trimChars_of_trim (legible.trimmed column hcolumn)]
    exact Text.getLast?_trimChars _

/-! ### Reading -/

/-- The year decides first, then whether anything is behind it, and then the term. -/
theorem parse_eq (s : String) : Period.parse s =
    match Text.readInt32 (String.ofList (cutAt '/' (trimChars s.toList)).1) with
    | .error flaw => .error (.badYear s flaw)
    | .ok year =>
      match (cutAt '/' (trimChars s.toList)).2 with
      | none => .ok (.ofYear year)
      | some rest =>
        (Term.parse (String.ofList (cutAt '/' rest).1)).map fun term =>
          ⟨year, some term, (cutAt '/' rest).2.bind columnOf?⟩ := by
  unfold Period.parse
  generalize cutAt '/' (trimChars s.toList) = cut
  obtain ⟨first, rest⟩ := cut
  dsimp only
  cases Text.readInt32 (String.ofList first) with
  | error flaw => rfl
  | ok year =>
      cases rest with
      | none => rfl
      | some rest =>
          dsimp only
          cases Term.parse (String.ofList (cutAt '/' rest).1) <;> rfl

/-- What is read names a column only behind a term, and has taken the blanks around it away. -/
theorem legible_of_parse (read : Period.parse s = .ok p) : p.Legible := by
  rw [parse_eq] at read
  split at read
  · cases read
  · split at read
    · cases read
      exact ⟨fun _ => rfl, nofun, nofun⟩
    · next rest _ =>
      generalize cutAt '/' rest = cut at read
      cases term : Term.parse (String.ofList cut.1) with
      | error defect =>
          rw [term] at read
          cases read
      | ok term' =>
          rw [term] at read
          cases read
          refine ⟨nofun, ?_, ?_⟩
          · intro empty
            obtain ⟨part, -, named⟩ := Option.bind_eq_some_iff.mp empty
            exact (columnOf?_eq_some.mp named).2 rfl
          · intro column hcolumn
            obtain ⟨part, -, named⟩ := Option.bind_eq_some_iff.mp hcolumn
            have same := (columnOf?_eq_some.mp named).1
            rw [Text.trim, same, Text.trimChars_trimChars, ← same, String.ofList_toList]

/-- A period is read back from its text just when the text can tell it. -/
theorem parse_text : Period.parse p.text = .ok p ↔ p.Legible := by
  refine ⟨legible_of_parse, fun legible => ?_⟩
  have year : '/' ∉ (toString p.academicYear.toInt).toList := fun hc => (Year.text_chars p.academicYear _ hc).2 rfl
  rw [parse_eq, legible.text_trimmed, toList_text legible.placed, cutAt_behind year]
  simp only [String.ofList_toList, Text.readInt32_toString]
  obtain ⟨own, _ | term, column⟩ := p
  · obtain rfl : column = none := legible.placed rfl
    rfl
  · have word : '/' ∉ term.word.toList := fun hc => (term.word_chars _ hc).2 rfl
    have named : (column.map String.toList).bind columnOf? = column := by
      cases column with
      | none => rfl
      | some column =>
          refine columnOf?_eq_some.mpr ⟨(Text.trimChars_of_trim (legible.trimmed column rfl)).symm, ?_⟩
          rintro rfl
          exact legible.shown rfl
    simp only [Option.map_some, cutAt_behind word, String.ofList_toList, Term.parse_word, named]
    rfl

/-! ### The form of a period that a text can tell -/

/-- Only a column can be illegible: one without a term, an empty one, or one with a blank at an end. -/
theorem legible_iff : p.Legible ↔ ∀ column ∈ p.column, p.term ≠ none ∧ column ≠ "" ∧
    (∀ c ∈ column.toList.head?, isBlank c = false) ∧ ∀ c ∈ column.toList.getLast?, isBlank c = false := by
  constructor
  · intro legible column named
    refine ⟨fun unplaced => ?_, ?_, Text.trim_eq_self.mp (legible.trimmed column named)⟩
    · rw [legible.placed unplaced] at named
      cases named
    · rintro rfl
      exact legible.shown named
  · intro form
    refine ⟨fun unplaced => ?_, fun empty => (form "" empty).2.1 rfl, fun column named => ?_⟩
    · rw [Option.eq_none_iff_forall_ne_some]
      intro column named
      exact (form column named).1 unplaced
    · exact Text.trim_eq_self.mpr (form column named).2.2

/-- **A text that is read stands for its period.** Whatever text is read as a period: the period names a column only
together with a term, and one that is not empty and has no blanks around it, and the text that the period is written as
is read as the period again. No other period is read from its own text, and every period of this form is. -/
theorem text_stands_for_period :
    (∀ s p, Period.parse s = .ok p → p.Legible ∧ Period.parse p.text = .ok p) ∧
    (∀ p, Period.parse p.text = .ok p ↔ p.Legible) ∧
    ∀ p : Period, p.Legible ↔ ∀ column ∈ p.column, p.term ≠ none ∧ column ≠ "" ∧
      (∀ c ∈ column.toList.head?, isBlank c = false) ∧ ∀ c ∈ column.toList.getLast?, isBlank c = false := by
  refine ⟨?_, fun p => parse_text, fun p => legible_iff⟩
  intro s p read
  have legible := legible_of_parse read
  exact ⟨legible, parse_text.mpr legible⟩

/-- A text with a sign, with blanks of several kinds and with slashes in its column is read, written otherwise and read
again; a column without a term is written as the term and the column that its text is read as. -/
theorem text_stands_for_period_signed :
    let p : Period := .full 2023 .spring "Mid/term /x"
    let q : Period := ⟨2023, none, some "spring/Exam"⟩
    Period.parse " +2023/ SPRING\t/\u3000Mid/term /x\n" = .ok p ∧ p.text = "2023/spring/Mid/term /x" ∧
      Period.parse p.text = .ok p ∧ Period.parse q.text = .ok (.full 2023 .spring "Exam") ∧
      Period.parse q.text ≠ .ok q := by
  intro p q
  have read : Period.parse " +2023/ SPRING\t/\u3000Mid/term /x\n" = .ok p := by decide +kernel
  obtain ⟨stands, own, -⟩ := text_stands_for_period
  refine ⟨read, by decide +kernel, (stands _ p read).2, by decide +kernel, ?_⟩
  rw [ne_eq, own q]
  intro legible
  cases legible.placed rfl

end Period

end Gradebook
