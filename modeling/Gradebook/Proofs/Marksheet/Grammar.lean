import Gradebook.Proofs.Marksheet.Cursor

/-! The grammar of a row, told without a reader: where the leftmost token of a text stands, which digits are a
percentage, and what has to follow them. A text is read as an entry exactly where its leftmost token starts a row, and
how it fails otherwise is told by the same three questions. -/

namespace Gradebook.Marksheet

open Text (isBlank isDigitOfAnyScript readDigits readInt64 trimChars)

/-- Whether a token starts here: a tab, in one of its forms, and a digit of any script. -/
def StartsToken (cs : List Char) : Prop :=
  ∃ (tab : Tab) (d : Char), isDigitOfAnyScript d = true ∧ tab.chars ++ [d] <+: cs

/-- The leftmost token of a text: a tab and all the digits behind it, with what stands before it and after it. -/
structure Leftmost (cs before : List Char) (tab : Tab) (digits after : List Char) : Prop where
  split : cs = before ++ (tab.chars ++ digits ++ after)
  first : ∀ k < before.length, ¬StartsToken (cs.drop k)
  numeral : Numeral digits after

/-- ASCII digits that spell a number up to 100, whatever zeros it starts with. -/
def IsPercentage (digits : List Char) : Prop :=
  (∀ c ∈ digits, c.isDigit = true) ∧ Nat.ofDigitChars 10 digits 0 ≤ 100

/-- The first two commas of a text: what stands before them, between them, and after them. -/
structure Commas (cs lead body behind : List Char) : Prop where
  split : cs = lead ++ ',' :: (body ++ ',' :: behind)
  lead_comma : ',' ∉ lead
  body_comma : ',' ∉ body

/-- What follows a token lacks a boundary of a row: a comma, a subject that is not blank, or the tag. -/
inductive LacksBoundary (cs : List Char) : Prop where
  | commas (few : cs.count ',' < 2)
  | subject {lead body behind : List Char} (commas : Commas cs lead body behind)
      (blank : ∀ c ∈ body, isBlank c = true)
  | tag {lead body behind : List Char} (commas : Commas cs lead body behind) (absent : '<' ∉ behind)

/-- What follows a token is the rest of a row, up to the tag, and it names a subject and a teacher: between the first
two commas, and between the last comma before the tag and the tag. -/
inductive NamesEntry (cs : List Char) : List Char → String → String → Prop where
  | row {lead body tail front teacher more : List Char} (commas : Commas cs lead body (tail ++ '<' :: more))
      (shown : ∃ c ∈ body, isBlank c = false) (tag : '<' ∉ tail) (last : ',' :: tail = front ++ ',' :: teacher)
      (teacher_comma : ',' ∉ teacher) :
      NamesEntry cs (lead ++ ',' :: (body ++ ',' :: tail)) (String.ofList (trimChars body))
        (String.ofList (trimChars teacher))

variable {cs before digits after lead body behind row : List Char} {tab : Tab} {p : Percentage}
variable {subject teacher : String}

/-! ### The leftmost token -/

theorem startsToken_iff : StartsToken cs ↔ percentageToken? cs ≠ none := by
  rw [ne_eq, percentageToken?_eq_none, StartsToken]
  push Not
  rfl

instance (cs : List Char) : Decidable (StartsToken cs) := decidable_of_iff _ startsToken_iff.symm

theorem tokenFree_iff : TokenFree cs ↔ ∀ k, ¬StartsToken (cs.drop k) := by
  constructor
  · rintro free k ⟨tab, d, hd, token⟩
    exact free tab d hd (token.isInfix.trans (List.drop_suffix k cs).isInfix)
  · intro none tab d hd token
    obtain ⟨rest, token, suffix⟩ := List.infix_iff_prefix_suffix.mp token
    rw [List.suffix_iff_eq_drop.mp suffix] at token
    exact none _ ⟨tab, d, hd, token⟩

/-- In front of a firm character a token starts where it would start in the text before alone. -/
theorem startsToken_append {c : Char} (firm : Firm c) {xs : List Char} (nonempty : xs ≠ []) (ys : List Char) :
    StartsToken (xs ++ c :: ys) ↔ StartsToken xs := by
  rw [startsToken_iff, startsToken_iff, percentageToken?_append firm nonempty, ne_eq, Option.map_eq_none_iff]

/-- The leftmost token is the one that a search finds: text that is free of tokens, and a token. -/
theorem leftmost_iff : Leftmost cs before tab digits after ↔
    cs = before ++ (tab.chars ++ digits ++ after) ∧ TokenFree before ∧ Numeral digits after := by
  obtain ⟨c, more, htab, firm⟩ := tab.exists_cons
  -- a token that starts before the tab of another stays before it
  have inside (k : Nat) (hk : k < before.length) :
      StartsToken ((before ++ (tab.chars ++ digits ++ after)).drop k) ↔ StartsToken (before.drop k) := by
    have nonempty : before.drop k ≠ [] := by
      rw [ne_eq, List.drop_eq_nil_iff]
      omega
    rw [List.drop_append_of_le_length (Nat.le_of_lt hk), htab, List.cons_append, List.cons_append]
    exact startsToken_append firm nonempty _
  constructor
  · rintro ⟨rfl, first, numeral⟩
    refine ⟨rfl, tokenFree_iff.mpr ?_, numeral⟩
    intro k
    by_cases hk : k < before.length
    · exact mt (inside k hk).mpr (first k hk)
    · rw [List.drop_eq_nil_of_le (Nat.not_lt.mp hk), startsToken_iff, not_not]
      rfl
  · rintro ⟨rfl, free, numeral⟩
    exact ⟨rfl, fun k hk => mt (inside k hk).mp (tokenFree_iff.mp free k), numeral⟩

theorem leftmost_or_none (cs : List Char) : (∀ k, ¬StartsToken (cs.drop k)) ∨
    ∃ before tab digits after, Leftmost cs before tab digits after := by
  rw [← tokenFree_iff]
  cases search : findPercentage 0 cs with
  | none => exact .inl ((findPercentage_eq_none _ _).mp search)
  | some found =>
      obtain ⟨filler, tab, split, -, free, numeral⟩ := findPercentage_eq_some.mp search
      exact .inr ⟨filler, tab, _, _, leftmost_iff.mpr ⟨split, free, numeral⟩⟩

theorem Leftmost.startsToken (leftmost : Leftmost cs before tab digits after) :
    StartsToken (cs.drop before.length) := by
  obtain ⟨split, -, numeral⟩ := leftmost
  obtain ⟨d, more, rfl⟩ := List.exists_cons_of_ne_nil numeral.nonempty
  refine ⟨tab, d, numeral.digits d List.mem_cons_self, more ++ after, ?_⟩
  rw [split, List.drop_left]
  simp

theorem startsToken_iff_leftmost (cs : List Char) :
    (∃ k, StartsToken (cs.drop k)) ↔ ∃ before tab digits after, Leftmost cs before tab digits after := by
  constructor
  · rintro ⟨k, token⟩
    exact (leftmost_or_none cs).resolve_left fun none => none k token
  · rintro ⟨before, tab, digits, after, leftmost⟩
    exact ⟨before.length, leftmost.startsToken⟩

/-! ### Percentages -/

/-- Digits of any script carry no sign, and they are read from the left. -/
theorem Numeral.readInteger (numeral : Numeral digits after) (low high : Int) :
    Text.readInteger low high digits = (readDigits high.toNat .tooLarge 0 digits).map Int.ofNat := by
  have sign (c : Char) (hc : isDigitOfAnyScript c = false) : c ∉ digits.head? := by
    intro first
    have digit := numeral.digits c (List.mem_of_mem_head? first)
    rw [hc] at digit
    cases digit
  exact Text.readInteger_unsigned low high numeral.nonempty (sign '+' (by decide)) (sign '-' (by decide))

theorem readInt64_digits (numeral : Numeral digits after) : readInt64 (String.ofList digits) =
    (readDigits Int64.maxValue.toInt.toNat .tooLarge 0 digits).map fun n => Int64.ofInt (Int.ofNat n) := by
  rw [readInt64, String.toList_ofList, numeral.readInteger]
  cases readDigits Int64.maxValue.toInt.toNat .tooLarge 0 digits <;> rfl

/-- A number up to 100 is spelt by ASCII digits alone, and no more of them than fit are read. -/
theorem percentageOf_eq_ok (numeral : Numeral digits after) :
    percentageOf digits = .ok p ↔ IsPercentage digits ∧ p.value = Nat.ofDigitChars 10 digits 0 := by
  have limit : Int64.maxValue.toInt.toNat = 2 ^ 63 - 1 := by decide
  have exact_of {n : Nat} (fits : n ≤ Int64.maxValue.toInt.toNat) :
      (Int64.ofInt (Int.ofNat n)).toInt = Int.ofNat n :=
    Int64.toInt_ofInt_of_le (by simp) (by rw [Int.ofNat_eq_natCast]; omega)
  rw [percentageOf]
  simp only [readInt64_digits numeral]
  constructor
  · intro read
    cases number : readDigits Int64.maxValue.toInt.toNat .tooLarge 0 digits with
    | error flaw =>
        rw [number] at read
        cases read
    | ok n =>
        obtain ⟨ascii, rfl, fits⟩ := Text.of_readDigits (Nat.zero_le _) number
        simp only [number, Except.map, exact_of fits] at read
        split at read
        · next within =>
          cases read
          obtain ⟨-, -, value⟩ := Percentage.ofInt?_eq_some.mp within
          have value := Int.ofNat.inj value
          exact ⟨⟨ascii, value ▸ p.le_hundred⟩, value⟩
        · cases read
  · rintro ⟨⟨ascii, small⟩, value⟩
    have fits : Nat.ofDigitChars 10 digits 0 ≤ Int64.maxValue.toInt.toNat := by omega
    have within : Percentage.ofInt? (Int.ofNat (Nat.ofDigitChars 10 digits 0)) = some p :=
      Percentage.ofInt?_eq_some.mpr ⟨Int.natCast_nonneg _, Int.ofNat_le.mpr small, congrArg Int.ofNat value⟩
    simp only [Text.readDigits_ok .tooLarge ascii fits, Except.map, exact_of fits, within]

theorem percentageOf_eq_error (numeral : Numeral digits after) :
    percentageOf digits = .error (.badPercentage (String.ofList digits)) ↔ ¬IsPercentage digits := by
  cases read : percentageOf digits with
  | ok p => simp [(percentageOf_eq_ok numeral).mp read]
  | error e =>
      have no : ¬IsPercentage digits := by
        intro yes
        have known := (percentageOf_eq_ok (p := ⟨_, yes.2⟩) numeral).mpr ⟨yes, rfl⟩
        rw [read] at known
        cases known
      simp [percentageOf_error read, no]

/-! ### Boundaries -/

/-- The first two commas are where cutting twice stops. -/
theorem Commas.unique {lead' body' behind' : List Char} (commas : Commas cs lead body behind)
    (commas' : Commas cs lead' body' behind') : lead' = lead ∧ body' = body ∧ behind' = behind := by
  have first := Text.cutAt_append commas'.lead_comma (body' ++ ',' :: behind')
  rw [← commas'.split, commas.split, Text.cutAt_append commas.lead_comma, Prod.mk.injEq, Option.some.injEq] at first
  obtain ⟨rfl, rest⟩ := first
  have second := Text.cutAt_append commas'.body_comma behind'
  rw [← rest, Text.cutAt_append commas.body_comma, Prod.mk.injEq, Option.some.injEq] at second
  exact ⟨rfl, second.1.symm, second.2.symm⟩

theorem Commas.two_le_count (commas : Commas cs lead body behind) : 2 ≤ cs.count ',' := by
  rw [commas.split, List.count_append, List.count_cons_self, List.count_append, List.count_cons_self]
  omega

theorem lacksBoundary_iff (offset : Nat) : LacksBoundary after ↔ ∃ e, Lacks offset after e := by
  constructor
  · intro lacks
    rcases lacks_or_row offset after with named | ⟨lead, body, tail, more, split, first, second, shown, absent⟩
    · exact named
    · -- a text that has every boundary lacks none
      have commas : Commas after lead body (tail ++ '<' :: more) := ⟨split, first, second⟩
      cases lacks with
      | commas few => exact absurd commas.two_le_count (Nat.not_le.mpr few)
      | subject commas' blank =>
          obtain ⟨rfl, rfl, rfl⟩ := commas.unique commas'
          exact absurd (Text.trimChars_eq_nil.mpr blank) shown
      | tag commas' absent =>
          obtain ⟨rfl, rfl, rfl⟩ := commas.unique commas'
          exact absurd (List.mem_append_right _ List.mem_cons_self) absent
  · rintro ⟨e, lacks⟩
    cases lacks with
    | comma absent => exact .commas (by rw [List.count_eq_zero_of_not_mem absent]; decide)
    | secondComma first absent =>
        refine .commas ?_
        rw [List.count_append, List.count_cons_self, List.count_eq_zero_of_not_mem first,
          List.count_eq_zero_of_not_mem absent]
        decide
    | subject first second blank behind => exact .subject ⟨rfl, first, second⟩ (Text.trimChars_eq_nil.mp blank)
    | tag first second shown absent => exact .tag ⟨rfl, first, second⟩ absent

theorem lacks_or_names (after : List Char) :
    LacksBoundary after ∨ ∃ row subject teacher, NamesEntry after row subject teacher := by
  rw [lacksBoundary_iff 0]
  rcases lacks_or_row 0 after with lacks | ⟨lead, body, tail, more, split, first, second, shown, absent⟩
  · exact .inl lacks
  · obtain ⟨front, last, piece⟩ := lastPiece_split tail
    exact .inr ⟨_, _, _, .row ⟨split, first, second⟩ (Text.trimChars_ne_nil.mp shown) absent last piece⟩

/-! ### Reading at an offset -/

/-- An offset at which a text can be read is one that cuts it in two. -/
theorem entryAt_cut (head rest : String) : entryAt (head ++ rest) head.utf8ByteSize =
    (entryFrom head.utf8ByteSize rest.toList).map fun (entry, resume, _) => (entry, resume) := by
  rw [utf8ByteSize_eq]
  exact entryAt_inside String.toList_append

section Outcomes

variable {rest : String} (head : String)

theorem entryAt_none (none : ∀ k, ¬StartsToken (rest.toList.drop k)) :
    entryAt (head ++ rest) head.utf8ByteSize = .error (.notFound "percentage") := by
  rw [entryAt_cut, entryFrom_free (tokenFree_iff.mpr none)]
  rfl

variable (leftmost : Leftmost rest.toList before tab digits after)
include leftmost

theorem Leftmost.entryAt_malformed {e : Error}
    (malformed : Malformed (head.utf8ByteSize + width (before ++ (tab.chars ++ digits))) digits after e) :
    entryAt (head ++ rest) head.utf8ByteSize = .error e := by
  obtain ⟨split, free, numeral⟩ := leftmost_iff.mp leftmost
  rw [entryAt_cut, split, entryFrom_stuck (.token free tab numeral malformed)]
  rfl

theorem Leftmost.entryAt_badPercentage (no : ¬IsPercentage digits) :
    entryAt (head ++ rest) head.utf8ByteSize = .error (.badPercentage (String.ofList digits)) :=
  leftmost.entryAt_malformed head (.percentage ((percentageOf_eq_error leftmost.numeral).mpr no))

theorem Leftmost.entryAt_layout (good : percentageOf digits = .ok p) (lacks : LacksBoundary after) :
    ∃ place detail, entryAt (head ++ rest) head.utf8ByteSize = .error (.layout place detail) := by
  obtain ⟨e, named⟩ := (lacksBoundary_iff (head.utf8ByteSize + width (before ++ (tab.chars ++ digits)))).mp lacks
  have stops := leftmost.entryAt_malformed head (.boundary good named)
  cases named with
  | comma => exact ⟨_, _, stops⟩
  | secondComma => exact ⟨_, _, stops⟩
  | subject => exact ⟨_, _, stops⟩
  | tag => exact ⟨_, _, stops⟩

theorem Leftmost.entryAt_row (good : percentageOf digits = .ok p) (names : NamesEntry after row subject teacher) :
    entryAt (head ++ rest) head.utf8ByteSize =
      .ok (⟨subject, teacher, p⟩, head.utf8ByteSize + width (before ++ (tab.chars ++ digits ++ row))) := by
  obtain ⟨split, free, numeral⟩ := leftmost_iff.mp leftmost
  obtain @⟨lead, body, tail, front, teacher, more, ⟨rfl, first, second⟩, shown, absent, last, piece⟩ := names
  have said : lastPiece tail = teacher := by
    cases front with
    | nil =>
        obtain rfl : tail = teacher := List.tail_eq_of_cons_eq last
        exact lastPiece_absent piece
    | cons d front =>
        obtain rfl : tail = front ++ ',' :: teacher := List.tail_eq_of_cons_eq last
        exact lastPiece_append front piece
  let found : Row := ⟨tab, digits, lead, body, tail, p, numeral.of_append, good, first, second,
    Text.trimChars_ne_nil.mpr shown, absent⟩
  have read := Row.entryFrom free found more head.utf8ByteSize
  have whole : rest.toList = before ++ (found.chars ++ '<' :: more) := by
    rw [split, found.chars_append, found.inner_append]
  rw [entryAt_cut, whole, read, ← said]
  rfl

theorem Leftmost.outcomes :
    (¬IsPercentage digits ∧
      entryAt (head ++ rest) head.utf8ByteSize = .error (.badPercentage (String.ofList digits))) ∨
    (IsPercentage digits ∧ LacksBoundary after ∧
      ∃ place detail, entryAt (head ++ rest) head.utf8ByteSize = .error (.layout place detail)) ∨
    ∃ p row subject teacher, IsPercentage digits ∧ ¬LacksBoundary after ∧
      p.value = Nat.ofDigitChars 10 digits 0 ∧ NamesEntry after row subject teacher ∧
        entryAt (head ++ rest) head.utf8ByteSize =
          .ok (⟨subject, teacher, p⟩, head.utf8ByteSize + width (before ++ (tab.chars ++ digits ++ row))) := by
  by_cases yes : IsPercentage digits
  · have good := (percentageOf_eq_ok (p := ⟨_, yes.2⟩) leftmost.numeral).mpr ⟨yes, rfl⟩
    by_cases lacks : LacksBoundary after
    · exact .inr (.inl ⟨yes, lacks, leftmost.entryAt_layout head good lacks⟩)
    · obtain ⟨row, subject, teacher, names⟩ := (lacks_or_names after).resolve_left lacks
      exact .inr (.inr ⟨_, row, subject, teacher, yes, lacks, rfl, names, leftmost.entryAt_row head good names⟩)
  · exact .inl ⟨yes, leftmost.entryAt_badPercentage head yes⟩

end Outcomes

theorem Lacks.detail_ne {offset : Nat} {e : Error} (lacks : Lacks offset after e) (place : Nat) :
    e ≠ .layout place "no comma before teacher" := by
  cases lacks <;> simp

/-- The comma before the teacher is the second one at the latest. -/
theorem entryAt_teacher (text : String) (offset place : Nat) :
    entryAt text offset ≠ .error (.layout place "no comma before teacher") := by
  by_cases valid : (⟨offset⟩ : String.Pos.Raw).IsValid text
  · obtain ⟨before, cs, whole, rfl⟩ := isValid_iff.mp valid
    rw [entryAt_inside whole]
    rcases free_or_row_or_stuck (width before) cs with free | ⟨filler, free, row, rest, rfl⟩ | ⟨e, stuck⟩
    · rw [entryFrom_free free]
      nofun
    · rw [Row.entryFrom free row]
      nofun
    · rw [entryFrom_stuck stuck]
      intro missing
      obtain rfl := Except.error.inj missing
      obtain ⟨_, _, _, malformed⟩ := stuck
      cases malformed with
      | percentage bad => cases percentageOf_error bad
      | boundary _ lacks => exact lacks.detail_ne place rfl
  · rw [entryAt_outside valid]
    simp

/-- **A text is read where its rows are.** Cut a text in two, and read what stands behind the cut. Nothing is found
where no token starts. Otherwise the leftmost token decides: its digits are no percentage unless they are ASCII digits
that spell a number up to 100; the layout is broken where fewer than two commas follow, or the text between them is
blank, or no tag follows them; and in every other text an entry is read, with the percentage that the digits spell, the
subject between the two commas, the teacher between the last comma before the tag and the tag, and that tag as the place
to resume from. No text lacks the comma before the teacher. -/
theorem reading_follows_grammar :
    (∀ head rest : String,
      (entryAt (head ++ rest) head.utf8ByteSize = .error (.notFound "percentage") ↔
        ∀ k, ¬StartsToken (rest.toList.drop k)) ∧
      ∀ before tab digits after, Leftmost rest.toList before tab digits after →
        (entryAt (head ++ rest) head.utf8ByteSize = .error (.badPercentage (String.ofList digits)) ↔
          ¬IsPercentage digits) ∧
        ((∃ place detail, entryAt (head ++ rest) head.utf8ByteSize = .error (.layout place detail)) ↔
          IsPercentage digits ∧ LacksBoundary after) ∧
        ((∃ entry resume, entryAt (head ++ rest) head.utf8ByteSize = .ok (entry, resume)) ↔
          IsPercentage digits ∧ ¬LacksBoundary after) ∧
        ∀ entry resume, entryAt (head ++ rest) head.utf8ByteSize = .ok (entry, resume) →
          entry.percentage.value = Nat.ofDigitChars 10 digits 0 ∧
            ∃ row, NamesEntry after row entry.subject entry.teacher ∧
              resume = head.utf8ByteSize + width (before ++ (tab.chars ++ digits ++ row))) ∧
    (∀ cs, (∃ k, StartsToken (cs.drop k)) ↔ ∃ before tab digits after, Leftmost cs before tab digits after) ∧
    ∀ text offset place, entryAt text offset ≠ .error (.layout place "no comma before teacher") := by
  refine ⟨?_, startsToken_iff_leftmost, entryAt_teacher⟩
  intro head rest
  constructor
  · refine ⟨fun missing => ?_, entryAt_none head⟩
    rcases leftmost_or_none rest.toList with none | ⟨before, tab, digits, after, leftmost⟩
    · exact none
    · rcases leftmost.outcomes head with ⟨-, read⟩ | ⟨-, -, _, _, read⟩ | ⟨_, _, _, _, -, -, -, -, read⟩
      all_goals
        rw [read] at missing
        cases missing
  · intro before tab digits after leftmost
    rcases leftmost.outcomes head with
      ⟨no, read⟩ | ⟨yes, lacks, place, detail, read⟩ | ⟨p, row, subject, teacher, yes, lacks, value, names, read⟩
    · simp [read, no]
    · simp [read, yes, lacks]
    · rw [read]
      refine ⟨by simp [yes], by simp [lacks], by simp [yes, lacks], ?_⟩
      rintro entry resume ⟨⟩
      exact ⟨value, row, names, rfl⟩

/-- A tab without digits behind it stands before the token, and a comma before the teacher. -/
theorem reading_follows_grammar_written_tab :
    Leftmost "\t, \\t087, Art, Dr Jones, Ms Lee<".toList "\t, ".toList .written "087".toList
        ", Art, Dr Jones, Ms Lee<".toList ∧
      IsPercentage "087".toList ∧ ¬LacksBoundary ", Art, Dr Jones, Ms Lee<".toList ∧
      (∃ row, NamesEntry ", Art, Dr Jones, Ms Lee<".toList row "Art" "Ms Lee") ∧
      entryAt ("é" ++ "\t, \\t087, Art, Dr Jones, Ms Lee<") "é".utf8ByteSize =
        .ok (⟨"Art", "Ms Lee", ⟨87, by decide⟩⟩, 33) := by
  have numeral : Numeral "087".toList ", Art, Dr Jones, Ms Lee<".toList := by
    refine ⟨by decide, List.all_eq_true.mp (by decide), ?_⟩
    rintro c ⟨⟩
    decide
  have leftmost : Leftmost "\t, \\t087, Art, Dr Jones, Ms Lee<".toList "\t, ".toList .written "087".toList
      ", Art, Dr Jones, Ms Lee<".toList := ⟨rfl, by decide, numeral⟩
  have read : entryAt ("é" ++ "\t, \\t087, Art, Dr Jones, Ms Lee<") "é".utf8ByteSize =
      .ok (⟨"Art", "Ms Lee", ⟨87, by decide⟩⟩, 33) := rfl
  obtain ⟨-, -, accepted, told⟩ := (reading_follows_grammar.1 "é" _).2 _ _ _ _ leftmost
  obtain ⟨percentage, bounded⟩ := accepted.mp ⟨_, _, read⟩
  obtain ⟨-, row, names, -⟩ := told _ _ read
  exact ⟨leftmost, percentage, bounded, ⟨row, names⟩, read⟩

end Gradebook.Marksheet
