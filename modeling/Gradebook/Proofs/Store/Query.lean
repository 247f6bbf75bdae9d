import Gradebook.Proofs.Store.Periods

/-! Queries for marks over whatever their table holds. The table checks percentages and terms but not years, so a row may
have a year that no period has. Such a row lies within no period. A query that is not about periods may still come to
it, and then there is no mark to tell. -/

namespace Gradebook

namespace StoredMark

/-- A row that passed the checks of its table. There is none on the year. -/
structure Checked (row : StoredMark) : Prop where
  percentage : 0 ≤ row.percentage ∧ row.percentage ≤ 100
  term : row.term ∈ ["autumn", "spring", "summer"]

/-- The full period of a row, which it has as long as its year is one. -/
def HasPeriod (row : StoredMark) (own : Period) : Prop :=
  ∃ (year : Year) (term : Term), row.academicYear = year.toInt ∧ row.term = term.word ∧
    own = .full year term row.column

/-- The number in the place of the year does not fit 32 bits. -/
def Yearless (row : StoredMark) : Prop :=
  row.academicYear < Int32.minValue.toInt ∨ Int32.maxValue.toInt < row.academicYear

end StoredMark

/-- The mark that a row describes together with the row of its subject. -/
def StoredMark.Describes (row : StoredMark) (subject : StoredSubject) (mark : Mark) : Prop :=
  ∃ (percentage : Percentage) (year : Year) (term : Term),
    row.percentage = percentage.value ∧ row.academicYear = year.toInt ∧ row.term = term.word ∧
      mark = {
        id := some row.id, pid := row.pid, subject := ⟨some subject.id, subject.code, subject.name⟩
        teacher := row.teacher, percentage, period := .full year term row.column, createdAt := some row.createdAt }

/-- A row that meets every part of a filter that is set: where periods are asked for, one of them contains the row's. -/
structure MarksFilter.Asks (f : MarksFilter) (row : StoredMark) : Prop where
  id : ∀ id ∈ f.id, row.id = id
  pid : ∀ pid ∈ f.pid, row.pid = pid
  subject : ∀ id ∈ f.subjectId, row.subjectId = id
  period : f.periods = [] ∨ ∃ p ∈ f.periods, ∃ own, row.HasPeriod own ∧ p.contains own = true

/-- One page of a list: what is left behind an offset, and of that no more than a limit. A negative offset is none, and so
is a negative limit. -/
structure IsPage {α : Type} (limit offset : Option Int) (all shown : List α) : Prop where
  within : ∀ i : Nat, (∀ n ∈ limit, 0 ≤ n → i < n) → shown[i]? = all[(offset.getD 0).toNat + i]?
  beyond : ∀ i : Nat, ∀ n ∈ limit, 0 ≤ n → n ≤ i → shown[i]? = none

namespace StoredMark

variable {row : StoredMark} {f : MarksFilter}

theorem Sound.checked (h : row.Sound) : row.Checked where
  percentage := by
    obtain ⟨percentage, hpercentage⟩ := h.percentage
    have bound := percentage.le_hundred
    omega
  term := by
    obtain ⟨term, hterm⟩ := h.term
    rw [hterm]
    cases term <;> decide

namespace Checked

theorem exists_percentage (h : row.Checked) : ∃ percentage : Percentage, row.percentage = percentage.value := by
  obtain ⟨low, high⟩ := h.percentage
  exact ⟨⟨row.percentage.toNat, by omega⟩, (Int.toNat_of_nonneg low).symm⟩

theorem exists_term (h : row.Checked) : ∃ term : Term, row.term = term.word := by
  have word := h.term
  simp only [List.mem_cons, List.not_mem_nil, or_false] at word
  rcases word with word | word | word
  · exact ⟨.autumn, word⟩
  · exact ⟨.spring, word⟩
  · exact ⟨.summer, word⟩

end Checked

/-- A row is yearless just where no year has its number. -/
theorem yearless_iff : row.Yearless ↔ ¬∃ year : Year, row.academicYear = year.toInt := by
  constructor
  · rintro outside ⟨year, hyear⟩
    have low := Int32.le_toInt year
    have high := Int32.toInt_lt year
    rw [Yearless, Int32.toInt_minValue, Int32.toInt_maxValue] at outside
    omega
  · intro none
    by_contra inside
    apply none
    refine ⟨Int32.ofInt row.academicYear, ?_⟩
    rw [Yearless, Int32.toInt_minValue, Int32.toInt_maxValue] at inside
    rw [Int32.toInt_ofInt_of_le] <;> omega

theorem Yearless.narrow_eq (h : row.Yearless) : ∃ flaw, Store.narrow row.academicYear = .error flaw := by
  cases fits : Store.narrow row.academicYear with
  | error flaw => exact ⟨flaw, rfl⟩
  | ok year => exact absurd ⟨year, Store.narrow_eq_ok fits⟩ (yearless_iff.mp h)

/-- A row that passed the checks is told as the mark that it describes, unless its year is none. -/
theorem Checked.toMark_cases (h : row.Checked) (subject : StoredSubject) :
    (¬row.Yearless ∧ ∃ mark, row.toMark subject.toSubject = .ok mark ∧ row.Describes subject mark) ∨
      (row.Yearless ∧ ∃ message, row.toMark subject.toSubject = .error (.validation message)) := by
  obtain ⟨percentage, hpercentage⟩ := h.exists_percentage
  obtain ⟨term, hterm⟩ := h.exists_term
  by_cases stray : row.Yearless
  · obtain ⟨flaw, overflows⟩ := stray.narrow_eq
    have inside : Percentage.ofInt? row.percentage = some percentage :=
      Percentage.ofInt?_eq_some.mpr ⟨h.percentage.1, h.percentage.2, hpercentage.symm⟩
    refine .inr ⟨stray, "mark " ++ toString row.id ++ ": " ++ ("academic year: " ++ flaw.message), ?_⟩
    unfold toMark
    rw [inside, hterm]
    simp only [Term.parse_word, overflows]
    rfl
  · obtain ⟨year, hyear⟩ := not_not.mp (mt yearless_iff.mpr stray)
    have told := toMark_of_values hpercentage hyear hterm subject.toSubject
    exact .inl ⟨stray, _, told, percentage, year, term, hpercentage, hyear, hterm, rfl⟩

/-- A row lies within the periods that contain its own. -/
theorem Checked.isWithin_iff (h : row.Checked) (p : Period) :
    row.isWithin p = true ↔ ∃ own, row.HasPeriod own ∧ p.contains own = true := by
  constructor
  · intro inside
    obtain ⟨term, hterm⟩ := h.exists_term
    have same : row.academicYear = p.academicYear.toInt := by
      unfold isWithin at inside
      rw [Bool.and_eq_true, Bool.and_eq_true] at inside
      exact eq_of_beq inside.1.1
    rw [isWithin_of_values same hterm] at inside
    exact ⟨_, ⟨p.academicYear, term, same, hterm, rfl⟩, inside⟩
  · rintro ⟨own, ⟨year, term, hyear, hterm, rfl⟩, contains⟩
    rw [isWithin_of_values hyear hterm]
    exact contains

/-- A filter accepts what it asks for. -/
theorem Checked.accepts_iff (h : row.Checked) : f.accepts row = true ↔ f.Asks row := by
  have period : (f.periods.isEmpty || f.periods.any row.isWithin) = true ↔
      f.periods = [] ∨ ∃ p ∈ f.periods, ∃ own, row.HasPeriod own ∧ p.contains own = true := by
    rw [Bool.or_eq_true, List.isEmpty_iff, List.any_eq_true]
    simp only [h.isWithin_iff]
  unfold MarksFilter.accepts
  rw [Bool.and_eq_true, Bool.and_eq_true, Bool.and_eq_true, period]
  constructor
  · rintro ⟨⟨⟨hid, hpid⟩, hsubject⟩, hperiod⟩
    refine ⟨fun id asked => ?_, fun pid asked => ?_, fun id asked => ?_, hperiod⟩
    · rw [Option.mem_def.mp asked] at hid
      exact eq_of_beq hid
    · rw [Option.mem_def.mp asked] at hpid
      exact eq_of_beq hpid
    · rw [Option.mem_def.mp asked] at hsubject
      exact eq_of_beq hsubject
  · rintro ⟨hid, hpid, hsubject, hperiod⟩
    refine ⟨⟨⟨?_, ?_⟩, ?_⟩, hperiod⟩
    · cases asked : f.id with
      | none => rfl
      | some id => exact beq_iff_eq.mpr (hid id asked)
    · cases asked : f.pid with
      | none => rfl
      | some pid => exact beq_iff_eq.mpr (hpid pid asked)
    · cases asked : f.subjectId with
      | none => rfl
      | some id => exact beq_iff_eq.mpr (hsubject id asked)

end StoredMark

namespace Store

/-- A store whose rows have their keys in order, passed the checks of their tables and refer to what exists. -/
structure Checked (s : Store) : Prop where
  subjects : s.subjects.Pairwise fun a b => a.id < b.id
  marks : s.marks.Pairwise fun a b => a.id < b.id
  markRows : ∀ row ∈ s.marks, row.Checked
  markReferences : ∀ row ∈ s.marks, s.hasSubject row.subjectId = true

variable {s : Store} {f : MarksFilter}

theorem Sound.checked (h : s.Sound) : s.Checked where
  subjects := h.subjects
  marks := h.marks
  markRows row hrow := (h.markRows row hrow).1.checked
  markReferences row hrow := (h.markReferences row hrow).2

/-- No check minds which year is written over another. -/
theorem Checked.overwriteMarkYear (h : s.Checked) (id year : Int) : (s.overwriteMarkYear id year).Checked := by
  have stays (row : StoredMark) : (if row.id == id then { row with academicYear := year } else row).id = row.id := by
    split <;> rfl
  refine ⟨h.subjects, ?_, ?_, ?_⟩
  · apply List.pairwise_map.mpr
    apply h.marks.imp
    intro a b before
    rwa [stays, stays]
  · intro row hrow
    obtain ⟨old, hold, rfl⟩ := List.mem_map.mp hrow
    obtain ⟨percentage, term⟩ := h.markRows old hold
    split
    · exact ⟨percentage, term⟩
    · exact ⟨percentage, term⟩
  · intro row hrow
    obtain ⟨old, hold, rfl⟩ := List.mem_map.mp hrow
    have known := h.markReferences old hold
    split
    · exact known
    · exact known

/-! ### Rows and their subjects -/

theorem Checked.mem_subjects (h : s.Checked) {row : StoredMark} {subject : StoredSubject}
    (joined : (row, subject) ∈ s.joinedMarks) :
    row.Checked ∧ subject ∈ s.subjects ∧ subject.id = row.subjectId := by
  obtain ⟨hrow, found⟩ := mem_joinedMarks.mp joined
  unfold storedSubject? at found
  exact ⟨h.markRows row hrow, List.mem_of_find?_eq_some found, by simpa using List.find?_some found⟩

/-- No row is lost for want of a subject. -/
theorem Checked.joinedMarks_rows (h : s.Checked) : s.joinedMarks.map Prod.fst = s.marks := by
  have joins : ∀ row ∈ s.marks, ((s.storedSubject? row.subjectId).map (row, ·)).map Prod.fst = some row := by
    intro row hrow
    obtain ⟨subject, hsubject, own⟩ := hasSubject_iff.mp (h.markReferences row hrow)
    rw [← own, storedSubject?_of_mem h.subjects hsubject]
    rfl
  calc s.joinedMarks.map Prod.fst
    _ = s.marks.filterMap fun row => ((s.storedSubject? row.subjectId).map (row, ·)).map Prod.fst :=
      List.map_filterMap
    _ = s.marks.filterMap some := List.filterMap_congr joins
    _ = s.marks := List.filterMap_some

theorem page_map {α β : Type} (g : α → β) (limit offset : Option Int) (xs : List α) :
    page limit offset (xs.map g) = (page limit offset xs).map g := by
  unfold page
  cases limit with
  | none => exact List.map_drop.symm
  | some n =>
      dsimp only
      split
      · exact List.map_drop.symm
      · rw [← List.map_drop, List.map_take]

theorem isPage_page {α : Type} (limit offset : Option Int) (xs : List α) :
    IsPage limit offset xs (page limit offset xs) where
  within i inside := by
    cases limit with
    | none => exact List.getElem?_drop
    | some n =>
        by_cases negative : n < 0
        · exact (congrArg (·[i]?) (if_pos negative)).trans List.getElem?_drop
        · have before : i < n.toNat := by
            have := inside n rfl (by omega)
            omega
          calc (page (some n) offset xs)[i]?
            _ = ((xs.drop (offset.getD 0).toNat).take n.toNat)[i]? := congrArg (·[i]?) (if_neg negative)
            _ = (xs.drop (offset.getD 0).toNat)[i]? := List.getElem?_take_of_lt before
            _ = xs[(offset.getD 0).toNat + i]? := List.getElem?_drop
  beyond i n given natural reached := by
    cases given
    have behind : n.toNat ≤ i := by omega
    calc (page (some n) offset xs)[i]?
      _ = ((xs.drop (offset.getD 0).toNat).take n.toNat)[i]? := congrArg (·[i]?) (if_neg (by omega))
      _ = none := List.getElem?_take_eq_none behind

/-! ### What a query comes to -/

/-- A query tells the rows on the page that it asks for, each together with the row of its subject. -/
theorem Checked.findMarks_joined (h : s.Checked) (shallow : f.isTooDeep = false) :
    ∃ joined : List (StoredMark × StoredSubject),
      joined.map Prod.fst = page f.limit f.offset (s.marks.filter f.accepts) ∧
      findMarks f s = joined.mapM (fun x => x.1.toMark x.2.toSubject) ∧
      ∀ x ∈ joined, x.1.Checked ∧ x.2 ∈ s.subjects ∧ x.2.id = x.1.subjectId := by
  let accepted := s.joinedMarks.filter fun x => f.accepts x.1
  have rows : accepted.map Prod.fst = s.marks.filter f.accepts := by
    rw [← h.joinedMarks_rows, List.filter_map]
    rfl
  refine ⟨page f.limit f.offset accepted, by rw [← page_map, rows], ?_, ?_⟩
  · unfold findMarks
    rw [shallow, if_neg Bool.false_ne_true]
  · intro x hx
    exact h.mem_subjects (List.mem_filter.mp (mem_of_mem_page hx)).1

/-- A row without a year on the page ends the query. -/
theorem Checked.findMarks_of_yearless (h : s.Checked) (shallow : f.isTooDeep = false)
    (stray : ∃ row ∈ page f.limit f.offset (s.marks.filter f.accepts), row.Yearless) :
    ∃ message, findMarks f s = .error (.validation message) := by
  obtain ⟨joined, rows, asked, cases⟩ := h.findMarks_joined shallow
  rw [← rows] at stray
  obtain ⟨row, hrow, yearless⟩ := stray
  obtain ⟨x, hx, rfl⟩ := List.mem_map.mp hrow
  cases told : joined.mapM fun x => x.1.toMark x.2.toSubject with
  | error e =>
      rw [asked, told]
      obtain ⟨y, hy, fails⟩ := exists_of_mapM_error told
      rcases (cases y hy).1.toMark_cases y.2 with ⟨-, mark, succeeds, -⟩ | ⟨-, message, refuses⟩
      · rw [succeeds] at fails
        cases fails
      · rw [refuses] at fails
        cases fails
        exact ⟨message, rfl⟩
  | ok marks =>
      obtain ⟨mark, -, succeeds⟩ := exists_of_forall₂ (mapM_eq_ok.mp told) hx
      rcases (cases x hx).1.toMark_cases x.2 with ⟨year, -⟩ | ⟨-, message, refuses⟩
      · exact absurd yearless year
      · rw [refuses] at succeeds
        cases succeeds

/-- Rows that all have years are told as the marks that they describe. -/
theorem Checked.findMarks_of_years (h : s.Checked) (shallow : f.isTooDeep = false)
    (years : ∀ row ∈ page f.limit f.offset (s.marks.filter f.accepts), ¬row.Yearless) :
    ∃ marks, findMarks f s = .ok marks ∧
      List.Forall₂ (fun row mark => ∃ subject ∈ s.subjects, subject.id = row.subjectId ∧ row.Describes subject mark)
        (page f.limit f.offset (s.marks.filter f.accepts)) marks := by
  obtain ⟨joined, rows, asked, cases⟩ := h.findMarks_joined shallow
  rw [← rows] at years
  have tells : ∀ x ∈ joined, (x.2 ∈ s.subjects ∧ x.2.id = x.1.subjectId) ∧
      ∃ mark, x.1.toMark x.2.toSubject = .ok mark ∧ x.1.Describes x.2 mark := by
    intro x hx
    obtain ⟨checked, subject⟩ := cases x hx
    have year := years x.1 (List.mem_map_of_mem hx)
    exact ⟨subject, (checked.toMark_cases x.2).elim And.right fun other => absurd other.1 year⟩
  obtain ⟨marks, told⟩ := exists_mapM_eq_ok.mpr fun x hx => (tells x hx).2.imp fun _ => And.left
  refine ⟨marks, asked.trans told, ?_⟩
  rw [← rows, List.forall₂_map_left_iff]
  apply ((List.forall₂_and_left _ _).mpr ⟨tells, mapM_eq_ok.mp told⟩).imp
  rintro x mark ⟨⟨⟨hsubject, own⟩, same, hsame, describes⟩, succeeds⟩
  rw [hsame] at succeeds
  cases succeeds
  exact ⟨x.2, hsubject, own, describes⟩

/-- **Queries agree with the containment of periods.** Whatever years stand in the rows of a store: as long as a query can
be asked, it selects just the rows that meet every part of its filter, where some period of a filter that has periods
must contain the row's own, and it puts them in the order of their ids and turns to the page that is asked for. It fails
with a validation error just where a row on that page has a year that is none, and else gives the marks that the rows
on the page describe together with the rows of their subjects. -/
theorem query_follows_containment (h : s.Checked) (shallow : f.isTooDeep = false) :
    ∃ all shown : List StoredMark,
      (all.Pairwise fun a b => a.id < b.id) ∧
      (∀ row, row ∈ all ↔ row ∈ s.marks ∧ f.Asks row) ∧
      IsPage f.limit f.offset all shown ∧
      ((∃ message, findMarks f s = .error (.validation message)) ↔ ∃ row ∈ shown, row.Yearless) ∧
      ((∀ row ∈ shown, ¬row.Yearless) → ∃ marks, findMarks f s = .ok marks ∧
        List.Forall₂ (fun row mark => ∃ subject ∈ s.subjects, subject.id = row.subjectId ∧ row.Describes subject mark)
          shown marks) := by
  let all := s.marks.filter f.accepts
  have selected : ∀ row, row ∈ all ↔ row ∈ s.marks ∧ f.Asks row := by
    intro row
    rw [List.mem_filter]
    exact and_congr_right fun hrow => (h.markRows row hrow).accepts_iff
  refine ⟨all, page f.limit f.offset all, h.marks.filter _, selected, isPage_page _ _ all, ?_⟩
  by_cases stray : ∃ row ∈ page f.limit f.offset all, row.Yearless
  · refine ⟨iff_of_true (h.findMarks_of_yearless shallow stray) stray, fun years => ?_⟩
    obtain ⟨row, hrow, yearless⟩ := stray
    exact absurd yearless (years row hrow)
  · have years : ∀ row ∈ page f.limit f.offset all, ¬row.Yearless :=
      fun row hrow yearless => stray ⟨row, hrow, yearless⟩
    obtain ⟨marks, told, describes⟩ := h.findMarks_of_years shallow years
    refine ⟨iff_of_false ?_ stray, fun _ => ⟨marks, told, describes⟩⟩
    rintro ⟨message, fails⟩
    rw [told] at fails
    cases fails

/-- A pupil with marks in three years, of which the second was overwritten by what is no year. -/
def strayStore : Store :=
  let mark (period : Period) : Operation := .createMark
    { pid := 7, subject := ⟨some 1, "AR", "Art"⟩, teacher := "Ms Lee", percentage := ⟨58, by decide⟩, period }
  overwriteMarkYear 2 5000000000 <| List.foldl Operation.perform {}
    [.createStudent
      { pid := 7, name := "Ada", currentYear := some 9, attends := true, subjects := [⟨none, "AR", "Art"⟩] },
     mark (.full 2023 .summer "Exam"), mark (.full 2024 .autumn "Exam"), mark (.full 2024 .autumn "Test"),
     mark (.full 2025 .spring "Test")]

theorem strayStore_checked : strayStore.Checked :=
  ((Built.empty .epoch).after _).sound.checked.overwriteMarkYear 2 5000000000

/-- Two partial periods pass by the row without a year. A page of all the pupil's marks that has the row on it is refused. -/
theorem query_follows_containment_stray :
    let f : MarksFilter := { pid := some 7, periods := [.ofYear 2023, ⟨2024, none, some "Test"⟩], offset := some 1 }
    let g : MarksFilter := { pid := some 7, limit := some 2 }
    strayStore.Checked ∧ f.isTooDeep = false ∧ g.isTooDeep = false ∧
      (∃ all shown marks, (∀ row, row ∈ all ↔ row ∈ strayStore.marks ∧ f.Asks row) ∧
        IsPage f.limit f.offset all shown ∧ findMarks f strayStore = .ok marks ∧ marks.map (·.id) = [some 3]) ∧
      ∃ all shown, (∀ row, row ∈ all ↔ row ∈ strayStore.marks ∧ g.Asks row) ∧ IsPage g.limit g.offset all shown ∧
        (∃ row ∈ shown, row.Yearless) ∧ ∃ message, findMarks g strayStore = .error (.validation message) := by
  intro f g
  have shallow : f.isTooDeep = false := by decide
  have plain : g.isTooDeep = false := by decide
  obtain ⟨all, shown, -, selects, page, -, -⟩ := query_follows_containment strayStore_checked shallow
  obtain ⟨others, onPage, -, selectsAny, pageAny, stray, -⟩ := query_follows_containment strayStore_checked plain
  obtain ⟨marks, told, ids⟩ := exists_of_toOption_map
    (show (findMarks f strayStore).toOption.map (·.map (·.id)) = some [some 3] by decide +kernel)
  have fails : ∃ message, findMarks g strayStore = .error (.validation message) :=
    ⟨"mark 2: academic year: number too large to fit in target type", by decide +kernel⟩
  exact ⟨strayStore_checked, shallow, plain, ⟨all, shown, marks, selects, page, told, ids⟩,
    others, onPage, selectsAny, pageAny, stray.mp fails, fails⟩

end Store

end Gradebook
