import Gradebook.Proofs.Store.Marks

/-! Marks by period. Every mark that is told has a full period, and the rows of a sound store lie within just the
periods that contain it. So asking a store for marks in some periods is asking for all of them and leaving out what
lies in none. -/

namespace Gradebook

/-- The elements that pass a test come to what passes a test that says the same of the outcomes. -/
theorem mapM_filter {ε α β : Type} {f : α → Except ε β} {keep : α → Bool} {keeps : β → Bool} {xs : List α}
    {ys : List β} (comes : xs.mapM f = .ok ys) (same : ∀ x ∈ xs, ∀ y, f x = .ok y → keep x = keeps y) :
    (xs.filter keep).mapM f = .ok (ys.filter keeps) := by
  rw [mapM_eq_ok] at comes ⊢
  induction comes with
  | nil => exact .nil
  | @cons x y xs ys first _ ih =>
      have rest := ih fun z hz => same z (List.mem_cons_of_mem _ hz)
      have agree := same x List.mem_cons_self y first
      rw [List.filter_cons, List.filter_cons, agree]
      split
      · exact .cons first rest
      · exact rest

namespace StoredMark

variable {row : StoredMark} {subject : Subject} {mark : Mark}

/-- What is told of a mark's place: whose it is, and a full period. -/
theorem toMark_place (told : row.toMark subject = .ok mark) : mark.pid = row.pid ∧ mark.period.isFull = true := by
  unfold toMark at told
  split at told
  · cases told
  · split at told
    · cases told
    · split at told
      · cases told
      · cases told
        exact ⟨rfl, rfl⟩

/-- A sound row is told with its own year, term and column. -/
theorem Sound.toMark_period (h : row.Sound) (told : row.toMark subject = .ok mark) : ∃ year term,
    row.academicYear = Int32.toInt year ∧ row.term = Term.word term ∧ mark.period = .full year term row.column := by
  obtain ⟨percentage, hpercentage⟩ := h.percentage
  obtain ⟨year, hyear⟩ := h.year
  obtain ⟨term, hterm⟩ := h.term
  rw [toMark_of_values hpercentage hyear hterm] at told
  cases told
  exact ⟨year, term, hyear, hterm, rfl⟩

/-- A row with the year and the term of a period lies within what contains it. -/
theorem isWithin_of_values {year : Year} {term : Term} (hyear : row.academicYear = year.toInt)
    (hterm : row.term = term.word) (p : Period) : row.isWithin p = p.contains (.full year term row.column) := by
  have years : (year.toInt == p.academicYear.toInt) = (p.academicYear == year) := by
    rw [Bool.eq_iff_iff, beq_iff_eq, beq_iff_eq, Int32.toInt_inj, eq_comm]
  have terms (own : Term) : (term.word == own.word) = (own == term) := by
    cases term <;> cases own <;> decide
  have columns (own : String) : (row.column == own) = (own == row.column) := by
    rw [Bool.eq_iff_iff, beq_iff_eq, beq_iff_eq, eq_comm]
  unfold isWithin Period.contains Period.full
  rw [hyear, hterm, years]
  rcases p with ⟨own, _ | ownTerm, _ | column⟩ <;> simp [terms, columns]

/-- A sound row lies within the periods that contain its mark's. -/
theorem Sound.isWithin_eq (h : row.Sound) (told : row.toMark subject = .ok mark) (p : Period) :
    row.isWithin p = p.contains mark.period := by
  obtain ⟨year, term, hyear, hterm, hperiod⟩ := h.toMark_period told
  rw [hperiod, isWithin_of_values hyear hterm]

end StoredMark

namespace MarksFilter

theorem foldl_testDepth {ps : List Period} (full : ∀ p ∈ ps, p.isFull = true) {depth : Nat} (deep : 4 ≤ depth) :
    ps.foldl (fun depth q => max depth q.testDepth + 1) depth = depth + ps.length := by
  induction ps generalizing depth with
  | nil => rfl
  | cons p ps ih =>
      have hp := p.testDepth_le
      rw [List.foldl_cons, Nat.max_eq_left (by omega),
        ih (fun q hq => full q (List.mem_cons_of_mem _ hq)) (by omega), List.length_cons]
      omega

/-- A query can carry 994 full periods and no more. -/
theorem isTooDeep_iff_of_full {f : MarksFilter} (full : ∀ p ∈ f.periods, p.isFull = true) :
    f.isTooDeep = true ↔ 994 < f.periods.length := by
  have depth : f.testDepth = if f.periods = [] then 0 else f.periods.length + 3 := by
    unfold testDepth
    split
    · next none => rw [if_pos none]
    · next p ps some =>
      rw [some] at full ⊢
      have first : p.testDepth = 4 := by
        have both := full p List.mem_cons_self
        rw [Period.isFull, Bool.and_eq_true] at both
        rw [Period.testDepth, if_pos both.1, if_pos both.2]
      rw [first, foldl_testDepth (fun q hq => full q (List.mem_cons_of_mem _ hq)) (Nat.le_refl 4),
        if_neg (List.cons_ne_nil _ _), List.length_cons]
      omega
  rw [isTooDeep, decide_eq_true_iff, depth, Store.maxDepth]
  by_cases none : f.periods = []
  · rw [if_pos none, none, List.length_nil]
    omega
  · rw [if_neg none]
    omega

end MarksFilter

namespace Store

variable {s : Store} {f : MarksFilter} {marks : List Mark}

theorem findMarks_of_tooDeep (deep : f.isTooDeep = true) : findMarks f s = .error .queryTooDeep := if_pos deep

/-- Marks in some periods are what lies in one of them among all marks. -/
theorem Sound.findMarks_periods (h : s.Sound) (anywhere : f.periods = []) (whole : f.limit = none ∧ f.offset = none)
    (found : findMarks f s = .ok marks) {periods : List Period}
    (shallow : ({ f with periods } : MarksFilter).isTooDeep = false) :
    findMarks { f with periods } s =
      .ok (marks.filter fun mark => periods.isEmpty || periods.any (·.contains mark.period)) := by
  have everything {α : Type} (xs : List α) : page f.limit f.offset xs = xs := by
    rw [whole.1, whole.2]
    rfl
  have easy : f.isTooDeep = false := MarksFilter.isTooDeep_eq_false f (by rw [anywhere]; exact Nat.zero_le _)
  have accepts (row : StoredMark) : MarksFilter.accepts { f with periods } row =
      (f.accepts row && (periods.isEmpty || periods.any row.isWithin)) := by
    simp [MarksFilter.accepts, anywhere]
  unfold findMarks at found ⊢
  rw [easy] at found
  rw [shallow]
  simp only [Bool.false_eq_true, if_false, everything, accepts] at found ⊢
  have split : (s.joinedMarks.filter fun x => f.accepts x.1 && (periods.isEmpty || periods.any x.1.isWithin)) =
      (s.joinedMarks.filter fun x => f.accepts x.1).filter fun x =>
        periods.isEmpty || periods.any x.1.isWithin := by
    rw [List.filter_filter]
    exact List.filter_congr fun x _ => Bool.and_comm _ _
  rw [split]
  refine mapM_filter found ?_
  rintro ⟨row, subject⟩ hjoined mark told
  have stored := (mem_joinedMarks.mp (List.mem_filter.mp hjoined).1).1
  have inside : row.isWithin = (·.contains mark.period) := funext ((h.markRows row stored).1.isWithin_eq told)
  simp only [inside]

theorem findMarks_full (found : findMarks f s = .ok marks) : ∀ mark ∈ marks, mark.period.isFull = true := by
  intro mark hmark
  unfold findMarks at found
  split at found
  · cases found
  · obtain ⟨⟨row, subject⟩, -, told⟩ := exists_of_forall₂ (mapM_eq_ok.mp found).flip hmark
    exact (StoredMark.toMark_place told).2

end Store

end Gradebook
