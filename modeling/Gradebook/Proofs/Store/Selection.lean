import Gradebook.Proofs.Store.Query

/-! What a query for marks selects. In a sound store every row is told as one mark, which says what the row and the row
of its subject say. A query gives all marks that meet every part of its filter, each once and from oldest to newest, or
one page of them. -/

namespace Gradebook

/-- A mark with a lower number than another. -/
def Mark.Older (a b : Mark) : Prop := ∃ i ∈ a.id, ∃ j ∈ b.id, i < j

/-- A mark that meets every part of a filter that is set. -/
structure MarksFilter.Meets (f : MarksFilter) (mark : Mark) : Prop where
  id : ∀ id ∈ f.id, mark.id = some id
  pid : ∀ pid ∈ f.pid, mark.pid = pid
  subject : ∀ id ∈ f.subjectId, mark.subject.id = some id
  period : f.periods = [] ∨ ∃ p ∈ f.periods, p.contains mark.period = true

namespace StoredMark

variable {row : StoredMark} {subject : StoredSubject} {mark : Mark} {f : MarksFilter}

/-- A sound row is told as the mark that it describes. -/
theorem Sound.toMark_eq_ok (h : row.Sound) :
    row.toMark subject.toSubject = .ok mark ↔ row.Describes subject mark := by
  constructor
  · intro told
    obtain ⟨percentage, hpercentage⟩ := h.percentage
    obtain ⟨year, hyear⟩ := h.year
    obtain ⟨term, hterm⟩ := h.term
    rw [toMark_of_values hpercentage hyear hterm, Except.ok.injEq] at told
    exact ⟨percentage, year, term, hpercentage, hyear, hterm, told.symm⟩
  · rintro ⟨percentage, year, term, hpercentage, hyear, hterm, rfl⟩
    exact toMark_of_values hpercentage hyear hterm _

/-- The period of a described mark is the one that its row has. -/
theorem Describes.hasPeriod_iff (describes : row.Describes subject mark) {own : Period} :
    row.HasPeriod own ↔ own = mark.period := by
  obtain ⟨-, year, term, -, hyear, hterm, rfl⟩ := describes
  constructor
  · rintro ⟨otherYear, otherTerm, hotherYear, hotherTerm, rfl⟩
    rw [hyear, Int32.toInt_inj] at hotherYear
    rw [hterm, Term.word_inj] at hotherTerm
    rw [hotherYear, hotherTerm]
  · rintro rfl
    exact ⟨year, term, hyear, hterm, rfl⟩

/-- A filter accepts just the rows of the marks that meet it. -/
theorem Sound.accepts_iff (h : row.Sound) (describes : row.Describes subject mark)
    (own : subject.id = row.subjectId) : f.accepts row = true ↔ f.Meets mark := by
  have inside (p : Period) :
      (∃ own, row.HasPeriod own ∧ p.contains own = true) ↔ p.contains mark.period = true := by
    simp only [describes.hasPeriod_iff, exists_eq_left]
  rw [h.checked.accepts_iff]
  obtain ⟨percentage, year, term, -, -, -, rfl⟩ := describes
  constructor
  · rintro ⟨hid, hpid, hsubject, hperiod⟩
    refine ⟨fun id asked => congrArg some (hid id asked), hpid, fun id asked => ?_, ?_⟩
    · exact congrArg some (own.trans (hsubject id asked))
    · simpa only [inside] using hperiod
  · rintro ⟨hid, hpid, hsubject, hperiod⟩
    refine ⟨fun id asked => Option.some.inj (hid id asked), hpid, fun id asked => ?_, ?_⟩
    · exact own.symm.trans (Option.some.inj (hsubject id asked))
    · simpa only [inside] using hperiod

end StoredMark

namespace Store

variable {s : Store} {f : MarksFilter} {P Q : Mark → Prop} {marks : List Mark} {mark : Mark}

/-- A mark that is stored, with the subject that it refers to. -/
def HasMark (s : Store) (mark : Mark) : Prop :=
  ∃ row ∈ s.marks, ∃ subject ∈ s.subjects, subject.id = row.subjectId ∧ row.Describes subject mark

/-- All stored marks with a property, each once and from oldest to newest. -/
structure Selects (s : Store) (P : Mark → Prop) (marks : List Mark) : Prop where
  ascend : marks.Pairwise Mark.Older
  mem_iff : ∀ mark, mark ∈ marks ↔ s.HasMark mark ∧ P mark

namespace Selects

theorem congr (selects : s.Selects P marks) (same : ∀ mark, s.HasMark mark → (P mark ↔ Q mark)) :
    s.Selects Q marks where
  ascend := selects.ascend
  mem_iff mark := by
    rw [selects.mem_iff]
    exact and_congr_right (same mark)

theorem filter (selects : s.Selects P marks) (keep : Mark → Bool) :
    s.Selects (fun mark => P mark ∧ keep mark = true) (marks.filter keep) where
  ascend := selects.ascend.filter keep
  mem_iff mark := by rw [List.mem_filter, selects.mem_iff, and_assoc]

theorem none (never : ∀ mark, s.HasMark mark → ¬P mark) : s.Selects P [] where
  ascend := .nil
  mem_iff mark := by
    rw [iff_false_left List.not_mem_nil, not_and]
    exact never mark

theorem eq_nil (selects : s.Selects P marks) (never : ∀ mark, ¬P mark) : marks = [] := by
  rw [List.eq_nil_iff_forall_not_mem]
  intro mark hmark
  exact never mark ((selects.mem_iff mark).mp hmark).2

end Selects

theorem Sound.mem_joinedMarks (h : s.Sound) {row : StoredMark} {subject : StoredSubject} :
    (row, subject) ∈ s.joinedMarks ↔ row ∈ s.marks ∧ subject ∈ s.subjects ∧ subject.id = row.subjectId := by
  rw [Store.mem_joinedMarks, and_congr_right_iff]
  intro _
  constructor
  · intro found
    unfold storedSubject? at found
    exact ⟨List.mem_of_find?_eq_some found, by simpa using List.find?_some found⟩
  · rintro ⟨hsubject, own⟩
    rw [← own]
    exact storedSubject?_of_mem h.subjects hsubject

theorem Sound.rowSound_of_accepted (h : s.Sound) {x : StoredMark × StoredSubject}
    (hx : x ∈ s.joinedMarks.filter fun x => f.accepts x.1) : x.1.Sound :=
  (h.markRows x.1 (h.mem_joinedMarks.mp (List.mem_filter.mp hx).1).1).1

theorem Sound.joinedMarks_ascend (h : s.Sound) : s.joinedMarks.Pairwise fun a b => a.1.id < b.1.id := by
  unfold joinedMarks
  rw [List.pairwise_filterMap]
  refine h.marks.imp ?_
  intro a b before x hx y hy
  obtain ⟨_, -, rfl⟩ := Option.map_eq_some_iff.mp hx
  obtain ⟨_, -, rfl⟩ := Option.map_eq_some_iff.mp hy
  exact before

theorem page_nil {α : Type} (limit offset : Option Int) : page limit offset ([] : List α) = [] := by
  cases limit <;> simp [page]

theorem forall₂_page {α β : Type} {R : α → β → Prop} {xs : List α} {ys : List β} (related : List.Forall₂ R xs ys)
    (limit offset : Option Int) : List.Forall₂ R (page limit offset xs) (page limit offset ys) := by
  have rest := List.forall₂_drop (offset.getD 0).toNat related
  unfold page
  cases limit with
  | none => exact rest
  | some n =>
      dsimp only
      split
      · exact rest
      · exact List.forall₂_take n.toNat rest

/-- The marks that the accepted rows of a sound store are told as are those that meet the filter. -/
theorem Sound.selects_of_tells (h : s.Sound) {found : List Mark}
    (tells : List.Forall₂ (fun x mark => x.1.toMark x.2.toSubject = .ok mark)
      (s.joinedMarks.filter fun x => f.accepts x.1) found) : s.Selects f.Meets found where
  ascend := by
    refine pairwise_of_forall₂ tells (h.joinedMarks_ascend.filter _) ?_
    intro a x b y ha hb first second before
    obtain ⟨_, _, _, -, -, -, rfl⟩ := (h.rowSound_of_accepted ha).toMark_eq_ok.mp first
    obtain ⟨_, _, _, -, -, -, rfl⟩ := (h.rowSound_of_accepted hb).toMark_eq_ok.mp second
    exact ⟨_, rfl, _, rfl, before⟩
  mem_iff mark := by
    constructor
    · intro hmark
      obtain ⟨⟨row, subject⟩, hx, told⟩ := exists_of_forall₂ tells.flip hmark
      have sound := h.rowSound_of_accepted hx
      have describes := sound.toMark_eq_ok.mp told
      obtain ⟨hjoined, accepted⟩ := List.mem_filter.mp hx
      obtain ⟨hrow, hsubject, own⟩ := h.mem_joinedMarks.mp hjoined
      exact ⟨⟨row, hrow, subject, hsubject, own, describes⟩, (sound.accepts_iff describes own).mp accepted⟩
    · rintro ⟨⟨row, hrow, subject, hsubject, own, describes⟩, meets⟩
      have sound := (h.markRows row hrow).1
      have hx : (row, subject) ∈ s.joinedMarks.filter fun x => f.accepts x.1 :=
        List.mem_filter.mpr
          ⟨h.mem_joinedMarks.mpr ⟨hrow, hsubject, own⟩, (sound.accepts_iff describes own).mpr meets⟩
      obtain ⟨other, hother, told⟩ := exists_of_forall₂ tells hx
      -- a row is told as one mark only
      have same : mark = other := Except.ok.inj ((sound.toMark_eq_ok.mpr describes).symm.trans told)
      exact same ▸ hother

/-- **A query selects what meets its filter.** In a sound store, as long as the query can be asked, it gives the page
that is asked for of all stored marks that meet the filter. -/
theorem Sound.findMarks_selects (h : s.Sound) (shallow : f.isTooDeep = false) :
    ∃ found, findMarks f s = .ok (page f.limit f.offset found) ∧ s.Selects f.Meets found := by
  obtain ⟨found, tells⟩ :=
    exists_mapM_eq_ok.mpr fun x hx => (h.rowSound_of_accepted (f := f) hx).toMark_ok x.2.toSubject
  rw [mapM_eq_ok] at tells
  refine ⟨found, ?_, h.selects_of_tells tells⟩
  unfold findMarks
  rw [shallow, if_neg Bool.false_ne_true]
  exact mapM_eq_ok.mpr (forall₂_page tells f.limit f.offset)

/-- In a sound store a mark is found by its number just where it is stored. -/
theorem Sound.findMark_eq_ok (h : s.Sound) {id : Int} :
    findMark id s = .ok mark ↔ s.HasMark mark ∧ mark.id = some id := by
  have shallow : (MarksFilter.byId id).isTooDeep = false := MarksFilter.isTooDeep_eq_false _ (Nat.zero_le _)
  obtain ⟨found, told, selects⟩ := h.findMarks_selects shallow
  have whole : findMarks (.byId id) s = .ok found := told
  have meets (other : Mark) : (MarksFilter.byId id).Meets other ↔ other.id = some id := by
    constructor
    · intro meets
      exact meets.id id rfl
    · intro own
      exact ⟨by rintro _ ⟨⟩; exact own, nofun, nofun, .inl rfl⟩
  have mem : mark ∈ found ↔ s.HasMark mark ∧ mark.id = some id := by rw [selects.mem_iff, meets]
  rw [← mem]
  unfold findMark
  rw [whole]
  cases found with
  | nil => exact iff_of_false nofun List.not_mem_nil
  | cons first rest =>
      have own (other : Mark) (hother : other ∈ first :: rest) : other.id = some id :=
        (meets other).mp ((selects.mem_iff other).mp hother).2
      have alone : mark ∉ rest := by
        intro hmark
        obtain ⟨i, hi, j, hj, before⟩ := (List.pairwise_cons.mp selects.ascend).1 mark hmark
        rw [own first List.mem_cons_self] at hi
        rw [own mark (List.mem_cons_of_mem _ hmark)] at hj
        cases hi
        cases hj
        exact Int.lt_irrefl _ before
      rw [List.mem_cons, or_iff_left alone, Except.ok.injEq, eq_comm]

/-- A mark is found by its number, and any query that can be asked selects it just where the mark meets the filter. -/
structure KnowsMark (s : Store) (mark : Mark) : Prop where
  byId : ∀ id ∈ mark.id, findMark id s = .ok mark
  byFilter : ∀ f : MarksFilter, f.isTooDeep = false → ∃ all shown, findMarks f s = .ok shown ∧
    IsPage f.limit f.offset all shown ∧ s.Selects f.Meets all ∧ (mark ∈ all ↔ f.Meets mark)

/-- What a sound store has it tells of. -/
theorem Sound.knowsMark (h : s.Sound) (stored : s.HasMark mark) : s.KnowsMark mark where
  byId _ own := h.findMark_eq_ok.mpr ⟨stored, own⟩
  byFilter f shallow := by
    obtain ⟨all, told, selects⟩ := h.findMarks_selects shallow
    refine ⟨all, _, told, isPage_page f.limit f.offset all, selects, ?_⟩
    rw [selects.mem_iff]
    exact and_iff_right stored

/-- In a sound store a query fails only where it cannot be asked. -/
theorem Sound.findMarks_error (h : s.Sound) {e : Error} (fails : findMarks f s = .error e) : e = .queryTooDeep := by
  cases deep : f.isTooDeep with
  | false =>
      obtain ⟨marks, told⟩ := h.findMarks_ok deep
      rw [told] at fails
      cases fails
  | true =>
      rw [findMarks_of_tooDeep deep] at fails
      cases fails
      rfl

end Store

end Gradebook
