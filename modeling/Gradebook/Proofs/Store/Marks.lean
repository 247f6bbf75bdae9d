import Gradebook.Proofs.Period
import Gradebook.Proofs.Store.Students

/-! Finding and adding marks. What a store tells of a pupil's marks in a period is read off the rows of that pupil
and period whose subjects are stored. Adding a mark puts one row at the end, under the oldest subject of the mark's
name, and touches nothing else, so that all that was told before is told still. -/

namespace Gradebook

namespace StoredMark

variable {row : StoredMark} {subject : Subject} {mark : Mark}

/-- A row with the values of a mark is told as the mark. -/
theorem toMark_of_values {percentage : Percentage} {year : Year} {term : Term}
    (hpercentage : row.percentage = percentage.value) (hyear : row.academicYear = year.toInt)
    (hterm : row.term = term.word) (subject : Subject) : row.toMark subject = .ok {
      id := some row.id, pid := row.pid, subject, teacher := row.teacher, percentage
      period := .full year term row.column, createdAt := some row.createdAt } := by
  have inside : Percentage.ofInt? (percentage.value : Int) = some percentage :=
    Percentage.ofInt?_eq_some.mpr ⟨Int.natCast_nonneg _, Int.ofNat_le.mpr percentage.le_hundred, rfl⟩
  unfold toMark
  rw [hpercentage, hyear, hterm, inside]
  simp only [Term.parse_word, Store.narrow_toInt]

theorem Sound.toMark_ok (h : row.Sound) (subject : Subject) : ∃ mark, row.toMark subject = .ok mark := by
  obtain ⟨percentage, hpercentage⟩ := h.percentage
  obtain ⟨year, hyear⟩ := h.year
  obtain ⟨term, hterm⟩ := h.term
  exact ⟨_, toMark_of_values hpercentage hyear hterm subject⟩

theorem toMark_subject (told : row.toMark subject = .ok mark) : mark.subject = subject := by
  unfold toMark at told
  split at told
  · cases told
  · split at told
    · cases told
    · split at told
      · cases told
      · cases told
        rfl

end StoredMark

namespace Store

open Attempt

variable {s t u : Store} {pid : PupilId} {p : Period} {name : String} {mark given : Mark} {row : StoredMark}
variable {rows more : List StoredMark} {subjects : List StoredSubject}

/-! ### Finding -/

/-- The rows of a pupil's marks in a period, with their subjects. -/
def marksWithin (pid : PupilId) (p : Period) (s : Store) : List (StoredMark × StoredSubject) :=
  s.joinedMarks.filter fun (row, _) => row.pid == pid && row.isWithin p

/-- The names of the subjects in which a pupil has a mark in a period. -/
def markedNames (pid : PupilId) (p : Period) (s : Store) : List String :=
  (marksWithin pid p s).map (·.2.name)

theorem mem_joinedMarks {subject : StoredSubject} : (row, subject) ∈ s.joinedMarks ↔
    row ∈ s.marks ∧ s.storedSubject? row.subjectId = some subject := by
  unfold joinedMarks
  rw [List.mem_filterMap]
  constructor
  · rintro ⟨found, hfound, joined⟩
    obtain ⟨_, hsubject, same⟩ := Option.map_eq_some_iff.mp joined
    cases same
    exact ⟨hfound, hsubject⟩
  · rintro ⟨hrow, hsubject⟩
    exact ⟨row, hrow, by rw [hsubject]; rfl⟩

theorem mem_marksWithin {subject : StoredSubject} : (row, subject) ∈ marksWithin pid p s ↔
    row ∈ s.marks ∧ s.storedSubject? row.subjectId = some subject ∧ row.pid = pid ∧ row.isWithin p = true := by
  unfold marksWithin
  rw [List.mem_filter, mem_joinedMarks, Bool.and_eq_true, beq_iff_eq, and_assoc]

theorem mem_markedNames : name ∈ markedNames pid p s ↔ ∃ row ∈ s.marks, ∃ subject,
    s.storedSubject? row.subjectId = some subject ∧ row.pid = pid ∧ row.isWithin p = true ∧
      subject.name = name := by
  unfold markedNames
  rw [List.mem_map]
  constructor
  · rintro ⟨⟨row, subject⟩, hmem, hname⟩
    obtain ⟨hrow, hsubject, own, inside⟩ := mem_marksWithin.mp hmem
    exact ⟨row, hrow, subject, hsubject, own, inside, hname⟩
  · rintro ⟨row, hrow, subject, hsubject, own, inside, hname⟩
    exact ⟨(row, subject), mem_marksWithin.mpr ⟨hrow, hsubject, own, inside⟩, hname⟩

theorem findMarks_within (pid : PupilId) (p : Period) (s : Store) :
    findMarks { MarksFilter.byPid pid with periods := [p] } s =
      (marksWithin pid p s).mapM fun (row, subject) => row.toMark subject.toSubject := by
  have shallow : ({ MarksFilter.byPid pid with periods := [p] } : MarksFilter).isTooDeep = false :=
    MarksFilter.isTooDeep_eq_false _ (by simp)
  have accepts (row : StoredMark) :
      MarksFilter.accepts { MarksFilter.byPid pid with periods := [p] } row =
        (row.pid == pid && row.isWithin p) := by
    simp [MarksFilter.accepts, MarksFilter.byPid]
  unfold findMarks marksWithin
  rw [shallow]
  simp only [Bool.false_eq_true, if_false, accepts]
  rfl

theorem names_of_findMarks {stored : List Mark}
    (found : findMarks { MarksFilter.byPid pid with periods := [p] } s = .ok stored) :
    stored.map (·.subject.name) = markedNames pid p s := by
  rw [findMarks_within, mapM_eq_ok] at found
  unfold markedNames
  generalize marksWithin pid p s = joined at found
  induction found with
  | nil => rfl
  | cons told _ ih =>
      rw [List.map_cons, List.map_cons, ih, StoredMark.toMark_subject told]
      rfl

/-- The marks of a pupil in a period can be told. -/
def Readable (pid : PupilId) (p : Period) (s : Store) : Prop :=
  ∃ stored, findMarks { MarksFilter.byPid pid with periods := [p] } s = .ok stored

theorem readable_iff : Readable pid p s ↔
    ∀ joined ∈ marksWithin pid p s, ∃ mark, joined.1.toMark joined.2.toSubject = .ok mark := by
  unfold Readable
  rw [findMarks_within]
  exact exists_mapM_eq_ok

theorem mem_of_mem_page {α : Type} {limit offset : Option Int} {xs : List α} {x : α} (hx : x ∈ page limit offset xs) :
    x ∈ xs := by
  unfold page at hx
  split at hx
  · exact List.mem_of_mem_drop hx
  · split at hx
    · exact List.mem_of_mem_drop hx
    · exact List.mem_of_mem_drop (List.mem_of_mem_take hx)

/-- Every mark of a sound store can be told, as long as the question can be asked. -/
theorem Sound.findMarks_ok (h : s.Sound) {f : MarksFilter} (shallow : f.isTooDeep = false) :
    ∃ marks, findMarks f s = .ok marks := by
  unfold findMarks
  rw [shallow]
  simp only [Bool.false_eq_true, if_false]
  apply exists_mapM_eq_ok.mpr
  rintro ⟨row, subject⟩ hjoined
  have stored := (mem_joinedMarks.mp (List.mem_filter.mp (mem_of_mem_page hjoined)).1).1
  exact (h.markRows row stored).1.toMark_ok _

/-! ### Adding -/

/-- A store to which rows of marks were added, and nothing else. -/
structure Adds (rows : List StoredMark) (s t : Store) : Prop where
  marks : t.marks = s.marks ++ rows
  students : t.students = s.students
  subjects : t.subjects = s.subjects
  links : t.links = s.links
  lastSubjectId : t.lastSubjectId = s.lastSubjectId
  lastMarkId : t.lastMarkId = s.lastMarkId + rows.length

/-- The row of a pupil's mark in a period, under the oldest subject of the mark's name. -/
structure Records (subjects : List StoredSubject) (pid : PupilId) (p : Period) (mark : Mark)
    (row : StoredMark) : Prop where
  pid : row.pid = pid
  year : row.academicYear = p.academicYear.toInt
  term : p.term.map Term.word = some row.term
  column : p.column = some row.column
  teacher : row.teacher = mark.teacher
  percentage : row.percentage = mark.percentage.value
  subject : ∃ subject ∈ subjects, row.subjectId = subject.id ∧ subject.name = mark.subject.name ∧
    ∀ other ∈ subjects, other.name = mark.subject.name → subject.id ≤ other.id

namespace Adds

theorem none (s : Store) : Adds [] s s :=
  ⟨(List.append_nil _).symm, rfl, rfl, rfl, rfl, (Int.add_zero _).symm⟩

theorem append (h : Adds rows s t) (k : Adds more t u) : Adds (rows ++ more) s u where
  marks := by rw [k.marks, h.marks, List.append_assoc]
  students := k.students.trans h.students
  subjects := k.subjects.trans h.subjects
  links := k.links.trans h.links
  lastSubjectId := k.lastSubjectId.trans h.lastSubjectId
  lastMarkId := by
    rw [k.lastMarkId, h.lastMarkId, List.length_append]
    omega

theorem tick (h : Adds rows s t) (clock : Timestamp) : Adds rows s { t with clock } :=
  ⟨h.marks, h.students, h.subjects, h.links, h.lastSubjectId, h.lastMarkId⟩

theorem findStudent_eq (h : Adds rows s t) : findStudent pid t = findStudent pid s := by
  unfold findStudent findStudents
  have accepts : (StudentFilter.byPid pid).accepts t = (StudentFilter.byPid pid).accepts s := by
    rw [accepts_byPid, accepts_byPid]
  have taken (pid : PupilId) : subjectsOf pid t = subjectsOf pid s := by
    unfold subjectsOf
    rw [h.subjects, h.links]
  rw [accepts, h.students]
  simp only [taken]

theorem storedSubject?_eq (h : Adds rows s t) (id : Int) : t.storedSubject? id = s.storedSubject? id := by
  unfold storedSubject?
  rw [h.subjects]

theorem markedNames_subset (h : Adds rows s t) : markedNames pid p s ⊆ markedNames pid p t := by
  intro name hname
  obtain ⟨row, hrow, subject, hsubject, rest⟩ := mem_markedNames.mp hname
  rw [← h.storedSubject?_eq] at hsubject
  have stays : row ∈ t.marks := by
    rw [h.marks]
    exact List.mem_append_left _ hrow
  exact mem_markedNames.mpr ⟨row, stays, subject, hsubject, rest⟩

theorem readable (h : Adds rows s t) (sound : ∀ row ∈ rows, row.Sound) (told : Readable pid p s) :
    Readable pid p t := by
  rw [readable_iff] at told ⊢
  rintro ⟨row, subject⟩ hjoined
  obtain ⟨hrow, hsubject, own⟩ := mem_marksWithin.mp hjoined
  rw [h.marks] at hrow
  rw [h.storedSubject?_eq] at hsubject
  rcases List.mem_append.mp hrow with hrow | hrow
  · exact told (row, subject) (mem_marksWithin.mpr ⟨hrow, hsubject, own⟩)
  · exact (sound row hrow).toMark_ok _

end Adds

theorem storedSubject?_of_mem (ordered : s.subjects.Pairwise fun a b => a.id < b.id) {subject : StoredSubject}
    (hsubject : subject ∈ s.subjects) : s.storedSubject? subject.id = some subject := by
  unfold storedSubject?
  cases hfind : s.subjects.find? (·.id == subject.id) with
  | none =>
      rw [List.find?_eq_none] at hfind
      exact absurd (beq_self_eq_true _) (hfind subject hsubject)
  | some found =>
      have same : found.id = subject.id := by simpa using List.find?_some hfind
      rw [eq_of_id ordered (List.mem_of_find?_eq_some hfind) hsubject same]

theorem subjectByName_ok (ordered : s.subjects.Pairwise fun a b => a.id < b.id) {subject : Subject}
    (found : subjectByName name s = .ok subject) : ∃ row ∈ s.subjects, subject = row.toSubject ∧ row.name = name ∧
      ∀ other ∈ s.subjects, other.name = name → row.id ≤ other.id := by
  unfold subjectByName at found
  split at found
  · next row hfind =>
    cases found
    obtain ⟨hname, earlier, later, split, before⟩ := List.find?_eq_some_iff_append.mp hfind
    refine ⟨row, List.mem_of_find?_eq_some hfind, rfl, by simpa using hname, ?_⟩
    intro other hother sameName
    rw [split] at hother ordered
    rcases List.mem_append.mp hother with hother | hother
    · have := before other hother
      simp [sameName] at this
    · rcases List.mem_cons.mp hother with rfl | hother
      · exact Int.le_refl _
      · have rest := (List.pairwise_append.mp ordered).2.1
        exact Int.le_of_lt ((List.pairwise_cons.mp rest).1 other hother)
  · cases found

namespace Records

theorem sound (h : Records subjects pid p mark row) : row.Sound where
  percentage := ⟨mark.percentage, h.percentage⟩
  year := ⟨p.academicYear, h.year⟩
  term := by
    obtain ⟨term, -, hword⟩ := Option.map_eq_some_iff.mp h.term
    exact ⟨term, hword.symm⟩

theorem isWithin (h : Records subjects pid p mark row) : row.isWithin p = true := by
  obtain ⟨term, hterm, hword⟩ := Option.map_eq_some_iff.mp h.term
  unfold StoredMark.isWithin
  simp [hterm, h.column, h.year, hword]

/-- A mark that was added is told under its name. -/
theorem mem_markedNames (h : Records t.subjects pid p mark row) (hrow : row ∈ t.marks)
    (ordered : t.subjects.Pairwise fun a b => a.id < b.id) : mark.subject.name ∈ markedNames pid p t := by
  obtain ⟨subject, hsubject, hid, hname, -⟩ := h.subject
  have found := storedSubject?_of_mem ordered hsubject
  rw [← hid] at found
  exact Store.mem_markedNames.mpr ⟨row, hrow, subject, found, h.pid, h.isWithin, hname⟩

end Records

/-- A mark is refused out of hand, or it breaks no rule and its row is inserted and read back. -/
theorem createMark_cases (mark : Mark) : (∃ e, createMark mark = .fail e) ∨
    mark.validate = .ok () ∧ ∃ subjectId term column, mark.subject.id = some subjectId ∧
      mark.period.term = some term ∧ mark.period.column = some column ∧
        createMark mark = (do
          let id ← insertMark mark.pid subjectId mark.teacher mark.percentage mark.period.academicYear term column
          .reading (findMark id)) := by
  unfold createMark
  split
  · exact Or.inl ⟨_, rfl⟩
  · next valid =>
    split
    · exact Or.inl ⟨_, rfl⟩
    · next subjectId hsubject =>
      split
      · next term column hterm hcolumn =>
        exact Or.inr ⟨valid, subjectId, term, column, hsubject, hterm, hcolumn, rfl⟩
      · exact Or.inl ⟨_, rfl⟩

theorem insertMark_ok {subjectId id : Int} {teacher column : String} {percentage : Percentage} {year : Year}
    {term : Term} (inserts : insertMark pid subjectId teacher percentage year term column s = (.ok id, t)) :
    Adds [⟨s.lastMarkId + 1, pid, subjectId, teacher, percentage.value, year.toInt, term.word, column, s.clock⟩]
      s t := by
  unfold insertMark at inserts
  split at inserts
  · cases inserts
    exact ⟨rfl, rfl, rfl, rfl, rfl, rfl⟩
  · cases inserts

theorem createMark_ok (creates : createMark mark s = (.ok given, t)) : ∃ subjectId term column,
    mark.subject.id = some subjectId ∧ mark.period.term = some term ∧ mark.period.column = some column ∧
      Adds [⟨s.lastMarkId + 1, mark.pid, subjectId, mark.teacher, mark.percentage.value,
        mark.period.academicYear.toInt, term.word, column, s.clock⟩] s t := by
  rcases createMark_cases mark with ⟨e, refuses⟩ | ⟨-, subjectId, term, column, hsubject, hterm, hcolumn, does⟩
  · rw [refuses] at creates
    cases creates
  · rw [does] at creates
    obtain ⟨id, _, inserts, reads⟩ := bind_eq_ok.mp creates
    rw [reading_apply, Prod.mk.injEq] at reads
    obtain ⟨-, rfl⟩ := reads
    exact ⟨subjectId, term, column, hsubject, hterm, hcolumn, insertMark_ok inserts⟩

/-- Adds a mark under the oldest subject of its name. -/
def storeMark (mark : Mark) : Action Unit := do
  let subject ← .reading (subjectByName mark.subject.name)
  let _ ← createMark { mark with subject }
  pure ()

theorem storeMark_sound (mark : Mark) : (storeMark mark).Moves (Upholds Sound) :=
  .bind (.reading _) fun _ => .bind (createMark_sound _) fun _ => .pure ()

theorem storeMark_ok (ordered : s.subjects.Pairwise fun a b => a.id < b.id)
    (stores : storeMark mark s = (.ok (), t)) :
    ∃ row, Adds [row] s t ∧ Records s.subjects mark.pid mark.period mark row := by
  unfold storeMark at stores
  obtain ⟨subject, _, reads, stores⟩ := bind_eq_ok.mp stores
  obtain ⟨given, _, creates, ends⟩ := bind_eq_ok.mp stores
  cases ends
  rw [reading_apply, Prod.mk.injEq] at reads
  obtain ⟨found, rfl⟩ := reads
  obtain ⟨named, hnamed, rfl, hname, oldest⟩ := subjectByName_ok ordered found
  obtain ⟨subjectId, term, column, hid, hterm, hcolumn, adds⟩ := createMark_ok creates
  simp only [StoredSubject.toSubject, Option.some.injEq] at hid hterm hcolumn
  refine ⟨_, adds, rfl, rfl, ?_, hcolumn, rfl, rfl, named, hnamed, hid.symm, hname, oldest⟩
  rw [hterm]
  rfl

/-- Marks of one pupil and period are added as one row each, in their order. -/
theorem storeEach_ok {marks : List Mark} (ordered : s.subjects.Pairwise fun a b => a.id < b.id)
    (own : ∀ mark ∈ marks, mark.pid = pid ∧ mark.period = p)
    (stores : forEach storeMark marks s = (.ok (), t)) :
    ∃ rows, Adds rows s t ∧ List.Forall₂ (Records s.subjects pid p) marks rows := by
  induction marks generalizing s with
  | nil =>
      cases stores
      exact ⟨[], .none _, .nil⟩
  | cons mark rest ih =>
      rw [forEach_cons] at stores
      obtain ⟨_, u, first, others⟩ := bind_eq_ok.mp stores
      obtain ⟨row, adds, records⟩ := storeMark_ok ordered first
      obtain ⟨rfl, rfl⟩ := own mark List.mem_cons_self
      rw [← adds.subjects] at ordered
      obtain ⟨rows, addsRest, recordsRest⟩ :=
        ih ordered (fun other hother => own other (List.mem_cons_of_mem _ hother)) others
      rw [adds.subjects] at recordsRest
      exact ⟨row :: rows, adds.append addsRest, .cons records recordsRest⟩

end Store

end Gradebook
