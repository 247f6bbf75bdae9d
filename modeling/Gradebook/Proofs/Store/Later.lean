import Gradebook.Proofs.Store.History
import Gradebook.Proofs.Store.Lookup
import Gradebook.Proofs.Store.Coverage

/-! What later stores still hold. The rows of subjects stay for good. A student is told the same until an operation is
about that student, and a mark is there until it or its student is deleted, whatever else is done in between and
wherever it fails. -/

namespace Gradebook.Store

open Attempt

/-- The stores that come of a store by operations of some kind, while the clock stands wherever it likes. A transaction
that is rolled back only leads back to a store that was there before. -/
inductive Later (may : Operation → Prop) (s : Store) : Store → Prop where
  | now : Later may s s
  | perform {t : Store} (operation : Operation) (allowed : may operation) (h : Later may s t) :
      Later may s (operation.perform t)
  | tick {t : Store} (clock : Timestamp) (h : Later may s t) : Later may s { t with clock }

/-- The operation may change what is told of a student. Storing a student once more is none of these. -/
def Operation.IsAbout (pid : PupilId) : Operation → Prop
  | .updateStudent prev _ => prev.pid = pid
  | .deleteStudent other => other = pid
  | .link other _ => other = pid
  | _ => False

/-- The operation takes away a mark of a student. -/
def Operation.RemovesMark (id : Int) (pid : PupilId) : Operation → Prop
  | .deleteMark other => other = id
  | .deleteStudent other => other = pid
  | _ => False

variable {may : Operation → Prop} {s t : Store} {pid : PupilId} {student : Student} {row : StoredMark}

namespace Later

/-- What each operation and the clock move along, later stores are related by. -/
theorem moves {R : Store → Store → Prop} [IsPreorder Store R] (h : Later may s t)
    (performs : ∀ operation u, may operation → R u (operation.perform u))
    (ticks : ∀ u clock, R u { u with clock }) : R s t := by
  induction h with
  | now => exact refl_of R s
  | perform operation allowed _ ih => exact trans_of R ih (performs operation _ allowed)
  | tick clock _ ih => exact trans_of R ih (ticks _ clock)

theorem sound (h : Later may s t) (sound : s.Sound) : t.Sound :=
  h.moves (R := Upholds Sound) (fun operation _ _ => operation.sound_perform) (fun _ clock sound => sound.tick clock)
    sound

theorem ages (h : Later may s t) : Ages s t :=
  h.moves (fun operation u _ => operation.ages_perform u) fun _ _ => .of_sublist rfl (List.Sublist.refl _) rfl rfl

end Later

/-! ### Subjects -/

/-- A mark adds its row, if anything. -/
theorem createMark_adds (mark : Mark) (s : Store) : ∃ rows, Adds rows s (createMark mark s).2 := by
  rcases createMark_cases mark with ⟨e, refuses⟩ | ⟨-, subjectId, term, column, -, -, -, does⟩
  · rw [refuses]
    exact ⟨[], .none s⟩
  · rw [does]
    rcases inserts : insertMark mark.pid subjectId mark.teacher mark.percentage mark.period.academicYear term column s
      with ⟨e | id, u⟩
    · rw [bind_of_error inserts]
      unfold insertMark at inserts
      split at inserts
      · cases inserts
      · cases inserts
        exact ⟨[], .none s⟩
    · rw [bind_of_ok inserts]
      exact ⟨_, insertMark_ok inserts⟩

theorem upsertSubject_cases (subject : Subject) (s : Store) :
    (upsertSubject subject s).2 = s ∨ (upsertSubject subject s).2 = s.insertSubject subject.code subject.name := by
  unfold upsertSubject
  split
  · exact .inl rfl
  · exact .inr rfl

theorem deleteMark_cases (id : Int) (s : Store) :
    (deleteMark id s).2 = s ∨ (deleteMark id s).2 = { s with marks := s.marks.filter (·.id != id) } := by
  unfold deleteMark
  split
  · exact .inr rfl
  · exact .inl rfl

theorem Operation.subjects_stay (operation : Operation) (s : Store) :
    s.subjects <+: (operation.perform s).subjects := by
  cases operation with
  | createStudent student => exact (createStudent_frame student s).subjects
  | updateStudent prev next => exact (updateStudent_frame prev next s).subjects
  | deleteStudent pid => exact (deleteStudent_frame pid s).subjects
  | upsertSubject subject =>
      show s.subjects <+: (Store.upsertSubject subject s).2.subjects
      rcases upsertSubject_cases subject s with same | inserts
      · exact congrArg Store.subjects same ▸ List.prefix_rfl
      · rw [inserts]
        exact (insertSubject_enrolls 0 subject.code subject.name s).subjects
  | link pid subjectId => exact (link_enrolls pid subjectId s).subjects
  | createMark mark =>
      obtain ⟨rows, adds⟩ := createMark_adds mark s
      exact adds.subjects ▸ List.prefix_rfl
  | deleteMark id =>
      have same : (Store.deleteMark id s).2.subjects = s.subjects := by
        rcases deleteMark_cases id s with same | drops
        · rw [same]
        · rw [drops]
      exact same ▸ List.prefix_rfl

theorem Later.subject_stays (h : Later may s t) {row : StoredSubject} (hrow : row ∈ s.subjects) : row ∈ t.subjects :=
  h.moves (R := Upholds (row ∈ ·.subjects)) (fun operation u _ hrow => (operation.subjects_stay u).subset hrow)
    (fun _ _ => id) hrow

/-! ### Students -/

/-- Nothing is written of a student who breaks a rule or is stored already. -/
theorem createStudent_idle (refused : (∃ defect, student.validate = .error defect) ∨ s.hasStudent student.pid = true) :
    ∃ e, createStudent student s = (.error e, s) := by
  cases valid : student.validate with
  | error defect => exact ⟨_, congrFun (createStudent_of_invalid valid) s⟩
  | ok _ =>
      rcases refused with ⟨defect, invalid⟩ | stored
      · rw [valid] at invalid
        cases invalid
      · exact ⟨_, createStudent_of_stored valid stored⟩

/-- A store in which a student has the same row and takes the same subjects. -/
def TellsSame (pid : PupilId) (s t : Store) : Prop :=
  rowsOf pid t = rowsOf pid s ∧ subjectsOf pid t = subjectsOf pid s

theorem TellsSame.of_tables (students : t.students = s.students) (subjects : t.subjects = s.subjects)
    (links : t.links = s.links) : TellsSame pid s t := by
  constructor
  · rw [rowsOf, students, rowsOf]
  · rw [subjectsOf, subjects, links, subjectsOf]

theorem TellsSame.findStudent_eq (h : TellsSame pid s t) : findStudent pid t = findStudent pid s := by
  unfold findStudent
  rw [findStudents_rowsOf, findStudents_rowsOf, h.1, h.2]

/-- What is told of a stored student does not change by operations about others. -/
theorem Operation.tells_same (operation : Operation) (others : ¬operation.IsAbout pid) (h : s.Sound)
    (known : s.hasStudent pid = true) : TellsSame pid s (operation.perform s) := by
  have sound := operation.sound_perform h
  have framed {other : PupilId} (hne : pid ≠ other) (frame : Frame other s (operation.perform s)) :
      TellsSame pid s (operation.perform s) :=
    ⟨(frame.untouched hne).rows, frame.subjectsOf_eq hne h.references sound.subjects⟩
  cases operation with
  | createStudent student =>
      by_cases own : pid = student.pid
      · obtain ⟨e, refuses⟩ := createStudent_idle (.inr (own ▸ known))
        show TellsSame pid s (Store.createStudent student s).2
        rw [refuses]
        exact ⟨rfl, rfl⟩
      · exact framed own (createStudent_frame student s)
  | updateStudent prev next => exact framed (Ne.symm others) (updateStudent_frame prev next s)
  | deleteStudent other => exact framed (Ne.symm others) (deleteStudent_frame other s)
  | upsertSubject subject =>
      show TellsSame pid s (Store.upsertSubject subject s).2
      rcases upsertSubject_cases subject s with same | inserts
      · rw [same]
        exact ⟨rfl, rfl⟩
      · rw [inserts]
        refine ⟨?_, h.references.subjectsOf_insertSubject pid _ _⟩
        rw [rowsOf, (insertSubject_enrolls pid _ _ s).students, rowsOf]
  | link other subjectId => exact framed (Ne.symm others) (link_enrolls other subjectId s).frame
  | createMark mark =>
      obtain ⟨rows, adds⟩ := createMark_adds mark s
      exact .of_tables adds.students adds.subjects adds.links
  | deleteMark id =>
      show TellsSame pid s (Store.deleteMark id s).2
      rcases deleteMark_cases id s with same | drops
      · rw [same]
        exact ⟨rfl, rfl⟩
      · rw [drops]
        exact .of_tables rfl rfl rfl

theorem Later.tells_same (h : Later (fun operation => ¬operation.IsAbout pid) s t) (sound : s.Sound)
    (known : s.hasStudent pid = true) : TellsSame pid s t := by
  have stays {u v : Store} (same : TellsSame pid u v) (stored : u.hasStudent pid = true) : v.hasStudent pid = true := by
    rw [hasStudent_iff_rowsOf] at stored ⊢
    rwa [same.1]
  have all : t.Sound ∧ t.hasStudent pid = true ∧ TellsSame pid s t := by
    refine h.moves (R := Upholds fun u => u.Sound ∧ u.hasStudent pid = true ∧ TellsSame pid s u) ?_ ?_
      ⟨sound, known, rfl, rfl⟩
    · rintro operation u others ⟨sound, stored, same⟩
      have next := operation.tells_same others sound stored
      exact ⟨operation.sound_perform sound, stays next stored, next.1.trans same.1, next.2.trans same.2⟩
    · rintro u clock ⟨sound, stored, same⟩
      exact ⟨sound.tick clock, stored, same⟩
  exact all.2.2

/-- Whoever is found is known until an operation is about that student. -/
theorem Later.knowsStudent (h : Later (fun operation => ¬operation.IsAbout pid) s t) (sound : s.Sound)
    (found : findStudent pid s = .ok student) : t.KnowsStudent student := by
  have known : s.hasStudent pid = true := hasStudent_of_found (findStudent?_eq_ok_some.mpr found)
  have still : findStudent pid t = .ok student := by rw [(h.tells_same sound known).findStudent_eq, found]
  exact (h.sound sound).knowsStudent still

/-! ### Marks -/

theorem Operation.mark_stays (operation : Operation) (spared : ¬operation.RemovesMark row.id row.pid)
    (hrow : row ∈ s.marks) : row ∈ (operation.perform s).marks := by
  cases operation with
  | createStudent student => exact (createStudent_keeps student s).marks row hrow rfl
  | updateStudent prev next => exact (updateStudent_keeps prev next s).marks row hrow rfl
  | deleteStudent other => exact ((deleteStudent_frame other s).keeps_other (Ne.symm spared)).marks row hrow rfl
  | upsertSubject subject =>
      show row ∈ (Store.upsertSubject subject s).2.marks
      rcases upsertSubject_cases subject s with same | inserts
      · rwa [same]
      · rwa [inserts, (insertSubject_enrolls row.pid _ _ s).marks]
  | link other subjectId =>
      show row ∈ (Store.link other subjectId s).2.marks
      rwa [(link_enrolls other subjectId s).marks]
  | createMark mark =>
      obtain ⟨rows, adds⟩ := createMark_adds mark s
      show row ∈ (Store.createMark mark s).2.marks
      rw [adds.marks]
      exact List.mem_append_left rows hrow
  | deleteMark id =>
      show row ∈ (Store.deleteMark id s).2.marks
      rcases deleteMark_cases id s with same | drops
      · rwa [same]
      · rw [drops]
        exact List.mem_filter.mpr ⟨hrow, by simpa using Ne.symm spared⟩

theorem Later.mark_stays (h : Later (fun operation => ¬operation.RemovesMark row.id row.pid) s t)
    (hrow : row ∈ s.marks) : row ∈ t.marks :=
  h.moves (R := Upholds (row ∈ ·.marks)) (fun operation _ spared => operation.mark_stays spared) (fun _ _ => id) hrow

/-- A mark that is stored is known until it or its student is deleted. -/
theorem Later.knowsMark (h : Later (fun operation => ¬operation.RemovesMark row.id row.pid) s t) (sound : s.Sound)
    (hrow : row ∈ s.marks) {subject : StoredSubject} (hsubject : subject ∈ s.subjects) (own : subject.id = row.subjectId)
    {mark : Mark} (describes : row.Describes subject mark) : t.KnowsMark mark := by
  have stored : t.HasMark mark := ⟨row, h.mark_stays hrow, subject, h.subject_stays hsubject, own, describes⟩
  exact (h.sound sound).knowsMark stored

end Gradebook.Store
