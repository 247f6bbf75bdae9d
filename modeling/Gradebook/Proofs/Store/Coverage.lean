import Gradebook.Proofs.Store.Students

/-! What a stored student covers of what is known now. A write that succeeds leaves a student who covers what was
written, and no write about somebody else changes that. Nothing here asks for a sound store. -/

namespace Gradebook.Store

open Attempt

variable {s t : Store} {pid other : PupilId} {row : StoredStudent} {subject : Subject}
variable {student stored prev next : Student}

/-- A store that tells of a pupil what an earlier one told, or the same with further subjects. -/
structure Untouched (pid : PupilId) (s t : Store) : Prop where
  rows : rowsOf pid t = rowsOf pid s
  codes : codesOf pid s ⊆ codesOf pid t

instance (pid : PupilId) : IsPreorder Store (Untouched pid) where
  refl _ := ⟨rfl, List.Subset.refl _⟩
  trans _ _ _ h k := ⟨k.rows.trans h.rows, List.Subset.trans h.codes k.codes⟩

theorem Keeps.codesOf_subset (h : Keeps pid s t) : codesOf pid s ⊆ codesOf pid t := by
  intro code hcode
  obtain ⟨row, hrow, hlink, hrowCode⟩ := mem_codesOf.mp hcode
  exact mem_codesOf.mpr ⟨row, h.subjects hrow, h.links _ hlink rfl, hrowCode⟩

/-- What belongs to a pupil is left where only what belongs to another is dropped. -/
theorem filter_own {α : Type} (key : α → PupilId) (hne : pid ≠ other) (xs : List α) :
    (xs.filter (key · != other)).filter (key · == pid) = xs.filter (key · == pid) := by
  rw [List.filter_filter]
  apply List.filter_congr
  intro x _
  by_cases own : key x = pid
  · simp [own, hne]
  · simp [own]

theorem Frame.untouched (h : Frame other s t) (hne : pid ≠ other) : Untouched pid s t := by
  refine ⟨?_, (h.keeps_other hne).codesOf_subset⟩
  rw [rowsOf, ← filter_own StoredStudent.pid hne, h.students, filter_own StoredStudent.pid hne, rowsOf]

/-! ### What a store tells of one student -/

theorem toStudent_withSubjects (row : StoredStudent) (a b : List Subject) :
    row.toStudent b = (row.toStudent a).map fun student => { student with subjects := b } := by
  unfold StoredStudent.toStudent
  split
  · rfl
  · split <;> rfl

/-- With the same rows a store tells the same but for the subjects. -/
theorem findStudent?_of_rowsOf (same : rowsOf pid t = rowsOf pid s) :
    findStudent? pid t =
      (findStudent? pid s).map (Option.map fun student => { student with subjects := subjectsOf pid t }) := by
  have told : findStudents (.byPid pid) t = (findStudents (.byPid pid) s).map
      (List.map fun student => { student with subjects := subjectsOf pid t }) := by
    rw [findStudents_rowsOf, findStudents_rowsOf, same]
    exact mapM_map_ok fun row _ => toStudent_withSubjects row _ _
  unfold findStudent? findStudent
  rw [told]
  cases findStudents (.byPid pid) s with
  | error e =>
      simp only [Except.map]
      split <;> rfl
  | ok found => cases found <;> rfl

theorem Frame.findStudent?_eq (h : Frame other s t) (hne : pid ≠ other) (references : s.References)
    (ordered : t.subjects.Pairwise fun a b => a.id < b.id) : findStudent? pid t = findStudent? pid s := by
  have again := findStudent?_of_rowsOf (Eq.refl (rowsOf pid s))
  rw [findStudent?_of_rowsOf (h.untouched hne).rows, h.subjectsOf_eq hne references ordered]
  exact again.symm

theorem findStudent?_subjects (found : findStudent? pid s = .ok (some stored)) :
    stored.subjects = subjectsOf pid s := by
  have again := findStudent?_of_rowsOf (Eq.refl (rowsOf pid s))
  rw [found] at again
  simp only [Except.map, Option.map_some, Except.ok.injEq, Option.some.injEq] at again
  exact congrArg Student.subjects again

/-- Who was found is still found, and covers what was covered. -/
theorem Untouched.covers (h : Untouched pid s t) (found : findStudent? pid s = .ok (some stored))
    (covers : Covers stored next) : ∃ still, findStudent? pid t = .ok (some still) ∧ Covers still next := by
  refine ⟨{ stored with subjects := subjectsOf pid t }, ?_, covers.currentYear, covers.attends, ?_⟩
  · rw [findStudent?_of_rowsOf h.rows, found]
    rfl
  · intro subject hsubject
    have known := covers.codes subject hsubject
    rw [findStudent?_subjects found] at known
    exact h.codes known

/-! ### What a write leaves to be told -/

/-- Whoever was enrolled takes the subject. -/
theorem enroll_codes (enrolls : enroll pid subject s = (.ok (), t)) : subject.code ∈ codesOf pid t := by
  obtain ⟨row, hrow, hcode, found⟩ := subjectByCode_insertSubject subject.code subject.name s
  unfold enroll at enrolls
  obtain ⟨shown, u, upserts, enrolls⟩ := bind_eq_ok.mp enrolls
  unfold upsertSubject at upserts
  split at upserts
  · cases upserts
  · obtain ⟨_, _, inserts, reads⟩ := bind_eq_ok.mp upserts
    cases inserts
    rw [reading_apply, found] at reads
    cases reads
    obtain ⟨new, _, links, ends⟩ := bind_eq_ok.mp enrolls
    cases ends
    rw [mem_codesOf]
    unfold link at links
    split at links
    · next linked =>
      cases links
      exact ⟨row, hrow, List.contains_iff_mem.mp linked, hcode⟩
    · split at links
      · cases links
        exact ⟨row, hrow, List.mem_append_right _ List.mem_cons_self, hcode⟩
      · cases links

theorem enrollEach_codes {subjects : List Subject} (enrolls : forEach (enroll pid) subjects s = (.ok (), t)) :
    ∀ subject ∈ subjects, subject.code ∈ codesOf pid t := by
  induction subjects generalizing s with
  | nil => simp
  | cons first rest ih =>
      rw [forEach_cons] at enrolls
      obtain ⟨_, u, enrollsFirst, enrollsRest⟩ := bind_eq_ok.mp enrolls
      have later : Enrolls pid u t := (enrollEach_enrolls pid rest).leads enrollsRest
      intro subject hsubject
      rcases List.mem_cons.mp hsubject with rfl | hsubject
      · exact (later.keeps pid).codesOf_subset (enroll_codes enrollsFirst)
      · exact ih enrollsRest subject hsubject

theorem rowsOf_placeStudent (row : StoredStudent) {rows : List StoredStudent}
    (none : rows.filter (·.pid == row.pid) = []) :
    (placeStudent row rows).filter (·.pid == row.pid) = [row] := by
  induction rows with
  | nil => simp [placeStudent]
  | cons first rest ih =>
      rw [List.filter_cons] at none
      split at none
      · cases none
      · next other =>
        unfold placeStudent
        split
        · rw [List.filter_cons, if_pos (beq_self_eq_true _), List.filter_cons, if_neg other, none]
        · rw [List.filter_cons, if_neg other, ih none]

/-- Whoever was created is told as given. -/
theorem createStudent_covers (creates : createStudent student s = (.ok stored, t)) :
    student.validate = .ok () ∧ findStudent? student.pid t = .ok (some stored) ∧ Covers stored student := by
  cases valid : student.validate with
  | error defect =>
      rw [createStudent_of_invalid valid] at creates
      cases creates
  | ok _ =>
      unfold createStudent at creates
      rw [checkStudent_of_ok valid, pure_bind] at creates
      obtain ⟨_, u, inserts, creates⟩ := bind_eq_ok.mp creates
      obtain ⟨_, v, enrolls, reads⟩ := bind_eq_ok.mp creates
      rw [reading_apply, Prod.mk.injEq] at reads
      obtain ⟨found, rfl⟩ := reads
      have one : rowsOf student.pid v = [newRow student s.clock] := by
        have frame : Enrolls student.pid u v := (enrollEach_enrolls student.pid student.subjects).leads enrolls
        have new : s.hasStudent student.pid = false := by
          by_contra known
          rw [Bool.not_eq_false] at known
          unfold insertStudent at inserts
          rw [if_pos known] at inserts
          split at inserts <;> cases inserts
        rw [insertStudent_ok valid new] at inserts
        cases inserts
        rw [rowsOf, frame.students]
        exact rowsOf_placeStudent (newRow student s.clock) (rowsOf_of_absent new)
      obtain ⟨told, tells, shows⟩ := findStudent_ok (Student.sound_of_validate valid s.clock) one
      rw [found] at tells
      cases tells
      exact ⟨rfl, findStudent?_eq_ok_some.mpr found, shows.covers_iff.mpr ⟨rfl, rfl, enrollEach_codes enrolls⟩⟩

/-- A row that is overwritten is told, whatever it held. -/
theorem toStudent_bringInLine {subjects : List Subject} (told : row.toStudent subjects = .ok stored)
    (next : Student) (clock : Timestamp) :
    (bringInLine row next clock).toStudent subjects = .ok { stored with
      currentYear := next.currentYear, attends := next.attends, updatedAt := some clock } := by
  unfold bringInLine StoredStudent.toStudent
  have plain : stored = { stored with
      pid := row.pid, name := row.name, subjects, marks := [], createdAt := some row.createdAt } := by
    unfold StoredStudent.toStudent at told
    split at told
    · cases told
      rfl
    · split at told <;> cases told
      rfl
  rw [plain]
  cases next.currentYear with
  | none => rfl
  | some year => simp only [Option.map_some, narrow_toInt]

theorem findStudent?_overwriteStudent (found : findStudent? pid s = .ok (some stored)) (next : Student) :
    findStudent? pid (overwriteStudent pid (next.currentYear.map Int32.toInt) next.attends s).2 =
      .ok (some { stored with
        currentYear := next.currentYear, attends := next.attends, updatedAt := some s.clock }) := by
  obtain ⟨more, all⟩ := findStudent?_eq_some.mp found
  let overwritten (student : Student) : Student :=
    { student with currentYear := next.currentYear, attends := next.attends, updatedAt := some s.clock }
  have told : List.Forall₂ (fun row student => row.toStudent (subjectsOf pid s) = .ok student)
      ((rowsOf pid s).map (bringInLine · next s.clock)) ((stored :: more).map overwritten) := by
    rw [List.forall₂_map_left_iff, List.forall₂_map_right_iff]
    exact all.imp fun row student told => toStudent_bringInLine told next s.clock
  refine findStudent?_eq_some.mpr ⟨more.map overwritten, ?_⟩
  rw [rowsOf_overwriteStudent]
  exact told

theorem valid_of_updateStudent {changed : Bool} (updates : updateStudent prev next s = (.ok changed, t)) :
    next.validate = .ok () := by
  cases valid : next.validate with
  | error defect =>
      rw [updateStudent_of_invalid valid] at updates
      cases updates
  | ok _ => rfl

/-- Whoever was brought in line is told as before but for year and attendance, which are those known now, and for
subjects that have come with the known codes. -/
theorem updateStudent_tells {changed : Bool} (found : findStudent? pid s = .ok (some prev))
    (updates : updateStudent prev next s = (.ok changed, t)) :
    (∃ updatedAt, findStudent? pid t = .ok (some { prev with
      currentYear := next.currentYear, attends := next.attends, subjects := subjectsOf pid t, updatedAt })) ∧
    ∀ subject ∈ next.subjects, subject.code ∈ codesOf pid t := by
  rw [updateStudent_of_valid (valid_of_updateStudent updates)] at updates
  obtain ⟨_, u, enrolls, updates⟩ := bind_eq_ok.mp updates
  rw [findStudent?_pid found] at enrolls updates
  have frame : Enrolls pid s u := (enrollEach_enrolls pid _).leads enrolls
  have untouched : Untouched pid s u :=
    ⟨by rw [rowsOf, frame.students, rowsOf], (frame.keeps pid).codesOf_subset⟩
  -- a code is an old one, or new and then enrolled
  have codes : ∀ subject ∈ next.subjects, subject.code ∈ codesOf pid u := by
    intro subject hsubject
    by_cases old : subject.code ∈ prev.subjects.map (·.code)
    · rw [findStudent?_subjects found] at old
      exact untouched.codes old
    · have added : subject.code ∈
          (newCodes (prev.subjects.map (·.code)) next.subjects).map (·.code) :=
        mem_newCodes.mpr ⟨List.mem_map_of_mem hsubject, old⟩
      obtain ⟨same, hsame, hcode⟩ := List.mem_map.mp added
      rw [← hcode]
      exact enrollEach_codes enrolls same hsame
  have still : findStudent? pid u = .ok (some { prev with subjects := subjectsOf pid u }) := by
    rw [findStudent?_of_rowsOf untouched.rows, found]
    rfl
  split at updates
  · next nothing =>
    cases updates
    have covers := nothing_new_iff.mp nothing
    rw [← covers.currentYear, ← covers.attends]
    exact ⟨⟨prev.updatedAt, still⟩, codes⟩
  · cases updates
    exact ⟨⟨some u.clock, findStudent?_overwriteStudent still next⟩, codes⟩

/-- Whoever was brought in line is told in line. -/
theorem updateStudent_covers {changed : Bool} (found : findStudent? pid s = .ok (some prev))
    (updates : updateStudent prev next s = (.ok changed, t)) :
    next.validate = .ok () ∧ ∃ stored, findStudent? pid t = .ok (some stored) ∧ Covers stored next := by
  obtain ⟨⟨updatedAt, told⟩, codes⟩ := updateStudent_tells found updates
  exact ⟨valid_of_updateStudent updates, _, told, rfl, rfl, codes⟩

/-- Whoever was deleted is nobody. -/
theorem deleteStudent_absent (deletes : deleteStudent pid s = (.ok (), t)) : findStudent? pid t = .ok none := by
  apply findStudent?_of_absent
  unfold deleteStudent at deletes
  split at deletes
  · cases deletes
    simp [hasStudent]
  · cases deletes

end Gradebook.Store
