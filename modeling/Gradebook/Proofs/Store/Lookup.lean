import Gradebook.Proofs.Store.Selection

/-! What a query for students selects. In a sound store a query for students never fails: it gives all stored students who
meet every part of its filter, each once and by pupil number, or one page of them. Whoever is among them is told just
as a lookup by number tells. -/

namespace Gradebook

/-- A student who meets every part of a filter that is set. -/
structure StudentFilter.Meets (f : StudentFilter) (student : Student) : Prop where
  pid : ∀ pid ∈ f.pid, student.pid = pid
  year : ∀ year ∈ f.year, student.currentYear = some year
  attends : ∀ attends ∈ f.attends, student.attends = attends
  subject : ∀ id ∈ f.subjectId, ∃ subject ∈ student.subjects, subject.id = some id

/-- A subject with a lower id than another. -/
def Subject.Older (a b : Subject) : Prop := ∃ i ∈ a.id, ∃ j ∈ b.id, i < j

namespace Store

variable {s : Store} {codes : List String} {pid : PupilId} {row : StoredStudent} {student : Student} {f : StudentFilter}

/-- All stored students with a property, each once and by pupil number. -/
structure Lists (s : Store) (P : Student → Prop) (students : List Student) : Prop where
  ascend : students.Pairwise fun a b => a.pid.toInt < b.pid.toInt
  mem_iff : ∀ student, student ∈ students ↔ findStudent student.pid s = .ok student ∧ P student

/-- A student is found as the one row tells. -/
theorem Sound.findStudent_eq_ok (h : s.Sound) : findStudent pid s = .ok student ↔
    ∃ row, row ∈ s.students ∧ rowsOf pid s = [row] ∧ row.toStudent (subjectsOf pid s) = .ok student := by
  constructor
  · intro found
    have known : s.hasStudent pid = true := by
      by_contra absent
      rw [Bool.not_eq_true] at absent
      rw [findStudent_of_absent absent] at found
      cases found
    obtain ⟨row, hrow, -, one⟩ := h.exists_rowsOf known
    refine ⟨row, hrow, one, ?_⟩
    unfold findStudent at found
    rw [findStudents_rowsOf, one, List.mapM_cons, List.mapM_nil] at found
    cases told : row.toStudent (subjectsOf pid s) with
    | error e =>
        rw [told] at found
        cases found
    | ok same =>
        rw [told] at found
        cases found
        rfl
  · rintro ⟨row, -, one, told⟩
    have all : findStudents (.byPid pid) s = .ok [student] := by
      rw [findStudents_rowsOf, one]
      exact mapM_eq_ok.mpr (.cons told .nil)
    unfold findStudent
    rw [all]

theorem mem_subjectsOf {subject : Subject} :
    subject ∈ subjectsOf pid s ↔ ∃ row ∈ s.subjects, ⟨pid, row.id⟩ ∈ s.links ∧ row.toSubject = subject := by
  simp only [subjectsOf, List.mem_map, List.mem_filter, List.contains_iff_mem, and_assoc]

/-- A student takes the subject of every id that is linked. -/
theorem Sound.linked_iff (h : s.Sound) {id : Int} :
    ⟨pid, id⟩ ∈ s.links ↔ ∃ subject ∈ subjectsOf pid s, subject.id = some id := by
  constructor
  · intro linked
    obtain ⟨row, hrow, rfl⟩ := hasSubject_iff.mp (h.linkRows _ linked).2
    exact ⟨row.toSubject, mem_subjectsOf.mpr ⟨row, hrow, linked, rfl⟩, rfl⟩
  · rintro ⟨subject, taken, own⟩
    obtain ⟨row, -, linked, rfl⟩ := mem_subjectsOf.mp taken
    cases own
    exact linked

/-- The stored subjects of some codes, each once and oldest first. -/
structure ListsCodes (s : Store) (codes : List String) (subjects : List Subject) : Prop where
  ascend : subjects.Pairwise Subject.Older
  once : (subjects.map (·.code)).Nodup
  mem_iff : ∀ code, code ∈ subjects.map (·.code) ↔ code ∈ codes
  stored : ∀ subject ∈ subjects, ∃ row ∈ s.subjects, row.toSubject = subject

/-- A student takes the stored subjects of the linked codes. -/
theorem Sound.listsCodes_subjectsOf (h : s.Sound) (linked : ∀ code, code ∈ codesOf pid s ↔ code ∈ codes) :
    s.ListsCodes codes (subjectsOf pid s) where
  ascend := List.pairwise_map.mpr ((h.subjects.filter _).imp fun before => ⟨_, rfl, _, rfl, before⟩)
  once := by
    have shown : (subjectsOf pid s).map (·.code) =
        (s.subjects.filter fun row => s.links.contains ⟨pid, row.id⟩).map (·.code) := List.map_map
    rw [shown]
    exact (List.filter_sublist.map _).nodup h.codes
  mem_iff := linked
  stored subject hsubject := by
    obtain ⟨row, hrow, -, shown⟩ := mem_subjectsOf.mp hsubject
    exact ⟨row, hrow, shown⟩

/-- A filter accepts just the rows of the students who meet it. -/
theorem Sound.accepts_student_iff (h : s.Sound) (shows : Shows row (subjectsOf row.pid s) student) :
    f.accepts s row = true ↔ f.Meets student := by
  have year (asked : Int32) : row.currentYear = some asked.toInt ↔ student.currentYear = some asked := by
    rw [shows.currentYear]
    exact ⟨fun same => Option.map_injective (fun _ _ => Int32.toInt_inj.mp) same, congrArg _⟩
  unfold StudentFilter.accepts
  rw [Bool.and_eq_true, Bool.and_eq_true, Bool.and_eq_true]
  constructor
  · rintro ⟨⟨⟨hpid, hyear⟩, hattends⟩, hsubject⟩
    refine ⟨fun pid asked => ?_, fun n asked => ?_, fun attends asked => ?_, fun id asked => ?_⟩
    · rw [Option.mem_def.mp asked] at hpid
      exact shows.pid.trans (eq_of_beq hpid)
    · rw [Option.mem_def.mp asked] at hyear
      exact (year n).mp (eq_of_beq hyear)
    · rw [Option.mem_def.mp asked] at hattends
      exact shows.attends.symm.trans (eq_of_beq hattends)
    · rw [Option.mem_def.mp asked] at hsubject
      rw [shows.subjects]
      exact h.linked_iff.mp (List.contains_iff_mem.mp hsubject)
  · rintro ⟨hpid, hyear, hattends, hsubject⟩
    refine ⟨⟨⟨?_, ?_⟩, ?_⟩, ?_⟩
    · cases asked : f.pid with
      | none => rfl
      | some pid => exact beq_iff_eq.mpr (shows.pid.symm.trans (hpid pid asked))
    · cases asked : f.year with
      | none => rfl
      | some n => exact beq_iff_eq.mpr ((year n).mpr (hyear n asked))
    · cases asked : f.attends with
      | none => rfl
      | some attends => exact beq_iff_eq.mpr (shows.attends.trans (hattends attends asked))
    · cases asked : f.subjectId with
      | none => rfl
      | some id =>
          rw [shows.subjects] at hsubject
          exact List.contains_iff_mem.mpr (h.linked_iff.mpr (hsubject id asked))

/-- The students whom the accepted rows of a sound store are told as are those who meet the filter. -/
theorem Sound.lists_of_tells (h : s.Sound) {found : List Student}
    (tells : List.Forall₂ (fun row student => row.toStudent (subjectsOf row.pid s) = .ok student)
      (s.students.filter (f.accepts s)) found) : s.Lists f.Meets found where
  ascend := by
    apply pairwise_of_forall₂ tells (h.students.filter _)
    intro a x b y _ _ first second before
    rwa [toStudent_pid first, toStudent_pid second]
  mem_iff student := by
    constructor
    · intro hstudent
      obtain ⟨row, accepted, told⟩ := exists_of_forall₂ tells.flip hstudent
      obtain ⟨hrow, accepted⟩ := List.mem_filter.mp accepted
      obtain ⟨same, toldSame, shows⟩ := toStudent_ok (h.studentRows row hrow) (subjectsOf row.pid s)
      rw [told] at toldSame
      cases toldSame
      refine ⟨?_, (h.accepts_student_iff shows).mp accepted⟩
      rw [shows.pid]
      exact h.findStudent_eq_ok.mpr ⟨row, hrow, h.rowsOf_of_mem hrow, told⟩
    · rintro ⟨found, meets⟩
      obtain ⟨row, hrow, one, told⟩ := h.findStudent_eq_ok.mp found
      rw [← pid_of_rowsOf one] at told
      obtain ⟨same, toldSame, shows⟩ := toStudent_ok (h.studentRows row hrow) (subjectsOf row.pid s)
      rw [told] at toldSame
      cases toldSame
      have accepted : row ∈ s.students.filter (f.accepts s) :=
        List.mem_filter.mpr ⟨hrow, (h.accepts_student_iff shows).mpr meets⟩
      obtain ⟨other, hother, toldOther⟩ := exists_of_forall₂ tells accepted
      -- a row is told as one student only
      rw [told] at toldOther
      cases toldOther
      exact hother

/-- **A query lists who meets its filter.** -/
theorem Sound.findStudents_lists (h : s.Sound) (f : StudentFilter) :
    ∃ all shown, findStudents f s = .ok shown ∧ IsPage f.limit f.offset all shown ∧ s.Lists f.Meets all := by
  have told : ∀ row ∈ s.students.filter (f.accepts s), ∃ student,
      row.toStudent (subjectsOf row.pid s) = .ok student := by
    intro row hrow
    obtain ⟨student, told, -⟩ := toStudent_ok (h.studentRows row (List.mem_filter.mp hrow).1) (subjectsOf row.pid s)
    exact ⟨student, told⟩
  obtain ⟨all, tells⟩ := exists_mapM_eq_ok.mpr told
  rw [mapM_eq_ok] at tells
  refine ⟨all, page f.limit f.offset all, ?_, isPage_page _ _ all, h.lists_of_tells tells⟩
  exact mapM_eq_ok.mpr (forall₂_page tells f.limit f.offset)

/-- A student is found by number, and any query lists the student just where the filter is met. -/
structure KnowsStudent (s : Store) (student : Student) : Prop where
  byPid : findStudent student.pid s = .ok student
  byPid? : findStudent? student.pid s = .ok (some student)
  byFilter : ∀ f : StudentFilter, ∃ all shown, findStudents f s = .ok shown ∧ IsPage f.limit f.offset all shown ∧
    s.Lists f.Meets all ∧ (student ∈ all ↔ f.Meets student)

/-- Whoever is found is known. -/
theorem Sound.knowsStudent (h : s.Sound) (found : findStudent pid s = .ok student) : s.KnowsStudent student := by
  have told : findStudent? pid s = .ok (some student) := findStudent?_eq_ok_some.mpr found
  obtain rfl := findStudent?_pid told
  refine ⟨found, told, fun f => ?_⟩
  obtain ⟨all, shown, lists, onPage, everybody⟩ := h.findStudents_lists f
  refine ⟨all, shown, lists, onPage, everybody, ?_⟩
  rw [everybody.mem_iff]
  exact and_iff_right found

end Store

end Gradebook
