import Gradebook.Proofs.Except
import Gradebook.Proofs.Store.Enrollment

/-! Finding and writing students. A student is found as the row and its links tell. In a sound store finding never
fails, a valid new student is stored as given, and a stored one is brought in line with what is known now. -/

namespace Gradebook.Store

open Attempt

/-- The rows of a student, of which a sound store has one at most. -/
def rowsOf (pid : PupilId) (s : Store) : List StoredStudent := s.students.filter (·.pid == pid)

variable {s t : Store} {pid : PupilId} {row : StoredStudent} {student prev next : Student}

/-! ### Finding -/

theorem accepts_byPid (pid : PupilId) (s : Store) :
    (StudentFilter.byPid pid).accepts s = fun row => row.pid == pid := by
  funext row
  simp [StudentFilter.accepts, StudentFilter.byPid]

/-- A store tells of a student by the rows and the subjects. -/
theorem findStudents_rowsOf (pid : PupilId) (s : Store) :
    findStudents (.byPid pid) s = (rowsOf pid s).mapM (·.toStudent (subjectsOf pid s)) := by
  unfold findStudents
  rw [accepts_byPid]
  apply mapM_congr
  intro row hrow
  have own : row.pid = pid := by simpa using (List.mem_filter.mp hrow).2
  rw [own]

/-- Whoever is told to be found is found. -/
theorem findStudent?_eq_ok_some : findStudent? pid s = .ok (some student) ↔ findStudent pid s = .ok student := by
  unfold findStudent?
  cases findStudent pid s with
  | ok found => simp
  | error e => cases missing : e.isNotFound <;> simp [missing]

theorem findStudent?_eq_some : findStudent? pid s = .ok (some student) ↔ ∃ more,
    List.Forall₂ (fun row student => row.toStudent (subjectsOf pid s) = .ok student) (rowsOf pid s)
      (student :: more) := by
  unfold findStudent? findStudent
  rw [findStudents_rowsOf]
  constructor
  · intro found
    split at found
    · next first told =>
      cases found
      split at told
      · next student more all =>
        cases told
        exact ⟨more, mapM_eq_ok.mp all⟩
      · cases told
      · cases told
    · split at found <;> cases found
  · rintro ⟨more, all⟩
    rw [mapM_eq_ok.mpr all]

theorem hasStudent_iff_rowsOf : s.hasStudent pid = true ↔ rowsOf pid s ≠ [] := by
  rw [hasStudent_iff, ne_eq, rowsOf, List.filter_eq_nil_iff]
  simp

theorem rowsOf_of_absent (absent : s.hasStudent pid = false) : rowsOf pid s = [] := by
  by_contra stored
  rw [hasStudent_iff_rowsOf.mpr stored] at absent
  cases absent

theorem pid_of_rowsOf (one : rowsOf pid s = [row]) : row.pid = pid := by
  have hmem : row ∈ rowsOf pid s := by simp [one]
  simpa using (List.mem_filter.mp hmem).2

/-- A student has one row. -/
theorem Sound.rowsOf_of_mem (h : s.Sound) (hrow : row ∈ s.students) : rowsOf row.pid s = [row] := by
  have sorted : (rowsOf row.pid s).Pairwise fun a b => a.pid.toInt < b.pid.toInt := h.students.filter _
  have own : ∀ r ∈ rowsOf row.pid s, r.pid = row.pid := by
    intro r hr
    simpa using (List.mem_filter.mp hr).2
  have hmem : row ∈ rowsOf row.pid s := List.mem_filter.mpr ⟨hrow, by simp⟩
  match hrows : rowsOf row.pid s with
  | [] => simp [hrows] at hmem
  | [r] => simpa [hrows, eq_comm] using hmem
  | a :: b :: rest =>
      rw [hrows] at sorted own
      have hlt := (List.pairwise_cons.mp sorted).1 b List.mem_cons_self
      rw [own a (by simp), own b (by simp)] at hlt
      exact absurd hlt (Int.lt_irrefl _)

theorem Sound.exists_rowsOf (h : s.Sound) (known : s.hasStudent pid = true) :
    ∃ row, row ∈ s.students ∧ row.pid = pid ∧ rowsOf pid s = [row] := by
  obtain ⟨row, hrow, rfl⟩ := hasStudent_iff.mp known
  exact ⟨row, hrow, rfl, h.rowsOf_of_mem hrow⟩

theorem findStudent_of_absent (absent : s.hasStudent pid = false) : findStudent pid s = .error (noStudent pid) := by
  unfold findStudent
  rw [findStudents_rowsOf, rowsOf_of_absent absent]
  rfl

/-- Who is not stored is not found, which is no error. -/
theorem findStudent?_of_absent (absent : s.hasStudent pid = false) : findStudent? pid s = .ok none := by
  unfold findStudent?
  rw [findStudent_of_absent absent]
  rfl

theorem hasStudent_of_found (found : findStudent? pid s = .ok (some student)) : s.hasStudent pid = true := by
  by_contra absent
  rw [Bool.not_eq_true] at absent
  rw [findStudent?_of_absent absent] at found
  cases found

theorem narrow_toInt (n : Int32) : narrow n.toInt = .ok n := by
  have low := Int32.le_toInt n
  have high := Int32.toInt_lt n
  unfold narrow
  rw [Int32.toInt_minValue, Int32.toInt_maxValue, if_neg (by omega), if_neg (by omega), Int32.ofInt_toInt]

theorem narrow_eq_ok {n : Int} {year : Int32} (fits : narrow n = .ok year) : n = year.toInt := by
  unfold narrow at fits
  rw [Int32.toInt_minValue, Int32.toInt_maxValue] at fits
  split at fits
  · cases fits
  · split at fits
    · cases fits
    · cases fits
      rw [Int32.toInt_ofInt_of_le] <;> omega

/-- A student as a row and the linked subjects tell. -/
structure Shows (row : StoredStudent) (subjects : List Subject) (student : Student) : Prop where
  pid : student.pid = row.pid
  name : student.name = row.name
  currentYear : row.currentYear = student.currentYear.map Int32.toInt
  attends : row.attends = student.attends
  subjects : student.subjects = subjects

theorem toStudent_ok (h : row.Sound) (subjects : List Subject) :
    ∃ student, row.toStudent subjects = .ok student ∧ Shows row subjects student := by
  obtain ⟨year, hyear, -⟩ := h.year
  unfold StoredStudent.toStudent
  cases year with
  | none =>
      rw [hyear]
      exact ⟨_, rfl, rfl, rfl, hyear, rfl, rfl⟩
  | some n =>
      rw [hyear]
      simp only [Option.map_some, narrow_toInt]
      exact ⟨_, rfl, rfl, rfl, hyear, rfl, rfl⟩

theorem findStudent_ok (h : row.Sound) (one : rowsOf pid s = [row]) :
    ∃ student, findStudent pid s = .ok student ∧ Shows row (subjectsOf pid s) student := by
  obtain ⟨student, htold, shows⟩ := toStudent_ok h (subjectsOf pid s)
  refine ⟨student, ?_, shows⟩
  have told : findStudents (.byPid pid) s = .ok [student] := by
    rw [findStudents_rowsOf, one]
    exact mapM_eq_ok.mpr (.cons htold .nil)
  unfold findStudent
  rw [told]

theorem findStudent?_ok (h : row.Sound) (one : rowsOf pid s = [row]) :
    ∃ student, findStudent? pid s = .ok (some student) ∧ Shows row (subjectsOf pid s) student := by
  obtain ⟨student, found, shows⟩ := findStudent_ok h one
  exact ⟨student, findStudent?_eq_ok_some.mpr found, shows⟩

/-- Whoever is stored in a sound store is found. -/
theorem Sound.exists_findStudent (h : s.Sound) (known : s.hasStudent pid = true) :
    ∃ student, findStudent pid s = .ok student := by
  obtain ⟨row, hrow, -, one⟩ := h.exists_rowsOf known
  obtain ⟨student, found, -⟩ := findStudent_ok (h.studentRows row hrow) one
  exact ⟨student, found⟩

/-- In a sound store a pupil is missing or found. -/
theorem Sound.findStudent?_cases (h : s.Sound) (pid : PupilId) :
    (s.hasStudent pid = false ∧ findStudent? pid s = .ok none) ∨
      (s.hasStudent pid = true ∧ ∃ stored, findStudent? pid s = .ok (some stored)) := by
  cases known : s.hasStudent pid with
  | false => exact .inl ⟨rfl, findStudent?_of_absent known⟩
  | true =>
      obtain ⟨stored, found⟩ := h.exists_findStudent known
      exact .inr ⟨rfl, stored, findStudent?_eq_ok_some.mpr found⟩

theorem toStudent_pid {subjects : List Subject} (h : row.toStudent subjects = .ok student) :
    student.pid = row.pid := by
  unfold StoredStudent.toStudent at h
  split at h
  · cases h
    rfl
  · split at h
    · cases h
      rfl
    · cases h

theorem findStudent?_pid (h : findStudent? pid s = .ok (some student)) : student.pid = pid := by
  obtain ⟨more, all⟩ := findStudent?_eq_some.mp h
  obtain ⟨row, others, told, -, rows⟩ := List.forall₂_cons_right_iff.mp all
  have hrow : row ∈ rowsOf pid s := rows ▸ List.mem_cons_self
  rw [toStudent_pid told]
  simpa using (List.mem_filter.mp hrow).2

/-! ### Writing -/

/-- A student who breaks no rule and whose subjects all have codes. -/
def Storable (student : Student) : Prop :=
  student.validate = .ok () ∧ ∀ subject ∈ student.subjects, subject.code ≠ ""

/-- The row of a student who is stored now. -/
def newRow (student : Student) (clock : Timestamp) : StoredStudent :=
  ⟨student.pid, student.name, student.currentYear.map Int32.toInt, student.attends, clock, clock⟩

/-- A row with the year and the attendance of a student, written now. -/
def bringInLine (row : StoredStudent) (student : Student) (clock : Timestamp) : StoredStudent :=
  { row with
    currentYear := student.currentYear.map Int32.toInt, attends := student.attends, updatedAt := clock }

/-- A stored student has nothing to learn from what is known: year, attendance and codes are there. -/
def Agrees (row : StoredStudent) (codes : List String) (student : Student) : Prop :=
  row.currentYear = student.currentYear.map Int32.toInt ∧ row.attends = student.attends ∧
    ∀ subject ∈ student.subjects, subject.code ∈ codes

/-- A stored student has the year, the attendance and the codes of a student who is known. -/
structure Covers (stored known : Student) : Prop where
  currentYear : stored.currentYear = known.currentYear
  attends : stored.attends = known.attends
  codes : ∀ subject ∈ known.subjects, subject.code ∈ stored.subjects.map (·.code)

/-- The year of a valid student fits the attendance. -/
theorem year_fits (valid : student.validate = .ok ()) :
    (!student.attends && (student.currentYear.map Int32.toInt).isSome) = false := by
  obtain ⟨year, hyear, hattends⟩ := (Student.sound_of_validate valid .epoch).year
  simp only at hyear hattends
  rw [hyear, Option.isSome_map, hattends, Bool.not_and_self]

theorem insertStudent_ok (valid : student.validate = .ok ()) (new : s.hasStudent student.pid = false) :
    insertStudent student.pid student.name (student.currentYear.map Int32.toInt) student.attends s =
      (.ok (), { s with
        students := placeStudent (newRow student s.clock) s.students, clock := s.clock.next }) := by
  unfold insertStudent
  rw [year_fits valid, new]
  rfl

/-- Nobody is stored twice. -/
theorem createStudent_of_stored (valid : student.validate = .ok ()) (stored : s.hasStudent student.pid = true) :
    createStudent student s = (.error .pupilExists, s) := by
  have refuses : insertStudent student.pid student.name (student.currentYear.map Int32.toInt) student.attends s =
      (.error .pupilExists, s) := by
    unfold insertStudent
    rw [year_fits valid, stored]
    rfl
  unfold createStudent
  rw [checkStudent_of_ok valid, pure_bind, bind_of_error refuses]

/-- A valid student who is new is refused for a subject without a code. -/
theorem createStudent_refused (h : s.References) (valid : student.validate = .ok ())
    (new : s.hasStudent student.pid = false) (uncoded : ∃ subject ∈ student.subjects, subject.code = "") :
    ∃ message t, createStudent student s = (.error (.validation message), t) := by
  have known : hasStudent { s with
      students := placeStudent (newRow student s.clock) s.students, clock := s.clock.next } student.pid = true :=
    hasStudent_iff.mpr ⟨newRow student s.clock, mem_placeStudent.mpr (Or.inl rfl), rfl⟩
  obtain ⟨message, t, refuses⟩ := enrollEach_refused (h.withStudents _ _) known uncoded
  refine ⟨message, t, ?_⟩
  unfold createStudent
  rw [checkStudent_of_ok valid, pure_bind, bind_of_ok (insertStudent_ok valid new), bind_of_error refuses]

/-- A valid student who is new is stored as given. -/
theorem createStudent_ok (h : s.Sound) (new : s.hasStudent student.pid = false) (storable : Storable student) :
    ∃ stored t, createStudent student s = (.ok stored, t) ∧
      rowsOf student.pid t = [newRow student s.clock] ∧
      (∀ code, code ∈ codesOf student.pid t ↔ code ∈ student.subjects.map (·.code)) ∧ t.marks = s.marks := by
  obtain ⟨valid, coded⟩ := storable
  have inserts := insertStudent_ok valid new
  have insertedSound := (insertStudent_sound valid).leads inserts h
  have placed : newRow student s.clock ∈ placeStudent (newRow student s.clock) s.students :=
    mem_placeStudent.mpr (Or.inl rfl)
  have known : hasStudent { s with
      students := placeStudent (newRow student s.clock) s.students, clock := s.clock.next } student.pid = true :=
    hasStudent_iff.mpr ⟨newRow student s.clock, placed, rfl⟩
  obtain ⟨t, enrolls, hcodes⟩ := enrollEach_ok insertedSound.references known coded
  have frame := (enrollEach_enrolls student.pid student.subjects).leads enrolls
  have one : rowsOf student.pid t = [newRow student s.clock] := by
    rw [rowsOf, frame.students]
    exact insertedSound.rowsOf_of_mem placed
  obtain ⟨stored, found, -⟩ := findStudent_ok (Student.sound_of_validate valid s.clock) one
  refine ⟨stored, t, ?_, one, ?_, frame.marks⟩
  · unfold createStudent
    rw [checkStudent_of_ok valid, pure_bind, bind_of_ok inserts, bind_of_ok enrolls, reading_apply, found]
  · intro code
    rw [hcodes code]
    have unlinked : codesOf student.pid { s with
        students := placeStudent (newRow student s.clock) s.students, clock := s.clock.next } = [] :=
      h.codesOf_of_absent new
    rw [unlinked]
    simp

theorem exists_uncoded (valid : student.validate = .ok ()) (refused : ¬Storable student) :
    ∃ subject ∈ student.subjects, subject.code = "" := by
  by_cases coded : ∀ subject ∈ student.subjects, subject.code ≠ ""
  · exact absurd ⟨valid, coded⟩ refused
  · simpa using coded

theorem createStudent_error (refused : ¬Storable student) (s : Store) :
    ∃ e t, createStudent student s = (.error e, t) := by
  cases valid : student.validate with
  | error defect => exact ⟨_, s, congrFun (createStudent_of_invalid valid) s⟩
  | ok _ =>
      unfold createStudent
      rw [checkStudent_of_ok valid, pure_bind]
      have uncoded := exists_uncoded valid refused
      rcases inserts : insertStudent student.pid student.name (student.currentYear.map Int32.toInt)
        student.attends s with ⟨e | _, u⟩
      · exact ⟨e, u, bind_of_error inserts⟩
      · obtain ⟨e, t, fails⟩ := enrollEach_error uncoded student.pid u
        rw [bind_of_ok inserts]
        exact ⟨e, t, bind_of_error fails⟩

/-- Subjects are added for just the codes that are not known yet. -/
theorem mem_newCodes {code : String} {known : List String} {subjects : List Subject} :
    code ∈ (newCodes known subjects).map (·.code) ↔ code ∈ subjects.map (·.code) ∧ code ∉ known := by
  induction subjects generalizing known with
  | nil => simp [newCodes]
  | cons subject rest ih =>
      unfold newCodes
      by_cases hknown : subject.code ∈ known
      · rw [if_pos hknown, ih, List.map_cons, List.mem_cons]
        constructor
        · exact And.imp_left Or.inr
        · rintro ⟨rfl | hrest, hnew⟩
          · exact absurd hknown hnew
          · exact ⟨hrest, hnew⟩
      · rw [if_neg hknown, List.map_cons, List.mem_cons, ih, List.map_cons, List.mem_cons, List.mem_cons]
        by_cases heq : code = subject.code
        · simp [heq, hknown]
        · simp [heq]

theorem newCodes_subset (known : List String) (subjects : List Subject) :
    newCodes known subjects ⊆ subjects := by
  induction subjects generalizing known with
  | nil => exact List.Subset.refl _
  | cons subject rest ih =>
      unfold newCodes
      split
      · exact List.subset_cons_of_subset subject (ih known)
      · exact List.cons_subset_cons subject (ih _)

theorem newCodes_eq_nil {known : List String} {subjects : List Subject} :
    newCodes known subjects = [] ↔ ∀ subject ∈ subjects, subject.code ∈ known := by
  have none_new : newCodes known subjects = [] ↔
      ∀ code, code ∉ (newCodes known subjects).map (·.code) := by
    rw [← List.eq_nil_iff_forall_not_mem, List.map_eq_nil_iff]
  rw [none_new]
  constructor
  · intro h subject hsubject
    by_cases hknown : subject.code ∈ known
    · exact hknown
    · exact absurd (mem_newCodes.mpr ⟨List.mem_map_of_mem hsubject, hknown⟩) (h subject.code)
  · intro h code hcode
    obtain ⟨hmem, hnew⟩ := mem_newCodes.mp hcode
    obtain ⟨subject, hsubject, rfl⟩ := List.mem_map.mp hmem
    exact hnew (h subject hsubject)

theorem rowsOf_overwriteStudent (pid : PupilId) (year : Option Int) (attends : Bool) (s : Store) :
    rowsOf pid (overwriteStudent pid year attends s).2 =
      (rowsOf pid s).map fun row => { row with currentYear := year, attends := attends, updatedAt := s.clock } := by
  unfold rowsOf overwriteStudent
  have same (r : StoredStudent) : ((if r.pid == pid then
      { r with currentYear := year, attends := attends, updatedAt := s.clock } else r).pid == pid) =
      (r.pid == pid) := by
    split <;> rfl
  simp only [List.filter_map, Function.comp_def, same]
  apply List.map_congr_left
  intro row hrow
  exact if_pos (List.mem_filter.mp hrow).2

theorem Shows.covers_iff (shows : Shows row (subjectsOf pid s) prev) :
    Covers prev next ↔ Agrees row (codesOf pid s) next := by
  have years : prev.currentYear = next.currentYear ↔ row.currentYear = next.currentYear.map Int32.toInt := by
    rw [shows.currentYear]
    exact ⟨congrArg _, fun h => Option.map_injective (fun _ _ => Int32.toInt_inj.mp) h⟩
  unfold Agrees
  rw [← years, shows.attends, codesOf, ← shows.subjects]
  exact ⟨fun h => ⟨h.currentYear, h.attends, h.codes⟩, fun h => ⟨h.1, h.2.1, h.2.2⟩⟩

/-- A stored student covers what is known exactly when an update finds nothing to write. -/
theorem nothing_new_iff : (prev.currentYear == next.currentYear && prev.attends == next.attends &&
    (newCodes (prev.subjects.map (·.code)) next.subjects).isEmpty) = true ↔ Covers prev next := by
  rw [Bool.and_eq_true, Bool.and_eq_true, beq_iff_eq, beq_iff_eq, List.isEmpty_iff, newCodes_eq_nil]
  exact ⟨fun h => ⟨h.1.1, h.1.2, h.2⟩, fun h => ⟨⟨h.currentYear, h.attends⟩, h.codes⟩⟩

theorem updateStudent_of_valid (valid : next.validate = .ok ()) :
    updateStudent prev next = (do
      .forEach (enroll prev.pid) (newCodes (prev.subjects.map (·.code)) next.subjects)
      if prev.currentYear == next.currentYear && prev.attends == next.attends &&
        (newCodes (prev.subjects.map (·.code)) next.subjects).isEmpty then pure false
      else do
        overwriteStudent prev.pid (next.currentYear.map Int32.toInt) next.attends
        pure true) := by
  unfold updateStudent
  rw [checkStudent_of_ok valid, pure_bind]

/-- A stored student who covers what is known is left alone, and not even an id is used up. -/
theorem updateStudent_of_covers (valid : next.validate = .ok ()) (covers : Covers prev next) :
    updateStudent prev next s = (.ok false, s) := by
  have nothing : newCodes (prev.subjects.map (·.code)) next.subjects = [] := newCodes_eq_nil.mpr covers.codes
  have nobody : forEach (enroll prev.pid) [] s = (.ok (), s) := rfl
  rw [updateStudent_of_valid valid, if_pos (nothing_new_iff.mpr covers), nothing, bind_of_ok nobody]
  rfl

/-- A stored student who differs is brought in line, and takes more subjects but none fewer. -/
theorem updateStudent_changed (h : s.Sound) (one : rowsOf pid s = [row])
    (shows : Shows row (subjectsOf pid s) prev) (storable : Storable next)
    (differs : ¬Agrees row (codesOf pid s) next) :
    ∃ t, updateStudent prev next s = (.ok true, t) ∧ rowsOf pid t = [bringInLine row next s.clock] ∧
      (∀ code, code ∈ codesOf pid t ↔ code ∈ codesOf pid s ∨ code ∈ next.subjects.map (·.code)) ∧
      t.marks = s.marks := by
  obtain ⟨valid, coded⟩ := storable
  have own : prev.pid = pid := shows.pid.trans (pid_of_rowsOf one)
  have known : s.hasStudent pid = true := by
    have hmem : row ∈ rowsOf pid s := by simp [one]
    exact hasStudent_iff.mpr ⟨row, (List.mem_filter.mp hmem).1, pid_of_rowsOf one⟩
  obtain ⟨u, enrolls, hcodes⟩ := enrollEach_ok h.references known fun subject hsubject =>
    coded subject (newCodes_subset (prev.subjects.map (·.code)) next.subjects hsubject)
  have frame : Enrolls pid s u := (enrollEach_enrolls pid _).leads enrolls
  refine ⟨(overwriteStudent pid (next.currentYear.map Int32.toInt) next.attends u).2, ?_, ?_, ?_, frame.marks⟩
  · rw [updateStudent_of_valid valid, own, bind_of_ok enrolls,
      if_neg (mt (nothing_new_iff.trans shows.covers_iff).mp differs)]
    rfl
  · have still : rowsOf pid u = [row] := by
      rw [rowsOf, frame.students]
      exact one
    rw [rowsOf_overwriteStudent, still, frame.clock]
    rfl
  · intro code
    have added : code ∈ codesOf pid u ↔ code ∈ codesOf pid s ∨ code ∈ next.subjects.map (·.code) := by
      rw [hcodes code, mem_newCodes, shows.subjects, ← codesOf]
      by_cases hold : code ∈ codesOf pid s
      · simp [hold]
      · simp [hold]
    exact added

theorem updateStudent_error (h : s.Sound) (shows : Shows row (subjectsOf pid s) prev)
    (refused : ¬Storable next) : ∃ e t, updateStudent prev next s = (.error e, t) := by
  cases valid : next.validate with
  | error defect => exact ⟨_, s, congrFun (updateStudent_of_invalid valid) s⟩
  | ok _ =>
      obtain ⟨subject, hsubject, hempty⟩ := exists_uncoded valid refused
      -- no stored code is empty, so the empty code is new
      have hnew : "" ∈ (newCodes (prev.subjects.map (·.code)) next.subjects).map (·.code) := by
        rw [mem_newCodes, shows.subjects, ← codesOf, ← hempty]
        exact ⟨List.mem_map_of_mem hsubject, fun hold => h.ne_of_mem_codesOf hold hempty⟩
      obtain ⟨culprit, hculprit, hcode⟩ := List.mem_map.mp hnew
      obtain ⟨e, t, fails⟩ := enrollEach_error ⟨culprit, hculprit, hcode⟩ prev.pid s
      rw [updateStudent_of_valid valid]
      exact ⟨e, t, bind_of_error fails⟩

end Gradebook.Store
