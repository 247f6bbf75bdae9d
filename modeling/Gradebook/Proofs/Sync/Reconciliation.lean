import Gradebook.Proofs.Store.Names
import Gradebook.Proofs.Sync.Students

/-! The table of reconciliations. What the portal knows about a pupil and what is stored of the pupil decide what
becomes of the pupil's row, links and marks; nothing else of the store moves, and where a pupil cannot be
reconciled nothing moves at all. -/

namespace Gradebook.Sync

open Portal Attempt
open Store (Frame Sound Built Storable Agrees Learns newRow bringInLine rowsOf codesOf)

/-- The store without a student's row, links and marks. -/
def without (pid : PupilId) (s : Store) : Store :=
  { s with
    students := s.students.filter (·.pid != pid)
    links := s.links.filter (·.pid != pid)
    marks := s.marks.filter (·.pid != pid) }

/-- The student has left and the request purges. -/
def Leaves (purge : Bool) (student : Student) : Prop := purge = true ∧ student.attends = false

/-- The rows of the table: what is known, the action, and the store before and after. -/
inductive Follows (purge : Bool) (pid : PupilId) (s : Store) : Option Student → Reconciliation → Store → Prop where
  | absent (new : s.hasStudent pid = false) : Follows purge pid s none .absent s
  | kept (stored : s.hasStudent pid = true) : Follows purge pid s none .kept s
  | skipped {student : Student} (leaves : Leaves purge student) (new : s.hasStudent pid = false) :
      Follows purge pid s (some student) .skipped s
  | deleted {student : Student} (leaves : Leaves purge student) (stored : s.hasStudent pid = true) :
      Follows purge pid s (some student) .deleted (without pid s)
  | created {student : Student} {t : Store} (stays : ¬Leaves purge student) (new : s.hasStudent pid = false)
      (row : rowsOf pid t = [newRow student s.clock])
      (codes : ∀ code, code ∈ codesOf pid t ↔ code ∈ student.subjects.map (·.code))
      (marks : t.marks = s.marks) : Follows purge pid s (some student) .created t
  | updated {student : Student} {row : StoredStudent} {t : Store} (stays : ¬Leaves purge student)
      (stored : rowsOf pid s = [row]) (differs : ¬Agrees row (codesOf pid s) student)
      (inLine : rowsOf pid t = [bringInLine row student s.clock])
      (codes : ∀ code, code ∈ codesOf pid t ↔
        code ∈ codesOf pid s ∨ code ∈ student.subjects.map (·.code))
      (marks : t.marks = s.marks) : Follows purge pid s (some student) .updated t
  | unchanged {student : Student} {row : StoredStudent} (stays : ¬Leaves purge student)
      (stored : rowsOf pid s = [row]) (agrees : Agrees row (codesOf pid s) student) :
      Follows purge pid s (some student) .unchanged s

variable {purge : Bool} {pid : PupilId} {known : Option Student} {s t : Store} {action : Reconciliation}

theorem leaves_iff {student : Student} : (purge && !student.attends) = true ↔ Leaves purge student := by
  rw [Bool.and_eq_true, Bool.not_eq_true', Leaves]

theorem deleteStudent_ok (stored : s.hasStudent pid = true) :
    Store.deleteStudent pid s = (.ok (), without pid s) := by
  unfold Store.deleteStudent
  rw [if_pos stored]
  rfl

/-- Where nobody has to be written who cannot be, the action succeeds and follows the table. -/
theorem reconcileWith_ok (sound : s.Sound) (own : ∀ student ∈ known, student.pid = pid)
    (storable : ∀ student ∈ known, ¬Leaves purge student → Storable student) :
    ∃ action t, reconcileWith pid purge known s = (.ok action, t) ∧ Follows purge pid s known action t := by
  unfold reconcileWith
  by_cases stored : s.hasStudent pid = true
  · obtain ⟨row, hrow, -, one⟩ := sound.exists_rowsOf stored
    obtain ⟨prev, found, shows⟩ := Store.findStudent?_ok (sound.studentRows row hrow) one
    rw [bind_of_ok (by rw [reading_apply, found])]
    cases known with
    | none => exact ⟨.kept, s, rfl, .kept stored⟩
    | some student =>
        by_cases leaves : Leaves purge student
        · simp only [if_pos (leaves_iff.mpr leaves)]
          exact ⟨.deleted, _, bind_of_ok (deleteStudent_ok stored), .deleted leaves stored⟩
        · simp only [if_neg (mt leaves_iff.mp leaves)]
          have writable := storable student rfl leaves
          by_cases agrees : Agrees row (codesOf pid s) student
          · have nothing : Store.updateStudent prev student s = (.ok false, s) :=
              Store.updateStudent_of_covers writable.1 (shows.covers_iff.mpr agrees)
            exact ⟨.unchanged, s, bind_of_ok nothing, .unchanged leaves one agrees⟩
          · obtain ⟨t, changes, inLine, codes, marks⟩ :=
              Store.updateStudent_changed sound one shows writable agrees
            exact ⟨.updated, t, bind_of_ok changes, .updated leaves one agrees inLine codes marks⟩
  · have new : s.hasStudent pid = false := by simpa using stored
    rw [bind_of_ok (by rw [reading_apply, Store.findStudent?_of_absent new])]
    cases known with
    | none => exact ⟨.absent, s, rfl, .absent new⟩
    | some student =>
        by_cases leaves : Leaves purge student
        · simp only [if_pos (leaves_iff.mpr leaves)]
          exact ⟨.skipped, s, rfl, .skipped leaves new⟩
        · simp only [if_neg (mt leaves_iff.mp leaves)]
          obtain rfl : student.pid = pid := own student rfl
          obtain ⟨given, t, creates, row, codes, marks⟩ :=
            Store.createStudent_ok sound new (storable student rfl leaves)
          exact ⟨.created, t, bind_of_ok creates, .created leaves new row codes marks⟩

/-- Who has to be written and cannot be ends it. -/
theorem reconcileWith_error (sound : s.Sound) {student : Student} (stays : ¬Leaves purge student)
    (refused : ¬Storable student) : ∃ e t, reconcileWith pid purge (some student) s = (.error e, t) := by
  unfold reconcileWith
  by_cases stored : s.hasStudent pid = true
  · obtain ⟨row, hrow, -, one⟩ := sound.exists_rowsOf stored
    obtain ⟨prev, found, shows⟩ := Store.findStudent?_ok (sound.studentRows row hrow) one
    obtain ⟨e, t, fails⟩ := Store.updateStudent_error sound shows refused
    rw [bind_of_ok (by rw [reading_apply, found])]
    simp only [if_neg (mt leaves_iff.mp stays)]
    exact ⟨e, t, bind_of_error fails⟩
  · have new : s.hasStudent pid = false := by simpa using stored
    obtain ⟨e, t, fails⟩ := Store.createStudent_error refused s
    rw [bind_of_ok (by rw [reading_apply, Store.findStudent?_of_absent new])]
    simp only [if_neg (mt leaves_iff.mp stays)]
    exact ⟨e, t, bind_of_error fails⟩

theorem reconcileWith_error_iff (sound : s.Sound) (own : ∀ student ∈ known, student.pid = pid) :
    (∃ e t, reconcileWith pid purge known s = (.error e, t)) ↔
      ∃ student ∈ known, ¬Leaves purge student ∧ ¬Storable student := by
  constructor
  · rintro ⟨e, t, fails⟩
    by_cases storable : ∀ student ∈ known, ¬Leaves purge student → Storable student
    · obtain ⟨action, u, succeeds, -⟩ := reconcileWith_ok sound own storable
      rw [succeeds] at fails
      cases fails
    · simpa using storable
  · rintro ⟨student, hstudent, stays, refused⟩
    obtain rfl : known = some student := hstudent
    exact reconcileWith_error sound stays refused

theorem follows_of_ok (sound : s.Sound) (own : ∀ student ∈ known, student.pid = pid)
    (succeeds : reconcileWith pid purge known s = (.ok action, t)) : Follows purge pid s known action t := by
  have storable : ∀ student ∈ known, ¬Leaves purge student → Storable student := by
    intro student hstudent stays
    by_cases accepted : Storable student
    · exact accepted
    · obtain ⟨e, u, fails⟩ := (reconcileWith_error_iff sound own).mpr ⟨student, hstudent, stays, accepted⟩
      rw [fails] at succeeds
      cases succeeds
  obtain ⟨_, _, same, follows⟩ := reconcileWith_ok sound own storable
  rw [same] at succeeds
  cases succeeds
  exact follows

/-! ### What was done -/

/-- What a reconciliation that succeeds has found and done, whatever the store. -/
inductive Performs (purge : Bool) (pid : PupilId) (s : Store) : Option Student → Reconciliation → Store → Prop where
  | absent (new : Store.findStudent? pid s = .ok none) : Performs purge pid s none .absent s
  | kept {stored : Student} (found : Store.findStudent? pid s = .ok (some stored)) : Performs purge pid s none .kept s
  | skipped {student : Student} (leaves : Leaves purge student) (new : Store.findStudent? pid s = .ok none) :
      Performs purge pid s (some student) .skipped s
  | deleted {student stored : Student} {t : Store} (leaves : Leaves purge student)
      (found : Store.findStudent? pid s = .ok (some stored)) (deletes : Store.deleteStudent pid s = (.ok (), t)) :
      Performs purge pid s (some student) .deleted t
  | created {student stored : Student} {t : Store} (stays : ¬Leaves purge student)
      (new : Store.findStudent? pid s = .ok none) (creates : Store.createStudent student s = (.ok stored, t)) :
      Performs purge pid s (some student) .created t
  | updated {student prev : Student} {t : Store} (stays : ¬Leaves purge student)
      (found : Store.findStudent? pid s = .ok (some prev))
      (updates : Store.updateStudent prev student s = (.ok true, t)) : Performs purge pid s (some student) .updated t
  | unchanged {student prev : Student} {t : Store} (stays : ¬Leaves purge student)
      (found : Store.findStudent? pid s = .ok (some prev))
      (updates : Store.updateStudent prev student s = (.ok false, t)) :
      Performs purge pid s (some student) .unchanged t

theorem performs_of_ok (reconciles : reconcileWith pid purge known s = (.ok action, t)) :
    Performs purge pid s known action t := by
  unfold reconcileWith at reconciles
  obtain ⟨stored, u, reads, reconciles⟩ := bind_eq_ok.mp reconciles
  rw [reading_apply, Prod.mk.injEq] at reads
  obtain ⟨found, rfl⟩ := reads
  cases known with
  | none =>
      cases stored <;> cases reconciles
      · exact .absent found
      · exact .kept found
  | some student =>
      cases stored with
      | none =>
          by_cases leaves : Leaves purge student
          · simp only [if_pos (leaves_iff.mpr leaves)] at reconciles
            cases reconciles
            exact .skipped leaves found
          · simp only [if_neg (mt leaves_iff.mp leaves)] at reconciles
            obtain ⟨_, _, creates, ends⟩ := bind_eq_ok.mp reconciles
            cases ends
            exact .created leaves found creates
      | some prev =>
          by_cases leaves : Leaves purge student
          · simp only [if_pos (leaves_iff.mpr leaves)] at reconciles
            obtain ⟨_, _, deletes, ends⟩ := bind_eq_ok.mp reconciles
            cases ends
            exact .deleted leaves found deletes
          · simp only [if_neg (mt leaves_iff.mp leaves)] at reconciles
            obtain ⟨changed, _, updates, ends⟩ := bind_eq_ok.mp reconciles
            cases changed <;> cases ends
            · exact .unchanged leaves found updates
            · exact .updated leaves found updates

/-- The subjects that come with a pupil who was reconciled: those of whoever was written or found as known. -/
def brought (known : Option Student) : Reconciliation → List Subject
  | .created => known.elim [] (·.subjects)
  | .updated => known.elim [] (·.subjects)
  | .unchanged => known.elim [] (·.subjects)
  | _ => []

/-- The store learns the subjects that come with the pupil. -/
theorem reconcileWith_learns (reconciles : reconcileWith pid purge known s = (.ok action, t)) :
    Learns (brought known action) s t := by
  have updated {prev student : Student} {changed : Bool} (found : Store.findStudent? pid s = .ok (some prev))
      (updates : Store.updateStudent prev student s = (.ok changed, t)) : Learns student.subjects s t := by
    refine Store.updateStudent_learns ?_ updates
    rw [Store.findStudent?_subjects found]
    exact Store.codesOf_subset_storedCodes pid s
  cases performs_of_ok reconciles with
  | absent => exact .none rfl
  | kept => exact .none rfl
  | skipped => exact .none rfl
  | deleted _ _ deletes => exact .none (Store.deleteStudent_subjects deletes)
  | created _ _ creates => exact Store.createStudent_learns creates
  | updated _ found updates => exact updated found updates
  | unchanged _ found updates => exact updated found updates

/-! ### The table -/

/-- **Reconciling follows the table.** In a store that operations built, and whatever the portal answers: when
reconciling a pupil succeeds, the action and the store are those of the table for what the portal said, and what is
not the pupil's stays; when it fails, the store stays as it was. It fails, unless the store can only be read, just
where the portal said nothing or a pupil who does not leave cannot be stored. -/
theorem reconcile_follows_table (service : Service) (purge : Bool) (pid : PupilId) {w : World}
    (built : Built w.store) :
    let upstream := (fetchStudent service.portal service.settings.currentAcademicYear pid w).1
    let after := service.reconcile purge pid w
    (∀ action, after.1 = .ok action → ∃ known, heard upstream = some known ∧
      Follows purge pid w.store known action after.2.store ∧ Frame pid w.store after.2.store) ∧
    (∀ fault, after.1 = .error fault → after.2.store = w.store) ∧
    (w.readOnly = false → ((∃ fault, after.1 = .error fault) ↔ heard upstream = none ∨
      ∃ student, heard upstream = some (some student) ∧ ¬Leaves purge student ∧ ¬Storable student)) := by
  intro upstream after
  obtain ⟨calls, hv, -⟩ :=
    fetchStudent_asks service.portal service.settings.currentAcademicYear pid w
  have sound : (w.having calls).store.Sound := built.sound
  cases hheard : heard upstream with
  | none =>
      obtain ⟨fault, hafter⟩ := reconcile_of_unheard purge hheard
      have fails : after = (.error fault, w.having calls) := by rw [← hv]; exact hafter
      rw [fails]
      exact ⟨nofun, fun _ _ => rfl, fun _ => ⟨fun _ => Or.inl rfl, fun _ => ⟨fault, rfl⟩⟩⟩
  | some known =>
      have own := own_of_heard hheard
      have transacts : after = transact (reconcileWith pid purge known) (w.having calls) := by
        rw [← hv]
        exact reconcile_of_heard purge hheard
      rw [transacts]
      refine ⟨?_, ?_, ?_⟩
      · intro action succeeds
        have follows := follows_of_ok sound own (transact_of_ok succeeds)
        exact ⟨known, rfl, follows, transact_store (reconcileWith_frame own) (w.having calls)⟩
      · intro fault fails
        rw [transact_of_error fails]
        rfl
      · intro writable
        rw [transact_error_iff _ (w := w.having calls) writable]
        refine (reconcileWith_error_iff sound own).trans ?_
        simp

/-- A portal that shows every pupil alike, in one academic year. -/
def samplePortal (year : Year) : Responder where
  academicYears _ _ := .ok [year]
  reportingPeriods _ _ _ := .ok ["Autumn Term"]
  reportingSubjects _ _ _ _ := .ok [{ code := "MA", name := "Maths" }]
  columnsForSubjects _ _ _ _ _ := .ok ["Final"]
  marksheet _ _ _ := .ok "<a>Ada</a>, Year 7"

def sampleService (year : Year) : Service := ⟨samplePortal year, { currentAcademicYear := 2024 }⟩

def sampleStudent : Student :=
  { pid := 7, name := "Ada", currentYear := some 6, attends := true
    subjects := [{ code := "ART", name := "Art" }] }

def sampleStore : Store := Store.Operation.perform {} (.createStudent sampleStudent)

/-- A stored pupil who moved up a year and took a further subject is updated. -/
theorem reconcile_follows_table_moved_up : Built sampleStore ∧ ∃ known,
    heard (fetchStudent (samplePortal 2024) 2024 7 { store := sampleStore }).1 = some known ∧
    Follows true 7 sampleStore known .updated
      ((sampleService 2024).reconcile true 7 { store := sampleStore }).2.store ∧
    Frame 7 sampleStore ((sampleService 2024).reconcile true 7 { store := sampleStore }).2.store := by
  have built : Built sampleStore := .perform (.createStudent sampleStudent) (.empty .epoch)
  have follows := reconcile_follows_table (sampleService 2024) true 7 (w := { store := sampleStore }) built
  exact ⟨built, follows.1 .updated rfl⟩

end Gradebook.Sync
