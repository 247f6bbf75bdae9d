import Gradebook.Proofs.Sync.Distinct
import Gradebook.Proofs.Sync.Reconciliation

/-! Finding a pupil twice. A lookup answers from the store, or from what the portal tells, which it may store first.
The first time it reads the pupil back from its own transaction and attaches no marks; the next time it reads the row
and attaches what marks there are. Both ways agree, for a pupil who was missing has no marks. A lookup that fails has
stored nothing. -/

namespace Gradebook.Store

variable {s t : Store} {pid : PupilId} {student stored : Student}

/-- Students are read without their marks. -/
theorem toStudent_marks {row : StoredStudent} {subjects : List Subject} (told : row.toStudent subjects = .ok student) :
    student.marks = [] := by
  unfold StoredStudent.toStudent at told
  split at told
  · cases told
    rfl
  · split at told
    · cases told
      rfl
    · cases told

theorem findStudent?_marks (found : findStudent? pid s = .ok (some student)) : student.marks = [] := by
  obtain ⟨more, all⟩ := findStudent?_eq_some.mp found
  obtain ⟨row, others, told, -, -⟩ := List.forall₂_cons_right_iff.mp all
  exact toStudent_marks told

theorem findMarks_of_none (none : ∀ row ∈ s.marks, row.pid ≠ pid) : findMarks (.byPid pid) s = .ok [] := by
  have shallow : (MarksFilter.byPid pid).isTooDeep = false := MarksFilter.isTooDeep_eq_false _ (Nat.zero_le _)
  have accepted : (s.joinedMarks.filter fun joined => (MarksFilter.byPid pid).accepts joined.1) = [] := by
    rw [List.filter_eq_nil_iff]
    rintro ⟨row, subject⟩ joined accepts
    exact none row (mem_joinedMarks.mp joined).1 (by simpa [MarksFilter.accepts, MarksFilter.byPid] using accepts)
  unfold findMarks
  simp only [shallow, accepted]
  rfl

/-- Whoever is stored for the first time has no marks yet. -/
theorem marks_of_createStudent (h : s.Sound) (absent : s.hasStudent student.pid = false)
    (creates : createStudent student s = (.ok stored, t)) : findMarks (.byPid student.pid) t = .ok [] := by
  have thins := (Sync.createStudent_thins student).leads creates
  apply findMarks_of_none
  rintro row hrow own
  have known := (h.markReferences row (thins.marks.subset hrow)).1
  rw [own, absent] at known
  cases known

end Gradebook.Store

namespace Gradebook.Sync

open Portal Attempt
open Store (Built Sound)

variable {service again : Service} {pid : PupilId} {w : World}

/-- A lookup with nobody in between: what it gives, and the world that it leaves. -/
inductive Finds (service : Service) (pid : PupilId) (w : World) : Except Fault Student × World → Prop where
  | stored {stored : Student} {marks : List Mark} (found : Store.findStudent? pid w.store = .ok (some stored))
      (marked : Store.findMarks (.byPid stored.pid) w.store = .ok marks) :
      Finds service pid w (.ok { stored with marks }, w)
  | told {student : Student} (calls : List Call) (only : service.settings.studentFallback = false) :
      Finds service pid w (.ok student, w.having calls)
  | created {student given : Student} {t : Store} (calls : List Call)
      (fallback : service.settings.studentFallback = true) (own : student.pid = pid)
      (missing : Store.findStudent? pid w.store = .ok none)
      (creates : Store.createStudent student w.store = (.ok given, t)) :
      Finds service pid w (.ok given, { w.having calls with store := t })
  | failed (calls : List Call) (fault : Fault) : Finds service pid w (.error fault, w.having calls)

theorem withMarks_apply (student : Student) (w : World) : Service.withMarks student w =
    match Store.findMarks (.byPid student.pid) w.store with
    | .ok marks => (.ok { student with marks }, w)
    | .error e => (.error (e.fault.within "attach student marks"), w) := by
  unfold Service.withMarks
  rw [bind_apply, within_apply]
  unfold consult
  cases Store.findMarks (.byPid student.pid) w.store <;> rfl

theorem findStudent_of_found {stored : Student} (found : Store.findStudent? pid w.store = .ok (some stored)) :
    service.findStudent pid w = Service.withMarks stored w := bind_of_ok (Plan.consult_of_ok found)

/-- A pupil who is stored is found whatever the portal and the settings, and nothing changes. -/
theorem findStudent_of_marked {stored : Student} {marks : List Mark}
    (found : Store.findStudent? pid w.store = .ok (some stored))
    (marked : Store.findMarks (.byPid stored.pid) w.store = .ok marks) :
    service.findStudent pid w = (.ok { stored with marks }, w) := by
  rw [findStudent_of_found found, withMarks_apply, marked]

/-- A pupil who is missing and cannot be fetched is not found. -/
theorem findStudent_of_unknown (missing : Store.findStudent? pid w.store = .ok none) {e : Portal.Error} {v : World}
    (unknown : fetchStudent service.portal service.settings.currentAcademicYear pid w = (.error e, v)) :
    service.findStudent pid w = (.error (e.fault.within ("find student " ++ pid.text)), v) := by
  have asked : (fetchStudent service.portal service.settings.currentAcademicYear pid).outcome w =
      ((.ok (.error e), v) : Except Fault (Except Portal.Error Student) × World) := by
    rw [outcome_apply, unknown]
  exact (bind_of_ok (Plan.consult_of_ok missing)).trans (bind_of_ok asked)

/-- A pupil who is missing and fetched is stored, if the settings say so. -/
theorem findStudent_of_fetched (missing : Store.findStudent? pid w.store = .ok none) {student : Student} {v : World}
    (fetched : fetchStudent service.portal service.settings.currentAcademicYear pid w = (.ok student, v)) :
    service.findStudent pid w =
      if service.settings.studentFallback then transact (Store.createStudent student) v else (.ok student, v) := by
  have asked : (fetchStudent service.portal service.settings.currentAcademicYear pid).outcome w =
      ((.ok (.ok student), v) : Except Fault (Except Portal.Error Student) × World) := by
    rw [outcome_apply, fetched]
  refine (bind_of_ok (Plan.consult_of_ok missing)).trans ((bind_of_ok asked).trans ?_)
  simp only
  split <;> rfl

theorem findStudent_finds (service : Service) (pid : PupilId) (w : World) :
    Finds service pid w (service.findStudent pid w) := by
  have nothing : w.having [] = w := World.having_nil w
  cases found : Store.findStudent? pid w.store with
  | error e =>
      have fails : service.findStudent pid w = (.error e.fault, w.having []) := by
        rw [nothing]
        exact bind_of_error (Plan.consult_of_error found)
      rw [fails]
      exact .failed [] e.fault
  | ok stored? =>
      cases stored? with
      | some stored =>
          cases marked : Store.findMarks (.byPid stored.pid) w.store with
          | ok marks =>
              rw [findStudent_of_marked found marked]
              exact .stored found marked
          | error e =>
              have fails : service.findStudent pid w =
                  (.error (e.fault.within "attach student marks"), w.having []) := by
                rw [nothing, findStudent_of_found found, withMarks_apply, marked]
              rw [fails]
              exact .failed [] _
      | none =>
          obtain ⟨calls, reached, -⟩ :=
            fetchStudent_asks service.portal service.settings.currentAcademicYear pid w
          rcases fetched : fetchStudent service.portal service.settings.currentAcademicYear pid w with ⟨e | student, v⟩
          · rw [fetched] at reached
            obtain rfl : v = w.having calls := reached
            rw [findStudent_of_unknown found fetched]
            exact .failed calls _
          · rw [fetched] at reached
            obtain rfl : v = w.having calls := reached
            obtain ⟨a, -, describes, -⟩ := fetchStudent_ok fetched
            rw [findStudent_of_fetched found fetched]
            have own := (Answers.student_ok describes).1
            by_cases fallback : service.settings.studentFallback = true
            · simp only [fallback, if_true]
              rcases transact_cases (Store.createStudent student) (w.having calls) with
                ⟨fault, fails⟩ | ⟨given, t, creates, succeeds⟩
              · rw [fails]
                exact .failed calls fault
              · rw [succeeds]
                exact .created calls fallback own found creates
            · rw [Bool.not_eq_true] at fallback
              simp only [fallback, Bool.false_eq_true, if_false]
              exact .told calls fallback

/-- **A lookup says what the next one will say.** In a store that operations built, and whatever the portal answers: where
lookups store what they fetch, a lookup that gives a student leaves a world in which every lookup of that pupil gives
just that student, with ids and marks, asks the portal nothing and changes nothing. A lookup that fails leaves the store
as it was, and where lookups do not store what they fetch every lookup does. -/
theorem lookups_agree (service : Service) (pid : PupilId) {w : World} (built : Built w.store) :
    let after := service.findStudent pid w
    (service.settings.studentFallback = true → ∀ found, after.1 = .ok found →
      ∀ again : Service, again.findStudent pid after.2 = (.ok found, after.2)) ∧
    (∀ fault, after.1 = .error fault → after.2.store = w.store) ∧
    (service.settings.studentFallback = false → after.2.store = w.store) := by
  intro after
  have finds : Finds service pid w after := findStudent_finds service pid w
  generalize after = reached at finds
  cases finds with
  | stored found marked =>
      refine ⟨?_, nofun, fun _ => rfl⟩
      rintro - _ ⟨⟩ again
      exact findStudent_of_marked found marked
  | told calls only => exact ⟨by rw [only]; nofun, nofun, fun _ => rfl⟩
  | failed calls fault => exact ⟨fun _ => nofun, fun _ _ => rfl, fun _ => rfl⟩
  | @created student given t calls fallback own missing creates =>
      refine ⟨?_, nofun, by rw [fallback]; nofun⟩
      rintro - _ ⟨⟩ again
      subst own
      obtain ⟨-, found, -⟩ := Store.createStudent_covers creates
      have absent : w.store.hasStudent student.pid = false := by
        obtain ⟨absent, -⟩ | ⟨-, stored, told⟩ := built.sound.findStudent?_cases student.pid
        · exact absent
        · rw [missing] at told
          cases told
      -- what was created is read without marks, and has none
      have marked : Store.findMarks (.byPid given.pid) t = .ok [] := by
        rw [Store.findStudent?_pid found]
        exact Store.marks_of_createStudent built.sound absent creates
      have same : { given with marks := [] } = given := by
        rw [← Store.findStudent?_marks found]
      have reads : again.findStudent student.pid { w.having calls with store := t } =
          (.ok { given with marks := [] }, { w.having calls with store := t }) := findStudent_of_marked found marked
      rwa [same] at reads

/-- A portal that shows every pupil with a repeated subject and one that another pupil brought under another name. -/
def repeatingPortal : Responder :=
  { samplePortal 2024 with
    reportingSubjects := fun _ _ _ _ => .ok [{ code := "MA", name := "Maths" }, { code := "ART", name := "Fine Art" },
      { code := "MA", name := "Mathematics" }] }

/-- The student who is fetched and stored takes the stored subjects, oldest first, and is found so again. -/
theorem lookups_agree_new_pupil :
    let service : Service := ⟨repeatingPortal, { currentAcademicYear := 2024 }⟩
    let after := service.findStudent 8 { store := sampleStore }
    Built sampleStore ∧ service.settings.studentFallback = true ∧
      ∃ found, after.1 = .ok found ∧ found.subjects = [⟨some 1, "ART", "Art"⟩, ⟨some 2, "MA", "Maths"⟩] ∧
        ∀ again : Service, again.findStudent 8 after.2 = (.ok found, after.2) := by
  intro service after
  have built : Built sampleStore := .perform (.createStudent sampleStudent) (.empty .epoch)
  have told : after.1.toOption.map (·.subjects) = some [⟨some 1, "ART", "Art"⟩, ⟨some 2, "MA", "Maths"⟩] := by
    decide +kernel
  have agrees := lookups_agree service 8 (w := { store := sampleStore }) built
  obtain ⟨found, outcome, subjects⟩ := exists_of_toOption_map told
  exact ⟨built, rfl, found, outcome, subjects, agrees.1 rfl found outcome⟩

end Gradebook.Sync
