import Gradebook.Proofs.Store.Sound

/-! Stores that operations build. An operation may be asked anything, and what it did before it failed stays
unless somebody rolls it back; even so it keeps a sound store sound. -/

namespace Gradebook.Store

open Attempt

/-- An operation on the store, with all that it is asked. -/
inductive Operation where
  | createStudent (student : Student)
  | updateStudent (prev next : Student)
  | deleteStudent (pid : PupilId)
  | upsertSubject (subject : Subject)
  | link (pid : PupilId) (subjectId : Int)
  | createMark (mark : Mark)
  | deleteMark (id : Int)

/-- The store that an operation leaves behind, whether or not it succeeds. -/
def Operation.perform (s : Store) : Operation → Store
  | .createStudent student => (Store.createStudent student s).2
  | .updateStudent prev next => (Store.updateStudent prev next s).2
  | .deleteStudent pid => (Store.deleteStudent pid s).2
  | .upsertSubject subject => (Store.upsertSubject subject s).2
  | .link pid subjectId => (Store.link pid subjectId s).2
  | .createMark mark => (Store.createMark mark s).2
  | .deleteMark id => (Store.deleteMark id s).2

/-- The stores that operations build from an empty one while the clock stands wherever it likes. A transaction
that is rolled back builds nothing. -/
inductive Built : Store → Prop where
  | empty (clock : Timestamp) : Built { clock }
  | perform {s : Store} (operation : Operation) (h : Built s) : Built (operation.perform s)
  | tick {s : Store} (clock : Timestamp) (h : Built s) : Built { s with clock }

variable {s : Store} {student prev next : Student} {defect : Student.Defect}

theorem checkStudent_of_ok (h : student.validate = .ok ()) : checkStudent student = pure () := by
  unfold checkStudent
  rw [h]

theorem checkStudent_of_error (h : student.validate = .error defect) :
    checkStudent student = .fail (.validation defect.message) := by
  unfold checkStudent
  rw [h]

theorem createStudent_of_invalid (h : student.validate = .error defect) :
    createStudent student = .fail (.validation defect.message) := by
  unfold createStudent
  rw [checkStudent_of_error h, fail_bind]

theorem updateStudent_of_invalid (h : next.validate = .error defect) :
    updateStudent prev next = .fail (.validation defect.message) := by
  unfold updateStudent
  rw [checkStudent_of_error h, fail_bind]

/-! ### Operations keep a store sound -/

theorem link_sound (pid : PupilId) (subjectId : Int) : (link pid subjectId).Moves (Upholds Sound) := by
  intro s hs
  unfold link
  split
  · exact hs
  · next hnew =>
    split
    · next hknown =>
      rw [Bool.and_eq_true] at hknown
      exact hs.addLink (by simpa using hnew) hknown.1 hknown.2
    · exact hs

theorem upsertSubject_sound (subject : Subject) : (upsertSubject subject).Moves (Upholds Sound) := by
  unfold upsertSubject
  split
  · exact .fail _
  · next hcode =>
    refine .bind ?_ fun _ => .reading _
    intro s hs
    exact hs.insertSubject (by simpa using hcode) subject.name

theorem enroll_sound (pid : PupilId) (subject : Subject) : (enroll pid subject).Moves (Upholds Sound) := by
  unfold enroll
  refine .bind (upsertSubject_sound subject) fun stored => ?_
  cases stored.id with
  | none => exact .pure ()
  | some id => exact .bind (link_sound pid id) fun _ => .pure ()

theorem enrollEach_sound (pid : PupilId) (subjects : List Subject) :
    (forEach (enroll pid) subjects).Moves (Upholds Sound) :=
  .forEach subjects fun subject _ => enroll_sound pid subject

theorem insertStudent_sound (valid : student.validate = .ok ()) :
    (insertStudent student.pid student.name (student.currentYear.map Int32.toInt) student.attends).Moves
      (Upholds Sound) := by
  intro s hs
  unfold insertStudent
  split
  · exact hs
  · split
    · exact hs
    · next hnew =>
      have hrow := Student.sound_of_validate valid s.clock
      exact (hs.addStudent hrow (by simpa using hnew)).tick s.clock.next

theorem overwriteStudent_sound (pid : PupilId) (valid : student.validate = .ok ()) :
    (overwriteStudent pid (student.currentYear.map Int32.toInt) student.attends).Moves (Upholds Sound) := by
  intro s hs
  refine (hs.changeStudents ?_ ?_).tick s.clock.next
  · intro row
    split <;> rfl
  · intro row hrow
    split
    · exact ⟨hrow.pid, hrow.name, (Student.sound_of_validate valid s.clock).year⟩
    · exact hrow

theorem createStudent_sound (student : Student) : (createStudent student).Moves (Upholds Sound) := by
  cases valid : student.validate with
  | error defect =>
      rw [createStudent_of_invalid valid]
      exact .fail _
  | ok _ =>
      unfold createStudent
      rw [checkStudent_of_ok valid, pure_bind]
      refine .bind (insertStudent_sound valid) fun _ => ?_
      refine .bind (enrollEach_sound student.pid student.subjects) fun _ => ?_
      exact .reading _

theorem updateStudent_sound (prev next : Student) : (updateStudent prev next).Moves (Upholds Sound) := by
  cases valid : next.validate with
  | error defect =>
      rw [updateStudent_of_invalid valid]
      exact .fail _
  | ok _ =>
      unfold updateStudent
      rw [checkStudent_of_ok valid, pure_bind]
      refine .bind (enrollEach_sound prev.pid _) fun _ => ?_
      split
      · exact .pure false
      · exact .bind (overwriteStudent_sound prev.pid valid) fun _ => .pure true

theorem deleteStudent_sound (pid : PupilId) : (deleteStudent pid).Moves (Upholds Sound) := by
  intro s hs
  unfold deleteStudent
  split
  · exact hs.removeStudent pid
  · exact hs

theorem createMark_sound (mark : Mark) : (createMark mark).Moves (Upholds Sound) := by
  unfold createMark
  split
  · exact .fail _
  · split
    · exact .fail _
    · next subjectId _ =>
      split
      · next term column _ _ =>
        refine .bind ?_ fun id => .reading _
        intro s hs
        unfold insertMark
        split
        · next known =>
          rw [Bool.and_eq_true] at known
          refine (hs.addMark ?_ rfl known.1 known.2).tick s.clock.next
          exact ⟨⟨mark.percentage, rfl⟩, ⟨mark.period.academicYear, rfl⟩, ⟨term, rfl⟩⟩
        · exact hs
      · exact .fail _

theorem deleteMark_sound (id : Int) : (deleteMark id).Moves (Upholds Sound) := by
  intro s hs
  unfold deleteMark
  split
  · exact hs.filterMarks _
  · exact hs

theorem Operation.sound_perform (operation : Operation) (h : s.Sound) : (operation.perform s).Sound := by
  cases operation with
  | createStudent student => exact createStudent_sound student s h
  | updateStudent prev next => exact updateStudent_sound prev next s h
  | deleteStudent pid => exact deleteStudent_sound pid s h
  | upsertSubject subject => exact upsertSubject_sound subject s h
  | link pid subjectId => exact link_sound pid subjectId s h
  | createMark mark => exact createMark_sound mark s h
  | deleteMark id => exact deleteMark_sound id s h

theorem Built.sound (h : Built s) : s.Sound := by
  induction h with
  | empty clock => exact .empty clock
  | perform operation _ ih => exact operation.sound_perform ih
  | tick clock _ ih => exact ih.tick clock

theorem Built.after (h : Built s) (operations : List Operation) : Built (operations.foldl Operation.perform s) := by
  induction operations generalizing s with
  | nil => exact h
  | cons operation rest ih => exact ih (h.perform operation)

end Gradebook.Store
