import Gradebook.Proofs.Store.Names

/-! A student's share of a store. What is stored of one student, without stamps and without the ids and the names of
subjects, is the student's share: how the rows look, the codes of the subjects, and the marks. Work on a student
depends on nothing but the share, as long as references hold: in two stores where the student has the same share it
comes to the same, and leaves the same share. -/

namespace Gradebook

/-- How a stored student looks. -/
structure Face where
  name : String
  currentYear : Option Int
  attends : Bool
  deriving DecidableEq

def StoredStudent.face (row : StoredStudent) : Face := ⟨row.name, row.currentYear, row.attends⟩

/-- Two students who show the same, whatever their marks, stamps and subject ids. -/
structure Student.Like (a b : Student) : Prop where
  pid : a.pid = b.pid
  name : a.name = b.name
  currentYear : a.currentYear = b.currentYear
  attends : a.attends = b.attends
  codes : ∀ code, code ∈ a.subjects.map (·.code) ↔ code ∈ b.subjects.map (·.code)

theorem Student.Like.trans {a b c : Student} (h : a.Like b) (k : b.Like c) : a.Like c :=
  ⟨h.pid.trans k.pid, h.name.trans k.name, h.currentYear.trans k.currentYear, h.attends.trans k.attends,
    fun code => (h.codes code).trans (k.codes code)⟩

namespace Store

open Attempt

/-- Two stores in which a pupil has the same share. -/
structure SameShare (pid : PupilId) (s t : Store) : Prop where
  faces : (rowsOf pid s).map (·.face) = (rowsOf pid t).map (·.face)
  codes : ∀ code, code ∈ codesOf pid s ↔ code ∈ codesOf pid t
  marks : s.marks.filter (·.pid == pid) = t.marks.filter (·.pid == pid)

variable {s t u : Store} {pid other : PupilId} {subject : Subject} {student prev next stored : Student} {α : Type}

namespace SameShare

theorem refl (pid : PupilId) (s : Store) : SameShare pid s s := ⟨rfl, fun _ => Iff.rfl, rfl⟩

theorem symm (h : SameShare pid s t) : SameShare pid t s :=
  ⟨h.faces.symm, fun code => (h.codes code).symm, h.marks.symm⟩

theorem trans (h : SameShare pid s t) (k : SameShare pid t u) : SameShare pid s u :=
  ⟨h.faces.trans k.faces, fun code => (h.codes code).trans (k.codes code), h.marks.trans k.marks⟩

end SameShare

/-- Work about somebody else leaves a pupil's share as it is. -/
theorem Frame.sameShare (h : Frame other s t) (hne : pid ≠ other) (references : s.References)
    (ordered : t.subjects.Pairwise fun a b => a.id < b.id) : SameShare pid s t where
  faces := by rw [(h.untouched hne).rows]
  codes code := by rw [codesOf, codesOf, h.subjectsOf_eq hne references ordered]
  marks := by rw [← filter_own StoredMark.pid hne, ← h.marks, filter_own StoredMark.pid hne]

/-- A pupil with the same share in two stores, both with references that hold. -/
structure Alike (pid : PupilId) (s t : Store) : Prop where
  share : SameShare pid s t
  left : s.References
  right : t.References

/-- A pupil who is stored, with the same share in two stores. -/
structure Stored (pid : PupilId) (s t : Store) : Prop extends Alike pid s t where
  known : s.hasStudent pid = true

theorem hasStudent_iff_faces : s.hasStudent pid = true ↔ (rowsOf pid s).map (·.face) ≠ [] := by
  rw [hasStudent_iff_rowsOf, ne_eq, ne_eq, List.map_eq_nil_iff]

theorem SameShare.hasStudent_eq (h : SameShare pid s t) : s.hasStudent pid = t.hasStudent pid := by
  rw [Bool.eq_iff_iff, hasStudent_iff_faces, hasStudent_iff_faces, h.faces]

/-! ### Finding -/

/-- A student without what may differ between stores in which the share is the same. -/
def bare (student : Student) : Student := { student with subjects := [], createdAt := none, updatedAt := none }

/-- What a face tells of a pupil. -/
def readFace (pid : PupilId) (face : Face) : Except Error Student :=
  StoredStudent.toStudent ⟨pid, face.name, face.currentYear, face.attends, .epoch, .epoch⟩ [] |>.map bare

theorem toStudent_bare (row : StoredStudent) (subjects : List Subject) :
    (row.toStudent subjects).map bare = readFace row.pid row.face := by
  unfold readFace StoredStudent.toStudent StoredStudent.face
  cases row.currentYear with
  | none => rfl
  | some n =>
      simp only
      cases narrow n <;> rfl

theorem findStudents_bare (pid : PupilId) (s : Store) :
    (findStudents (.byPid pid) s).map (List.map bare) = ((rowsOf pid s).map (·.face)).mapM (readFace pid) := by
  rw [findStudents_rowsOf, ← mapM_map_ok fun row _ => rfl, List.mapM_map]
  apply mapM_congr
  intro row hrow
  have own : row.pid = pid := by simpa using (List.mem_filter.mp hrow).2
  rw [toStudent_bare, own]
  rfl

/-- Who is found is told by what is read off the rows. -/
theorem findStudent_bare (pid : PupilId) (s : Store) : (findStudent pid s).map bare =
    ((findStudents (.byPid pid) s).map (List.map bare)).bind fun
      | student :: _ => .ok student
      | [] => .error (noStudent pid) := by
  unfold findStudent
  rcases findStudents (.byPid pid) s with e | _ | ⟨student, more⟩ <;> rfl

theorem SameShare.findStudent_bare (h : SameShare pid s t) :
    (findStudent pid s).map bare = (findStudent pid t).map bare := by
  rw [Store.findStudent_bare, Store.findStudent_bare, findStudents_bare, findStudents_bare, h.faces]

/-- What two stores with the same share tell of a pupil: the same failure, nobody, or students who show the same. -/
inductive FoundAlike : Except Error (Option Student) → Except Error (Option Student) → Prop where
  | error (e : Error) : FoundAlike (.error e) (.error e)
  | missing : FoundAlike (.ok none) (.ok none)
  | found {a b : Student} (like : a.Like b) : FoundAlike (.ok (some a)) (.ok (some b))

theorem SameShare.findStudent? (h : SameShare pid s t) : FoundAlike (findStudent? pid s) (findStudent? pid t) := by
  rcases except_map_eq_map h.findStudent_bare with ⟨e, told, toldToo⟩ | ⟨a, b, told, toldToo, plain⟩
  · unfold Store.findStudent?
    rw [told, toldToo]
    simp only
    split
    · exact .missing
    · exact .error e
  · have found : Store.findStudent? pid s = .ok (some a) := by rw [Store.findStudent?, told]
    have foundToo : Store.findStudent? pid t = .ok (some b) := by rw [Store.findStudent?, toldToo]
    simp only [bare, Student.mk.injEq] at plain
    obtain ⟨hpid, hname, hyear, hattends, -⟩ := plain
    rw [found, foundToo]
    refine .found ⟨hpid, hname, hyear, hattends, ?_⟩
    rw [findStudent?_subjects found, findStudent?_subjects foundToo]
    exact h.codes

theorem readStudent_uniform (pid : PupilId) (x : α) :
    (reading (findStudent pid) >>= fun _ => (pure x : Action α)).Uniform (Stored pid) := by
  intro s t stored
  rw [bind_apply, bind_apply, reading_apply, reading_apply]
  rcases except_map_eq_map stored.share.findStudent_bare with ⟨e, told, toldToo⟩ | ⟨a, b, told, toldToo, -⟩
  · rw [told, toldToo]
    exact ⟨rfl, stored⟩
  · rw [told, toldToo]
    exact ⟨rfl, stored⟩

/-! ### Enrolling -/

theorem enroll_uniform (pid : PupilId) (subject : Subject) : (enroll pid subject).Uniform (Stored pid) := by
  intro s t stored
  by_cases coded : subject.code = ""
  · have refuses (u : Store) : enroll pid subject u =
        (.error (.validation ("subject " ++ Text.quoted subject.name ++ " has no engage code")), u) := by
      unfold enroll upsertSubject
      rw [if_pos (by simpa using coded), fail_bind]
      rfl
    rw [refuses, refuses]
    exact ⟨rfl, stored⟩
  · have knownToo : t.hasStudent pid = true := stored.share.hasStudent_eq ▸ stored.known
    obtain ⟨u, enrolls, codes⟩ := enroll_ok stored.left stored.known coded
    obtain ⟨v, enrollsToo, codesToo⟩ := enroll_ok stored.right knownToo coded
    obtain ⟨left, known⟩ := enroll_stays stored.left stored.known enrolls
    obtain ⟨right, -⟩ := enroll_stays stored.right knownToo enrollsToo
    have frame : Enrolls pid s u := (enroll_enrolls pid subject).leads enrolls
    have frameToo : Enrolls pid t v := (enroll_enrolls pid subject).leads enrollsToo
    rw [enrolls, enrollsToo]
    refine ⟨rfl, ⟨⟨?_, ?_, ?_⟩, left, right⟩, known⟩
    · rw [rowsOf, frame.students, rowsOf, frameToo.students]
      exact stored.share.faces
    · intro code
      rw [codes, codesToo, stored.share.codes]
    · rw [frame.marks, frameToo.marks]
      exact stored.share.marks

theorem enrollEach_uniform (pid : PupilId) (subjects : List Subject) :
    (forEach (enroll pid) subjects).Uniform (Stored pid) :=
  .forEach (enroll_uniform pid) subjects

/-! ### Writing students -/

theorem checkStudent_uniform {R : Store → Store → Prop} (student : Student) : (checkStudent student).Uniform R := by
  unfold checkStudent
  split
  · exact .pure ()
  · exact .fail _

theorem overwriteStudent_uniform (pid : PupilId) (year : Option Int) (attends : Bool) :
    (overwriteStudent pid year attends).Uniform (Stored pid) := by
  intro s t stored
  refine ⟨rfl, ⟨⟨?_, stored.share.codes, stored.share.marks⟩, stored.left.withStudents _ _,
    stored.right.withStudents _ _⟩, ?_⟩
  · rw [rowsOf_overwriteStudent, rowsOf_overwriteStudent, List.map_map, List.map_map]
    have same := congrArg (List.map fun face : Face => Face.mk face.name year attends) stored.share.faces
    rwa [List.map_map, List.map_map] at same
  · have known := hasStudent_iff_faces.mp stored.known
    rw [hasStudent_iff_faces, rowsOf_overwriteStudent]
    simpa using known

/-- Students who look alike are brought in line alike. -/
theorem updateStudent_congr {a b : Student} (like : a.Like b) (next : Student) :
    updateStudent a next = updateStudent b next := by
  unfold updateStudent
  rw [newCodes_congr like.codes, like.pid, like.currentYear, like.attends]

theorem updateStudent_uniform (prev next : Student) : (updateStudent prev next).Uniform (Stored prev.pid) := by
  unfold updateStudent
  refine .bind (checkStudent_uniform next) fun _ => ?_
  refine .bind (enrollEach_uniform prev.pid _) fun _ => ?_
  split
  · exact .pure false
  · exact .bind (overwriteStudent_uniform prev.pid _ _) fun _ => .pure true

theorem filter_ne_filter_eq {β : Type} (key : β → PupilId) (pid : PupilId) (xs : List β) :
    (xs.filter (key · != pid)).filter (key · == pid) = [] := by
  rw [List.filter_eq_nil_iff]
  intro x hx
  simpa using (List.mem_filter.mp hx).2

/-- Whoever was deleted has no share left. -/
theorem deleteStudent_bare (deletes : deleteStudent pid s = (.ok (), t)) :
    rowsOf pid t = [] ∧ codesOf pid t = [] ∧ t.marks.filter (·.pid == pid) = [] := by
  unfold deleteStudent at deletes
  split at deletes
  · cases deletes
    refine ⟨filter_ne_filter_eq StoredStudent.pid pid _, ?_, filter_ne_filter_eq StoredMark.pid pid _⟩
    rw [List.eq_nil_iff_forall_not_mem]
    intro code taken
    obtain ⟨row, -, linked, -⟩ := mem_codesOf.mp taken
    simp at linked
  · cases deletes

theorem deleteStudent_uniform (pid : PupilId) : (deleteStudent pid).Uniform (Alike pid) := by
  intro s t alike
  have same := alike.share.hasStudent_eq
  cases known : s.hasStudent pid with
  | false =>
      have nobody (u : Store) (absent : u.hasStudent pid = false) :
          deleteStudent pid u = (.error (noStudent pid), u) := by
        rw [deleteStudent, absent]
        rfl
      rw [nobody s known, nobody t (same ▸ known)]
      exact ⟨rfl, alike⟩
  | true =>
      have deletes (u : Store) (stored : u.hasStudent pid = true) : ∃ v, deleteStudent pid u = (.ok (), v) := by
        rw [deleteStudent, stored]
        exact ⟨_, rfl⟩
      obtain ⟨u, gone⟩ := deletes s known
      obtain ⟨v, goneToo⟩ := deletes t (same ▸ known)
      have left : u.References := (deleteStudent_references pid).leads gone alike.left
      have right : v.References := (deleteStudent_references pid).leads goneToo alike.right
      obtain ⟨rows, codes, marks⟩ := deleteStudent_bare gone
      obtain ⟨rowsToo, codesToo, marksToo⟩ := deleteStudent_bare goneToo
      rw [gone, goneToo]
      refine ⟨rfl, ⟨?_, ?_, ?_⟩, left, right⟩
      · rw [rows, rowsToo]
      · intro code
        rw [codes, codesToo]
      · rw [marks, marksToo]

/-- What a student who is new comes to when stored does not depend on what is stored of others. -/
theorem createStudent_uniform (student : Student) (x : α) :
    (createStudent student >>= fun _ => (pure x : Action α)).Uniform (Alike student.pid) := by
  cases valid : student.validate with
  | error defect =>
      rw [createStudent_of_invalid valid, fail_bind]
      exact .fail _
  | ok _ =>
      intro s t alike
      have same := alike.share.hasStudent_eq
      cases known : s.hasStudent student.pid with
      | true =>
          rw [bind_of_error (createStudent_of_stored valid known),
            bind_of_error (createStudent_of_stored valid (same ▸ known))]
          exact ⟨rfl, alike⟩
      | false =>
          have does (u : Store) (new : u.hasStudent student.pid = false) :
              (createStudent student >>= fun _ => (pure x : Action α)) u =
                (forEach (enroll student.pid) student.subjects >>= fun _ =>
                  reading (findStudent student.pid) >>= fun _ => pure x) { u with
                    students := placeStudent (newRow student u.clock) u.students, clock := u.clock.next } := by
            unfold createStudent
            rw [checkStudent_of_ok valid, pure_bind, bind_assoc, bind_of_ok (insertStudent_ok valid new), bind_assoc]
          have new : t.hasStudent student.pid = false := same ▸ known
          have uniform : (forEach (enroll student.pid) student.subjects >>= fun _ =>
              reading (findStudent student.pid) >>= fun _ => (pure x : Action α)).Uniform (Stored student.pid) :=
            .bind (enrollEach_uniform student.pid _) fun _ => readStudent_uniform student.pid x
          rw [does s known, does t new]
          refine (uniform _ _ ?_).imp_right Stored.toAlike
          have one (u : Store) (new : u.hasStudent student.pid = false) :
              (placeStudent (newRow student u.clock) u.students).filter (·.pid == student.pid) =
                [newRow student u.clock] :=
            rowsOf_placeStudent (newRow student u.clock) (rowsOf_of_absent new)
          refine ⟨⟨⟨?_, alike.share.codes, alike.share.marks⟩, alike.left.withStudents _ _,
            alike.right.withStudents _ _⟩, ?_⟩
          · rw [rowsOf, rowsOf, one s known, one t new]
            rfl
          · exact hasStudent_iff.mpr ⟨newRow student s.clock, mem_placeStudent.mpr (Or.inl rfl), rfl⟩

end Store

end Gradebook
