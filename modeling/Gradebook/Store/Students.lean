import Gradebook.Store.Subjects

/-! Stored students. Creating a student stores the row and links the subjects, updating brings year and
attendance in line and adds subjects without removing any, and deleting takes the links and marks
along. -/

namespace Gradebook

namespace StoredStudent

/-- A stored student as the rest of the library sees it, without marks. -/
def toStudent (row : StoredStudent) (subjects : List Subject) : Except Store.Error Student :=
  let student (year : Option Int32) : Student :=
    { pid := row.pid, name := row.name, currentYear := year, attends := row.attends, subjects,
      createdAt := some row.createdAt, updatedAt := some row.updatedAt }
  match row.currentYear with
  | none => .ok (student none)
  | some n =>
    match Store.narrow n with
    | .ok year => .ok (student (some year))
    | .error flaw =>
      .error (.validation ("student " ++ row.pid.text ++ ": current year: " ++ flaw.message))

end StoredStudent

namespace StudentFilter

def byPid (pid : PupilId) : StudentFilter := { pid := some pid }

/-- Whether a stored student meets every part of the filter that is set. -/
def accepts (f : StudentFilter) (s : Store) (row : StoredStudent) : Bool :=
  (match f.pid with
    | some pid => row.pid == pid
    | none => true)
  && (match f.year with
    | some year => row.currentYear == some year.toInt
    | none => true)
  && (match f.attends with
    | some attends => row.attends == attends
    | none => true)
  && (match f.subjectId with
    | some id => s.links.contains ⟨row.pid, id⟩
    | none => true)

end StudentFilter

namespace Store

/-- Stored students that a filter accepts, by pupil number, one page of them. -/
def findStudents (f : StudentFilter) (s : Store) : Except Error (List Student) :=
  (page f.limit f.offset (s.students.filter (f.accepts s))).mapM fun row =>
    row.toStudent (subjectsOf row.pid s)

def noStudent (pid : PupilId) : Error := .notFound ("student " ++ pid.text)

def findStudent (pid : PupilId) (s : Store) : Except Error Student :=
  match findStudents (.byPid pid) s with
  | .ok (student :: _) => .ok student
  | .ok [] => .error (noStudent pid)
  | .error e => .error e

def findStudent? (pid : PupilId) (s : Store) : Except Error (Option Student) :=
  match findStudent pid s with
  | .ok student => .ok (some student)
  | .error e => if e.isNotFound then .ok none else .error e

/-- Puts a row in its place by pupil number. -/
def placeStudent (row : StoredStudent) : List StoredStudent → List StoredStudent
  | [] => [row]
  | other :: rest =>
    if row.pid.toInt < other.pid.toInt then row :: other :: rest
    else other :: placeStudent row rest

/-- Inserts a student's row, as long as its year fits its attendance and its number is new. -/
def insertStudent (pid : PupilId) (name : String) (currentYear : Option Int) (attends : Bool) :
    Action Unit := fun s =>
  if !attends && currentYear.isSome then (.error .yearWithoutAttendance, s)
  else if s.hasStudent pid then (.error .pupilExists, s)
  else
    let row : StoredStudent := ⟨pid, name, currentYear, attends, s.clock, s.clock⟩
    (.ok (), { s with students := placeStudent row s.students, clock := s.clock.next })

def checkStudent (student : Student) : Action Unit :=
  match student.validate with
  | .ok () => pure ()
  | .error defect => .fail (.validation defect.message)

/-- Stores a student with the subjects, and gives it as stored. -/
def createStudent (student : Student) : Action Student := do
  checkStudent student
  insertStudent student.pid student.name (student.currentYear.map Int32.toInt) student.attends
  .forEach (enroll student.pid) student.subjects
  .reading (findStudent student.pid)

/-- The first subject of each code that is not among the known ones. -/
def newCodes (known : List String) : List Subject → List Subject
  | [] => []
  | subject :: rest =>
    if subject.code ∈ known then newCodes known rest
    else subject :: newCodes (subject.code :: known) rest

/-- Overwrites year and attendance of a stored student. -/
def overwriteStudent (pid : PupilId) (currentYear : Option Int) (attends : Bool) : Action Unit := fun s =>
  let change (row : StoredStudent) : StoredStudent :=
    if row.pid == pid then { row with currentYear, attends, updatedAt := s.clock } else row
  (.ok (), { s with students := s.students.map change, clock := s.clock.next })

/-- Brings a student who looked like `prev` in line with `next`, and tells whether anything was written.
Subjects are added and never removed, and the name stays. -/
def updateStudent (prev next : Student) : Action Bool := do
  checkStudent next
  let added := newCodes (prev.subjects.map (·.code)) next.subjects
  .forEach (enroll prev.pid) added
  if prev.currentYear == next.currentYear && prev.attends == next.attends && added.isEmpty then
    pure false
  else do
    overwriteStudent prev.pid (next.currentYear.map Int32.toInt) next.attends
    pure true

/-- Deletes a student with the links and marks. -/
def deleteStudent (pid : PupilId) : Action Unit := fun s =>
  if s.hasStudent pid then
    (.ok (), { s with
      students := s.students.filter (·.pid != pid)
      links := s.links.filter (·.pid != pid)
      marks := s.marks.filter (·.pid != pid) })
  else (.error (noStudent pid), s)

end Store

end Gradebook
