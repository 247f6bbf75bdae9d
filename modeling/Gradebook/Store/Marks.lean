import Gradebook.Store.Students

/-! Stored marks. They are appended and deleted, never changed. A mark is read together with its subject,
and a row whose numbers fit no mark cannot be read. A filter of more than 994 periods may nest more tests
than one query can carry. -/

namespace Gradebook

/-- How deeply the test of a row against a period nests: two levels for the year, and one more for each
further part. -/
def Period.testDepth (p : Period) : Nat :=
  2 + (if p.term.isSome then 1 else 0) + (if p.column.isSome then 1 else 0)

theorem Period.testDepth_le (p : Period) : p.testDepth ≤ 4 := by
  unfold Period.testDepth
  split <;> split <;> omega

namespace StoredMark

/-- The fault of a row that is no mark. -/
def unreadable (row : StoredMark) (reason : String) : Store.Error :=
  .validation ("mark " ++ toString row.id ++ ": " ++ reason)

/-- A stored mark with its subject as the rest of the library sees it. -/
def toMark (row : StoredMark) (subject : Subject) : Except Store.Error Mark :=
  match Percentage.ofInt? row.percentage with
  | none => .error (row.unreadable (Percentage.outside row.percentage))
  | some percentage =>
    match Term.parse row.term with
    | .error defect => .error (row.unreadable defect.message)
    | .ok term =>
      match Store.narrow row.academicYear with
      | .error flaw => .error (row.unreadable ("academic year: " ++ flaw.message))
      | .ok year =>
        .ok {
          id := some row.id, pid := row.pid, subject, teacher := row.teacher, percentage
          period := Period.full year term row.column, createdAt := some row.createdAt }

/-- Whether the row lies within a period, wherever the period says something. -/
def isWithin (row : StoredMark) (p : Period) : Bool :=
  row.academicYear == p.academicYear.toInt
  && (match p.term with
    | some term => row.term == term.word
    | none => true)
  && (match p.column with
    | some column => row.column == column
    | none => true)

end StoredMark

namespace MarksFilter

def byId (id : Int) : MarksFilter := { id := some id }

def byPid (pid : PupilId) : MarksFilter := { pid := some pid }

/-- Whether a stored mark meets every part of the filter that is set. -/
def accepts (f : MarksFilter) (row : StoredMark) : Bool :=
  (match f.id with
    | some id => row.id == id
    | none => true)
  && (match f.pid with
    | some pid => row.pid == pid
    | none => true)
  && (match f.subjectId with
    | some id => row.subjectId == id
    | none => true)
  && (f.periods.isEmpty || f.periods.any row.isWithin)

/-- How deeply the tests against the periods nest. Each further period is one level around all tests
before it. -/
def testDepth (f : MarksFilter) : Nat :=
  match f.periods with
  | [] => 0
  | p :: ps => ps.foldl (fun depth q => max depth q.testDepth + 1) p.testDepth

/-- Whether the periods nest too deeply for a query, which has three levels of its own around them. -/
def isTooDeep (f : MarksFilter) : Bool := Store.maxDepth < f.testDepth + 3

theorem foldl_testDepth_le (ps : List Period) (depth : Nat) :
    ps.foldl (fun depth q => max depth q.testDepth + 1) depth ≤ max depth 4 + ps.length := by
  induction ps generalizing depth with
  | nil => simp only [List.foldl_nil, List.length_nil]; omega
  | cons p ps ih =>
    have hp := p.testDepth_le
    have hrest := ih (max depth p.testDepth + 1)
    simp only [List.foldl_cons, List.length_cons]
    omega

/-- A query can carry every filter of at most 994 periods. -/
theorem isTooDeep_eq_false (f : MarksFilter) (h : f.periods.length ≤ 994) : f.isTooDeep = false := by
  have hdepth : f.testDepth ≤ 997 := by
    unfold testDepth
    split
    · omega
    · next p ps hps =>
      have hp := p.testDepth_le
      have hrest := foldl_testDepth_le ps p.testDepth
      rw [hps, List.length_cons] at h
      omega
  exact decide_eq_false (by unfold Store.maxDepth; omega)

end MarksFilter

namespace Store

/-- Marks with their subjects, by id. -/
def joinedMarks (s : Store) : List (StoredMark × StoredSubject) :=
  s.marks.filterMap fun row => (s.storedSubject? row.subjectId).map (row, ·)

/-- Stored marks that a filter accepts, by id, one page of them. -/
def findMarks (f : MarksFilter) (s : Store) : Except Error (List Mark) :=
  if f.isTooDeep then .error .queryTooDeep
  else
    (page f.limit f.offset (s.joinedMarks.filter fun (row, _) => f.accepts row)).mapM
      fun (row, subject) => row.toMark subject.toSubject

def noMark (id : Int) : Error := .notFound ("mark " ++ toString id)

def findMark (id : Int) (s : Store) : Except Error Mark :=
  match findMarks (.byId id) s with
  | .ok (mark :: _) => .ok mark
  | .ok [] => .error (noMark id)
  | .error e => .error e

/-- Appends a mark's row with a new id, as long as student and subject exist. -/
def insertMark (pid : PupilId) (subjectId : Int) (teacher : String) (percentage : Percentage)
    (year : Year) (term : Term) (column : String) : Action Int := fun s =>
  if s.hasStudent pid && s.hasSubject subjectId then
    let id := s.lastMarkId + 1
    let row : StoredMark :=
      ⟨id, pid, subjectId, teacher, percentage.value, year.toInt, term.word, column, s.clock⟩
    (.ok id, { s with marks := s.marks ++ [row], lastMarkId := id, clock := s.clock.next })
  else (.error .brokenReference, s)

/-- Stores a new mark of a stored subject, and gives it as stored. -/
def createMark (mark : Mark) : Action Mark :=
  match mark.validate with
  | .error defect => .fail (.validation defect.message)
  | .ok () =>
    match mark.subject.id with
    | none =>
      .fail (.validation ("mark subject " ++ Text.quoted mark.subject.name ++ " is not stored"))
    | some subjectId =>
      match mark.period.term, mark.period.column with
      | some term, some column => do
        let id ← insertMark mark.pid subjectId mark.teacher mark.percentage
          mark.period.academicYear term column
        .reading (findMark id)
      | _, _ => .fail (.validation "mark period is not full")

def deleteMark (id : Int) : Action Unit := fun s =>
  if s.marks.any (·.id == id) then (.ok (), { s with marks := s.marks.filter (·.id != id) })
  else (.error (noMark id), s)

/-- Overwrites the year of a mark's row, whatever it is. -/
def overwriteMarkYear (id year : Int) (s : Store) : Store :=
  { s with marks := s.marks.map fun row => if row.id == id then { row with academicYear := year } else row }

end Store

end Gradebook
