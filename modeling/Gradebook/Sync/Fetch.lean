import Gradebook.Marksheet.Entry
import Gradebook.Marksheet.Header
import Gradebook.Sync.Session

/-! Students and marks as the portal knows them. A student takes five calls, each of which builds on the
answers before it; the marks of a full period take one. -/

namespace Gradebook.Sync

open Portal

/-- What a reader finds in a marksheet, as an answer of the portal. -/
def fromMarksheet {α : Type} (r : Except Marksheet.Error α) : Fetch α := fun w =>
  match r with
  | .ok x => (.ok x, w)
  | .error e => (.error (.marksheet e), w)

/-- A pupil as the portal knows it. The pupil attends the school when the portal lists the current
academic year, and only then is the year in the program read. -/
def fetchStudent (portal : Responder) (currentAcademicYear : Year) (pid : PupilId) : Fetch Student := do
  let years ← ask (.academicYears pid) fun earlier => portal.academicYears earlier pid
  let periods ← ask (.reportingPeriods pid years) fun earlier => portal.reportingPeriods earlier pid years
  let subjects ← ask (.reportingSubjects pid years periods) fun earlier =>
    portal.reportingSubjects earlier pid years periods
  let columns ← ask (.columnsForSubjects pid years periods subjects) fun earlier =>
    portal.columnsForSubjects earlier pid years periods subjects
  let query : MarksheetQuery := { years, periods, columns, subjects }
  let sheet ← ask (.marksheet pid query) fun earlier => portal.marksheet earlier pid query
  let (name, _) ← fromMarksheet (Marksheet.name sheet)
  if years.contains currentAcademicYear then do
    let (year, _) ← fromMarksheet (Marksheet.currentYear sheet)
    pure { pid, name, currentYear := some year, attends := true, subjects }
  else pure { pid, name, subjects }

/-- The mark of a pupil that an entry shows for a period. -/
def markOfEntry (pid : PupilId) (period : Period) (e : Marksheet.Entry) : Mark :=
  { pid, subject := { name := e.subject }, teacher := e.teacher, percentage := e.percentage, period }

/-- The marks of a pupil in a period, as words for a message. -/
def marksIn (pid : PupilId) (period : Period) : String :=
  "marks of " ++ pid.text ++ " in " ++ period.text

/-- The marks of a pupil in a full period as the portal knows them. No data means no marks yet. -/
def fetchMarks (portal : Responder) (pid : PupilId) (period : Period) : Session (List Mark) :=
  match period.term, period.column with
  | some term, some column => do
    let query : MarksheetQuery :=
      { years := [period.academicYear], periods := [term.label], columns := [column] }
    match ← (ask (.marksheet pid query) fun earlier => portal.marksheet earlier pid query).outcome with
    | .ok sheet =>
      match Marksheet.entries sheet with
      | .ok entries => pure (entries.map (markOfEntry pid period))
      | .error e => .fail (e.fault.within (marksIn pid period))
    | .error e =>
      if e.isNotFound then pure [] else .fail (e.fault.within (marksIn pid period))
  | _, _ => .fail (.invalid ("engage marks need a full period, got " ++ period.text))

end Gradebook.Sync
