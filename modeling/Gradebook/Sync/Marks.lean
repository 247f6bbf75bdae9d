import Gradebook.Sync.Students

/-! Marks of the store in line with the portal. A full period is a closed column: its marks can be fetched,
and those whose subject the store lacks are appended in one transaction. A partial period is answered
from the store alone, by the full periods inside it. -/

namespace Gradebook.Sync

open Portal

/-- Appends the marks whose subject has none in the period, and tells how many. Each mark goes to the
oldest stored subject of its name. -/
def appendMarks (pid : PupilId) (period : Period) (shown : List Mark) : Store.Action UInt32 := do
  let _ ← .reading (Store.findStudent pid)
  let stored ← .reading (Store.findMarks { MarksFilter.byPid pid with periods := [period] })
  let fresh := Mark.additions stored shown
  .forEach (fun mark : Mark => do
    let subject ← .reading (Store.subjectByName mark.subject.name)
    let _ ← Store.createMark { mark with subject }
    pure ()) fresh
  pure (UInt32.ofNat fresh.length)

/-- The stored marks of a stored pupil in some periods; no periods mean no marks. -/
def storedMarks (pid : PupilId) (periods : List Period) : Session (List Mark) := do
  let _ ← consult (Store.findStudent pid)
  if periods.isEmpty then pure []
  else consult (Store.findMarks { MarksFilter.byPid pid with periods })

/-- An outcome of the calendar in a session. -/
def fromCalendar {α : Type} : Except Calendar.Defect α → Session α
  | .ok x => pure x
  | .error defect => .fail defect.fault

namespace Service

/-- Fetches the marks of a full period and appends the new ones. -/
def gatherPeriod (s : Service) (pid : PupilId) (period : Period) : Session UInt32 := do
  let shown ← fetchMarks s.portal pid period
  within ("store " ++ marksIn pid period) (transact (appendMarks pid period shown))

def findMark (id : Int) : Session Mark := consult (Store.findMark id)

def findMarks (f : MarksFilter) : Session (List Mark) := consult (Store.findMarks f)

def deleteMark (id : Int) : Session Unit := erase (Store.deleteMark id)

def findMarksOfPupil (pid : PupilId) : Session (List Mark) := do
  let _ ← consult (Store.findStudent pid)
  consult (Store.findMarks (.byPid pid))

/-- The marks of a pupil in a period. Only a full period is brought in line with the portal first. -/
def findMarksInPeriod (s : Service) (pid : PupilId) (period : Period) : Session (List Mark) :=
  if period.isFull then do
    if s.settings.markFallback then do
      let _ ← consult (Store.findStudent pid)
      let _ ← s.gatherPeriod pid period
    storedMarks pid [period]
  else do
    let marks ← storedMarks pid (s.settings.calendar.build period.academicYear period.term)
    pure (marks.filter fun mark => period.contains mark.period)

/-- The stored marks of a filter's pupil over a range of periods. -/
def findMarksInRange (s : Service) (first last : Period) (f : MarksFilter) : Session (List Mark) :=
  match f.pid with
  | none => .fail (.invalid "cannot find marks over a period range without a student id")
  | some _ =>
    match f.id with
    | some id => do
      let mark ← findMark id
      pure [mark]
    | none => do
      let periods ← fromCalendar (s.settings.calendar.range first last)
      if periods.isEmpty then pure []
      else findMarks { f with periods }

/-- Brings the periods of a list in line with the portal, `done` periods after the first. -/
def refreshPeriods (s : Service) (pid : PupilId) (cancellation : Cancellation) (done : Nat)
    (summary : Summary) : List Period → Session Summary
  | [] => pure summary
  | period :: rest => do
    checkpoint "refresh marks" cancellation done
    let created ← s.gatherPeriod pid period
    let unchanged := if created = 0 then summary.unchanged + 1 else summary.unchanged
    note (.reported (period.text ++ ": " ++ toString created.toNat ++ " new marks"))
    refreshPeriods s pid cancellation (done + 1)
      { summary with created := summary.created + created, unchanged } rest

/-- Brings the marks of a stored pupil over a range of periods in line with the portal. -/
def refreshMarks (s : Service) (request : RefreshMarks) (cancellation : Cancellation) :
    Session Summary := do
  let _ ← within "refresh marks" (consult (Store.findStudent request.pid))
  let periods ← fromCalendar (s.settings.calendar.range request.first request.last)
  s.refreshPeriods request.pid cancellation 0 {} periods

end Service

end Gradebook.Sync
