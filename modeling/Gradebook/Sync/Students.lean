import Gradebook.Refresh
import Gradebook.Sync.Fetch

/-! Students of the store in line with the portal. One pupil is reconciled by one fetch and one
transaction: what the portal does not know is left alone, who left the school is dropped only when the
request says so, and everybody else is created or updated. A refresh reconciles one pupil after the
other with a checkpoint before each. -/

namespace Gradebook.Sync

open Portal

/-- What reconciling a pupil did to the store. -/
inductive Reconciliation where
  | absent
  | kept
  | created
  | updated
  | unchanged
  | skipped
  | deleted
  deriving DecidableEq, Repr

namespace Reconciliation

def word : Reconciliation → String
  | .absent => "absent"
  | .kept => "kept"
  | .created => "created"
  | .updated => "updated"
  | .unchanged => "unchanged"
  | .skipped => "skipped"
  | .deleted => "deleted"

def count (s : Summary) : Reconciliation → Summary
  | .created => { s with created := s.created + 1 }
  | .updated => { s with updated := s.updated + 1 }
  | .deleted => { s with deleted := s.deleted + 1 }
  | .skipped => { s with skipped := s.skipped + 1 }
  | .absent => { s with unchanged := s.unchanged + 1 }
  | .kept => { s with unchanged := s.unchanged + 1 }
  | .unchanged => { s with unchanged := s.unchanged + 1 }

end Reconciliation

/-- Brings the stored pupil in line with what the portal knows, if it knows anything. -/
def reconcileWith (pid : PupilId) (purge : Bool) (known : Option Student) :
    Store.Action Reconciliation := do
  let stored ← .reading (Store.findStudent? pid)
  match known, stored with
  | none, none => pure .absent
  | none, some _ => pure .kept
  | some student, none =>
    if purge && !student.attends then pure .skipped
    else do
      let _ ← Store.createStudent student
      pure .created
  | some student, some stored =>
    if purge && !student.attends then do
      Store.deleteStudent pid
      pure .deleted
    else do
      let changed ← Store.updateStudent stored student
      pure (if changed then .updated else .unchanged)

namespace Service

def reconcile (s : Service) (purge : Bool) (pid : PupilId) : Session Reconciliation := do
  match ← (fetchStudent s.portal s.settings.currentAcademicYear pid).outcome with
  | .ok student => transact (reconcileWith pid purge (some student))
  | .error e =>
    if e.isNotFound then transact (reconcileWith pid purge none)
    else .fail (e.fault.within ("refresh student " ++ pid.text))

/-- Reconciles `remaining` pupils of a range from the one at place `done` on. -/
def refreshFrom (s : Service) (purge : Bool) (pupils : PupilRange) (cancellation : Cancellation)
    (done : Nat) (summary : Summary) : Nat → Session Summary
  | 0 => pure summary
  | remaining + 1 => do
    checkpoint "refresh students" cancellation done
    let pid := pupils.get done
    let action ← s.reconcile purge pid
    note (.reported ("pid " ++ pid.text ++ ": " ++ action.word))
    refreshFrom s purge pupils cancellation (done + 1) (action.count summary) remaining

/-- Reconciles every pupil of a request, in order. -/
def refreshStudents (s : Service) (request : RefreshStudents) (cancellation : Cancellation) :
    Session Summary :=
  match request.pupils with
  | .ok pupils => s.refreshFrom request.purge pupils cancellation 0 {} pupils.count
  | .error fault => .fail fault

def withMarks (student : Student) : Session Student := do
  let marks ← within "attach student marks" (consult (Store.findMarks (.byPid student.pid)))
  pure { student with marks }

/-- Finds a pupil in the store, or else at the portal. What the portal knows is stored if the settings
say so. -/
def findStudent (s : Service) (pid : PupilId) : Session Student := do
  match ← consult (Store.findStudent? pid) with
  | some student => withMarks student
  | none =>
    match ← (fetchStudent s.portal s.settings.currentAcademicYear pid).outcome with
    | .error e => .fail (e.fault.within ("find student " ++ pid.text))
    | .ok student =>
      if s.settings.studentFallback then transact (Store.createStudent student)
      else pure student

def findStudents (f : StudentFilter) : Session (List Student) := do
  let students ← consult (Store.findStudents f)
  .forEachGive withMarks students

def deleteStudent (pid : PupilId) : Session Unit := erase (Store.deleteStudent pid)

end Service

end Gradebook.Sync
