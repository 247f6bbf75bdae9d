import Gradebook.Portal.Error
import Gradebook.Student

/-! What the portal can be asked. A responder answers each call, and may answer the same call differently
as time goes on: its answers depend on the calls that were made before. -/

namespace Gradebook.Portal

/-- What a marksheet shall show. Without subjects it shows all that the pupil takes. -/
structure MarksheetQuery where
  years : List Year := []
  periods : List String := []
  columns : List String := []
  subjects : List Subject := []
  deriving DecidableEq, Repr

inductive Call where
  | academicYears (pid : PupilId)
  | reportingPeriods (pid : PupilId) (years : List Year)
  | reportingSubjects (pid : PupilId) (years : List Year) (periods : List String)
  | columnsForSubjects (pid : PupilId) (years : List Year) (periods : List String)
      (subjects : List Subject)
  | marksheet (pid : PupilId) (query : MarksheetQuery)
  deriving DecidableEq, Repr

def Call.pid : Call → PupilId
  | .academicYears pid => pid
  | .reportingPeriods pid _ => pid
  | .reportingSubjects pid _ _ => pid
  | .columnsForSubjects pid _ _ _ => pid
  | .marksheet pid _ => pid

/-- The answers of the portal, given the calls made before, oldest first. -/
structure Responder where
  academicYears : List Call → PupilId → Except Error (List Year)
  reportingPeriods : List Call → PupilId → List Year → Except Error (List String)
  reportingSubjects : List Call → PupilId → List Year → List String → Except Error (List Subject)
  columnsForSubjects : List Call → PupilId → List Year → List String → List Subject →
    Except Error (List String)
  marksheet : List Call → PupilId → MarksheetQuery → Except Error String

end Gradebook.Portal
