import Gradebook.Refresh

/-! Jobs and what they tell about themselves. A job starts queued, then runs with one detail after another,
and ends with exactly one of three terminal statuses. -/

namespace Gradebook.Jobs

/-- The number of a job, given by the queue in the order of publication. -/
abbrev JobId := Int

def JobId.parse (s : String) : Except Identifier.Defect JobId :=
  (Identifier.parse "JobId" s).map Int64.toInt

inductive Payload where
  | students (request : RefreshStudents)
  | marks (request : RefreshMarks)
  deriving DecidableEq, Repr

namespace Payload

def word : Payload → String
  | .students _ => "refresh_students"
  | .marks _ => "refresh_marks"

/-- The pupil at which the work starts. -/
def pupil : Payload → PupilId
  | .students request => request.start
  | .marks request => request.pid

def text : Payload → String
  | .students r =>
    "refresh " ++ toString r.count.toNat ++ " students from pid " ++ r.start.text
      ++ (if r.purge then " with purge" else "")
  | .marks r =>
    "refresh marks of pid " ++ r.pid.text ++ " from " ++ r.first.text ++ " to " ++ r.last.text

end Payload

structure Job where
  id : JobId
  payload : Payload
  deriving DecidableEq, Repr

/-- What a job tells about itself. -/
inductive Status where
  | queued
  | running (detail : String)
  | done (summary : Summary)
  | cancelled
  | failed (fault : Fault)
  deriving DecidableEq, Repr

namespace Status

/-- Whether nothing follows the status. -/
def isTerminal : Status → Bool
  | .queued => false
  | .running _ => false
  | .done _ => true
  | .cancelled => true
  | .failed _ => true

def word : Status → String
  | .queued => "queued"
  | .running _ => "running"
  | .done _ => "done"
  | .cancelled => "cancelled"
  | .failed _ => "failed"

end Status

end Gradebook.Jobs
