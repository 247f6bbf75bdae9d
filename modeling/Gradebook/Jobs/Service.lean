import Gradebook.Jobs.Queue
import Gradebook.Sync.Marks

/-! Jobs done by the services that reconcile the store. -/

namespace Gradebook.Jobs

open Sync

def execute (s : Service) (payload : Payload) (cancellation : Cancellation) : Session Summary :=
  match payload with
  | .students request => s.refreshStudents request cancellation
  | .marks request => s.refreshMarks request cancellation

/-- Runs an accepted job from its start to its return, with its reports on its feed. The token is looked at
as it is when the job starts. -/
def runToEnd (s : Service) (job : Job) (q : Queue) (w : World) : Queue × World :=
  let started := q.start job
  let (outcome, after) := execute s job.payload (fun _ => q.isCancelled job.id) w
  let reported := (after.reports.drop w.reports.length).foldl
    (fun q detail => Queue.report job.id detail q) started
  ((reported.finish job.id (.returned outcome)).leave job.id, after)

/-- Publishes a job, reads its feed, perhaps cancels it before it starts, and runs it. Gives the job and
the statuses that the reader was given. -/
def followThrough (s : Service) (payload : Payload) (cancelled : Bool) (q : Queue) (w : World) :
    Except Fault (Job × List Status) × Queue × World :=
  match q.publish payload with
  | (.error fault, q) => (.error fault, q, w)
  | (.ok job, q) =>
    match q.subscribe job.id with
    | .error fault => (.error fault, q, w)
    | .ok reader =>
      let q := if cancelled then (q.cancel job.id).2 else q
      let (q, w) := runToEnd s job q w
      let (statuses, q) := q.readAll reader ((q.feed job.id).pending.length + 1)
      (.ok (job, statuses), q, w)

end Gradebook.Jobs
