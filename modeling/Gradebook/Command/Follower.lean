import Gradebook.Command.Error
import Gradebook.Json.Printer
import Gradebook.Jobs.Feed
import Gradebook.Wire.Jobs

/-! Following a job. A command that published a job prints each status it is given as a line of its own and
ends as the terminal status says. Signs of life print nothing. -/

namespace Gradebook.Command

/-- What was printed about a job, and the terminal status once it was given. -/
structure Follower where
  job : Jobs.JobId
  lines : List String := []
  ending : Option Jobs.Status := none
  deriving DecidableEq, Repr

namespace Follower

def lineOf (id : Jobs.JobId) (status : Jobs.Status) : String :=
  Json.compact (.obj (("job_id", .int id) :: status.members))

def print (status : Jobs.Status) (f : Follower) : Follower :=
  { f with
    lines := f.lines ++ [lineOf f.job status]
    ending := if status.isTerminal then some status else f.ending }

def take (f : Follower) : Jobs.Delivery → Follower
  | .status status => f.print status
  | .keepAlive => f
  | .ended => f

/-- How the command ends once the reader has ended. -/
def verdict (f : Follower) : Except Error Unit :=
  match f.ending with
  | some (.failed fault) => .error (.jobFailed f.job fault)
  | some .cancelled => .error (.jobCancelled f.job)
  | some (.done _) => .ok ()
  | some (.running _) => .ok ()
  | some .queued => .ok ()
  | none => .ok ()

end Follower

end Gradebook.Command
