import Gradebook.Jobs.Queue

/-! The job queue among those who use it. Publishers, readers, cancellers and one worker for each accepted
job share the queue, and nothing orders their moves but the locks: a move is one locked section of the
queue or of a feed, or the step in which the executor of a job ends. Cancelling is therefore two moves,
with anything in between. A run is a list of moves, each with the result that its caller saw. -/

namespace Gradebook.Jobs

/-- The statuses that a feed accepted between two moments. A feed appends, so they stand behind what waited
before. -/
def Feed.gained (before after : Feed) : List Status := after.pending.drop before.pending.length

/-- How far the worker of a job has come. -/
inductive Stage where
  | accepted
  | working
  | ended (ending : Ending)
  | decided
  | returned

/-- The stages in their order. -/
def Stage.rank : Stage → Nat
  | .accepted => 0
  | .working => 1
  | .ended _ => 2
  | .decided => 3
  | .returned => 4

/-- The task that runs an accepted job. -/
structure Worker where
  job : Job
  stage : Stage

/-- The queue, the workers of the accepted jobs, the cancellations that hold a token which they have not
fired yet, the readers, and what each feed has accepted so far, oldest first. -/
structure Scene where
  queue : Queue
  worker : JobId → Option Worker := fun _ => none
  firing : List JobId := []
  readers : List Reader := []
  accepted : JobId → List Status := fun _ => []

/-- A move, with the result of the call where it has one. Closing returns in a move of its own. -/
inductive Move where
  | publish (payload : Payload) (result : Except Fault Job)
  | subscribe (id : JobId) (result : Except Fault Reader)
  | takeToken (id : JobId) (result : Except Fault Unit)
  | fire (id : JobId)
  | shut (wasOpen : Bool)
  | closed
  | start (id : JobId)
  | report (id : JobId) (detail : String)
  | conclude (id : JobId) (ending : Ending)
  | finish (id : JobId)
  | leave (id : JobId)
  | poll (place : Nat) (delivery : Option Delivery)

namespace Scene

/-- A queue that nobody has used yet. -/
def fresh (retention : Nat) : Scene := { queue := { retention } }

/-- The system after a change of the queue. -/
def withQueue (q : Queue) (s : Scene) : Scene :=
  { s with
    queue := q
    accepted := fun id => s.accepted id ++ (s.queue.feed id).gained (q.feed id) }

/-- The system with a worker at a stage. -/
def withWorker (job : Job) (stage : Stage) (s : Scene) : Scene :=
  { s with worker := fun id => if id = job.id then some ⟨job, stage⟩ else s.worker id }

end Scene

open Scene

/-- What each move does. The executor of a job may keep the job's context, so it can report from the moment
the job starts on, also after it has ended. -/
inductive Step (s : Scene) : Move → Scene → Prop where
  | publish {payload job q} (accepts : s.queue.publish payload = (.ok job, q)) :
      Step s (.publish payload (.ok job)) ((s.withQueue q).withWorker job .accepted)
  | publishRefused {payload fault q} (refuses : s.queue.publish payload = (.error fault, q)) :
      Step s (.publish payload (.error fault)) (s.withQueue q)
  | subscribe {id reader} (attaches : s.queue.subscribe id = .ok reader) :
      Step s (.subscribe id (.ok reader)) { s with readers := s.readers ++ [reader] }
  | subscribeRefused {id fault} (refuses : s.queue.subscribe id = .error fault) :
      Step s (.subscribe id (.error fault)) s
  | takeToken {id q} (takes : s.queue.takeToken id = (.ok (), q)) :
      Step s (.takeToken id (.ok ())) { s.withQueue q with firing := s.firing ++ [id] }
  | takeTokenRefused {id fault q} (refuses : s.queue.takeToken id = (.error fault, q)) :
      Step s (.takeToken id (.error fault)) (s.withQueue q)
  | fire {id} (held : id ∈ s.firing) :
      Step s (.fire id) { s.withQueue (s.queue.fire id) with firing := s.firing.erase id }
  | shut : Step s (.shut s.queue.shut.1) (s.withQueue s.queue.shut.2)
  | closed (shut : s.queue.closed = true) (drained : s.queue.isDrained = true) : Step s .closed s
  | start {job} (waits : s.worker job.id = some ⟨job, .accepted⟩) :
      Step s (.start job.id) ((s.withQueue (s.queue.start job)).withWorker job .working)
  | report {id w detail} (known : s.worker id = some w) (begun : w.stage ≠ .accepted) :
      Step s (.report id detail) (s.withQueue (s.queue.report id detail))
  | conclude {job ending} (works : s.worker job.id = some ⟨job, .working⟩) :
      Step s (.conclude job.id ending) (s.withWorker job (.ended ending))
  | finish {job ending} (ends : s.worker job.id = some ⟨job, .ended ending⟩) :
      Step s (.finish job.id)
        ((s.withQueue (s.queue.finish job.id ending)).withWorker job .decided)
  | leave {job} (decided : s.worker job.id = some ⟨job, .decided⟩) :
      Step s (.leave job.id) ((s.withQueue (s.queue.leave job.id)).withWorker job .returned)
  | poll {place reader delivery reader' q} (here : s.readers[place]? = some reader)
      (polls : s.queue.poll reader = (delivery, reader', q)) :
      Step s (.poll place delivery) { s.withQueue q with readers := s.readers.set place reader' }

/-- Some moves in a row, oldest first. -/
inductive Steps (s : Scene) : List Move → Scene → Prop where
  | none : Steps s [] s
  | next {moves t m u} (before : Steps s moves t) (step : Step t m u) : Steps s (moves ++ [m]) u

/-- The moves that a queue with some retention may have seen since it was made, and the system now. -/
abbrev Run (retention : Nat) : List Move → Scene → Prop := Steps (fresh retention)

/-- The details that a job has reported, oldest first. -/
def reportsOf (id : JobId) (moves : List Move) : List String :=
  moves.filterMap fun
    | .report job detail => if job = id then some detail else none
    | _ => none

/-- What a job has told before it ends: it was queued, it began to run, and it reported details. -/
def opening (payload : Payload) (details : List String) : List Status :=
  .queued :: .running payload.text :: details.map .running

end Gradebook.Jobs
