import Gradebook.Jobs.Feed

/-! The job queue. One table, changed one step at a time, holds the cancellation tokens of live jobs that
were not cancelled and the feeds of live and recently finished jobs. Cancelling takes the token out of
the table in one step and fires it in a later one; finishing decides the terminal status in one step,
by whether the token has fired. Closing refuses new jobs and new readers and waits for the jobs that
were accepted. -/

namespace Gradebook.Jobs

/-- How a job's work ended: with an outcome, or by breaking down. -/
inductive Ending where
  | returned (outcome : Except Fault Summary)
  | broke (reason : String)
  deriving Repr

/-- The state of the queue. Feeds stay reachable for readers that hold them, whether or not the table
still lists them. -/
structure Queue where
  retention : Nat := 1024
  closed : Bool := false
  nextId : JobId := 1
  tokens : List JobId := []
  fired : List JobId := []
  listed : List JobId := []
  finished : List JobId := []
  tracked : List JobId := []
  feeds : List (JobId × Feed) := []
  deriving DecidableEq, Repr

namespace Queue

def feed (q : Queue) (id : JobId) : Feed := (q.feeds.lookup id).getD {}

def withFeed (id : JobId) (feed : Feed) (q : Queue) : Queue :=
  { q with feeds := (id, feed) :: q.feeds.filter (·.1 != id) }

def push (id : JobId) (status : Status) (q : Queue) : Queue :=
  q.withFeed id ((q.feed id).push status)

def closedFault : Fault := .internal "job queue is closed"

/-- Accepts a job. It is queued, has a token and a feed, and the queue waits for it before it closes. -/
def publish (payload : Payload) (q : Queue) : Except Fault Job × Queue :=
  if q.closed then (.error closedFault, q)
  else
    let id := q.nextId
    let next := { q with
      nextId := id + 1
      tokens := q.tokens ++ [id]
      listed := q.listed ++ [id]
      tracked := q.tracked ++ [id] }
    (.ok ⟨id, payload⟩, next.push id .queued)

/-- A reader of a job's feed, as long as the table lists it. -/
def subscribe (id : JobId) (q : Queue) : Except Fault Reader :=
  if q.closed then .error closedFault
  else if q.listed.contains id then .ok { job := id }
  else .error (.notFound ("job " ++ toString id ++ " not found"))

/-- Takes a job's token out of the table, the first half of cancelling it. -/
def takeToken (id : JobId) (q : Queue) : Except Fault Unit × Queue :=
  if q.tokens.contains id then (.ok (), { q with tokens := q.tokens.filter (· != id) })
  else (.error (.notFound ("job " ++ toString id ++ " not found or finished")), q)

/-- Fires a job's token, the second half of cancelling it. -/
def fire (id : JobId) (q : Queue) : Queue := { q with fired := q.fired ++ [id] }

/-- Cancels a job with nothing between the two halves. -/
def cancel (id : JobId) (q : Queue) : Except Fault Unit × Queue :=
  match q.takeToken id with
  | (.ok (), q) => (.ok (), q.fire id)
  | (.error fault, q) => (.error fault, q)

def isCancelled (q : Queue) (id : JobId) : Bool := q.fired.contains id

def start (job : Job) (q : Queue) : Queue := q.push job.id (.running job.payload.text)

/-- A running job tells a detail. -/
def report (id : JobId) (detail : String) (q : Queue) : Queue := q.push id (.running detail)

/-- The terminal status of a job whose token did or did not fire. -/
def terminalOf (id : JobId) (cancelled : Bool) (ending : Ending) : Status :=
  if cancelled then .cancelled
  else
    match ending with
    | .returned (.ok summary) => .done summary
    | .returned (.error fault) => .failed fault
    | .broke reason => .failed (.internal ("job " ++ toString id ++ " aborted: " ++ reason))

/-- Drops the feeds of the jobs that finished before the last few from the table. -/
def evict (q : Queue) : Queue :=
  let evicted := q.finished.take (q.finished.length - q.retention)
  { q with
    finished := q.finished.drop (q.finished.length - q.retention)
    listed := q.listed.filter fun id => !evicted.contains id }

/-- Decides and tells the terminal status of a job, and notes it as finished. -/
def finish (id : JobId) (ending : Ending) (q : Queue) : Queue :=
  let told := q.push id (terminalOf id (q.isCancelled id) ending)
  evict { told with
    tokens := told.tokens.filter (· != id)
    finished := told.finished ++ [id] }

/-- A finished job returns, and the queue no longer waits for it. -/
def leave (id : JobId) (q : Queue) : Queue := { q with tracked := q.tracked.filter (· != id) }

/-- Closes the queue, and tells whether it was open. -/
def shut (q : Queue) : Bool × Queue := (!q.closed, { q with closed := true })

/-- Whether no accepted job is left to wait for. -/
def isDrained (q : Queue) : Bool := q.tracked.isEmpty

def poll (reader : Reader) (q : Queue) : Option Delivery × Reader × Queue :=
  match reader.poll (q.feed reader.job) with
  | (delivery, reader, feed) => (delivery, reader, q.withFeed reader.job feed)

/-- What a reader is given until its end, as long as nothing else happens: at most `limit` deliveries. -/
def readAll (q : Queue) (reader : Reader) : Nat → List Status × Queue
  | 0 => ([], q)
  | limit + 1 =>
    match q.poll reader with
    | (some (.status status), reader, q) =>
      let (rest, q) := readAll q reader limit
      (status :: rest, q)
    | (_, _, q) => ([], q)

end Queue

end Gradebook.Jobs
