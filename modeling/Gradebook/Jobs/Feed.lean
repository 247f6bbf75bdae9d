import Gradebook.Jobs.Status

/-! Feeds of statuses. A feed is written by one job and read by any number of readers. The statuses that
are waiting are shared: each goes to the reader who takes it first. The terminal status is kept as
well, so that every reader gets it in the end, and after it a feed accepts nothing. -/

namespace Gradebook.Jobs

/-- The statuses that wait to be read, the terminal one once there is one, and how many were accepted. -/
structure Feed where
  pending : List Status := []
  terminal : Option Status := none
  pushes : Nat := 0
  deriving DecidableEq, Repr

namespace Feed

/-- Appends a status, unless the feed has ended. -/
def push (status : Status) (feed : Feed) : Feed :=
  if feed.terminal.isSome then feed
  else
    { pending := feed.pending ++ [status]
      terminal := if status.isTerminal then some status else none
      pushes := feed.pushes + 1 }

/-- Takes the next status: the oldest that waits, or else the terminal one. -/
def take (feed : Feed) : Option Status × Feed :=
  match feed.pending with
  | status :: rest => (some status, { feed with pending := rest })
  | [] => (feed.terminal, feed)

end Feed

inductive Delivery where
  | status (s : Status)
  | keepAlive
  | ended
  deriving DecidableEq, Repr

/-- A reader of a job's feed, and whether it was given the terminal status. -/
structure Reader where
  job : JobId
  finished : Bool := false
  deriving DecidableEq, Repr

namespace Reader

/-- Looks at the feed once: the end, a status, or nothing yet. -/
def poll (reader : Reader) (feed : Feed) : Option Delivery × Reader × Feed :=
  if reader.finished then (some .ended, reader, feed)
  else
    match feed.take with
    | (some status, feed) =>
      (some (.status status), { reader with finished := status.isTerminal }, feed)
    | (none, feed) => (none, reader, feed)

/-- Looks at the feed after a wait: where a status was expected and another reader took it, the reader is
told that the job is alive. -/
def pollAwake (reader : Reader) (feed : Feed) : Delivery × Reader × Feed :=
  match reader.poll feed with
  | (some delivery, reader, feed) => (delivery, reader, feed)
  | (none, reader, feed) => (.keepAlive, reader, feed)

end Reader

end Gradebook.Jobs
