import Gradebook.Jobs.Queue

/-! Rehearsals of the job queue. The work of a job is a script of instructions, and time is virtual: it
stands still while anything can run, and then jumps to the next moment at which something is due.
Whatever can run waits in line and runs in turn until it has to wait or is done. The line is served in
rounds, and whoever drives the rehearsal and waits for something looks up only between two rounds. A wait
of no length is over at once, and lets nothing else run; but nobody passes more than so many of them in
one go. A rehearsal changes the queue only by the steps of the queue itself. -/

namespace Gradebook.Jobs

inductive Instruction where
  | report (detail : String)
  | context
  | gate (name : String)
  | sleep (ms : Nat)
  | waitCancel
  | pace (ms : Nat)
  | checkpoint (what : String)
  | breakDown
  | succeed (summary : Summary)
  | fail (fault : Fault)
  deriving DecidableEq, Repr

abbrev Script := List Instruction

inductive Hold where
  | gate (name : String)
  | timer (due : Nat)
  | cancelled
  | paced (due : Nat)
  deriving DecidableEq, Repr

/-- Whether cancelling the job ends the hold. -/
def Hold.endsOnCancel : Hold → Bool
  | .gate _ => false
  | .timer _ => false
  | .cancelled => true
  | .paced _ => true

/-- The moment at which a hold ends by itself. -/
def Hold.due? : Hold → Option Nat
  | .timer due => some due
  | .paced due => some due
  | .gate _ => none
  | .cancelled => none

/-- A job that waits, and the script at which it then goes on. The script begins with the instruction that
made it wait, which is looked at again. -/
structure Waiting where
  job : JobId
  hold : Hold
  script : Script
  deriving DecidableEq, Repr

/-- Something that can run. -/
inductive Task where
  | start (job : Job)
  | execute (job : Job)
  | work (id : JobId) (script : Script)
  | conclude (id : JobId) (ending : Ending)
  | shut
  | noteDrained

/-- How far closing in the background has come. -/
inductive Closing where
  | notAsked
  | asked
  | waiting
  | done
  deriving DecidableEq, Repr

/-- How many waits of no length are passed in one go. -/
def stride : Nat := 128

/-- The queue, the virtual time in milliseconds, and all that runs or waits around it: the tasks in line,
those put off until the round is over, the jobs that wait, and how many waits of no length the driver of
the rehearsal may still pass. -/
structure Rehearsal where
  queue : Queue := {}
  heartbeat : Nat := 5000
  now : Nat := 0
  scripts : List (PupilId × Script) := []
  longest : Nat := 0
  openGates : List String := []
  ready : List Task := []
  deferred : List Task := []
  credit : Nat := stride
  waiting : List Waiting := []
  readers : List (String × Reader) := []
  closing : Closing := .notAsked

namespace Rehearsal

/-- How long closing may take before it is given up, in milliseconds. -/
def patience : Nat := 1000000000

/-- How many tasks are run in a round. -/
def roundSize : Nat := 61

def enqueue (task : Task) (r : Rehearsal) : Rehearsal := { r with ready := r.ready ++ [task] }

/-- Puts a task off until the round is over. The last task put off comes first then. -/
def putOff (task : Task) (r : Rehearsal) : Rehearsal := { r with deferred := task :: r.deferred }

def onQueue (f : Queue → Queue) (r : Rehearsal) : Rehearsal := { r with queue := f r.queue }

def wait (id : JobId) (hold : Hold) (script : Script) (r : Rehearsal) : Rehearsal :=
  { r with waiting := r.waiting ++ [⟨id, hold, script⟩] }

/-- The fault of a paced wait that was cancelled. -/
def pacedFault : Fault := (Fault.internal "engage: operation cancelled").within "paced"

def contextText (cancelled : Bool) : String :=
  "RefreshContext \x7b cancelled: " ++ (if cancelled then "true" else "false")
    ++ ", observed: true \x7d"

def conclude (id : JobId) (ending : Ending) (r : Rehearsal) : Rehearsal :=
  r.enqueue (.conclude id ending)

/-- Follows a script until the job waits, ends, or has passed as many waits of no length as its credit
allows. -/
def work (id : JobId) : Nat → Script → Rehearsal → Rehearsal
  | _, [], r => r.conclude id (.returned (.ok {}))
  | credit, .report detail :: rest, r => work id credit rest (r.onQueue (Queue.report id detail))
  | credit, .context :: rest, r =>
    work id credit rest (r.onQueue (Queue.report id (contextText (r.queue.isCancelled id))))
  | credit, .gate name :: rest, r =>
    if r.openGates.contains name then work id credit rest r
    else r.wait id (.gate name) (.gate name :: rest)
  | credit, .sleep ms :: rest, r =>
    if credit = 0 then r.putOff (.work id (.sleep ms :: rest))
    else if ms = 0 then work id (credit - 1) rest r
    else r.wait id (.timer (r.now + ms)) (.sleep 0 :: rest)
  | credit, .waitCancel :: rest, r =>
    if r.queue.isCancelled id then work id credit rest r
    else r.wait id .cancelled (.waitCancel :: rest)
  | credit, .pace ms :: rest, r =>
    if credit = 0 then r.putOff (.work id (.pace ms :: rest))
    else if r.queue.isCancelled id then r.conclude id (.returned (.error pacedFault))
    else if ms = 0 then work id (credit - 1) rest r
    else r.wait id (.paced (r.now + ms)) (.pace 0 :: rest)
  | credit, .checkpoint what :: rest, r =>
    if r.queue.isCancelled id then r.conclude id (.returned (.error (.cancelled what)))
    else work id credit rest r
  | _, .breakDown :: _, r => r.conclude id (.broke "task panicked")
  | _, .succeed summary :: _, r => r.conclude id (.returned (.ok summary))
  | _, .fail fault :: _, r => r.conclude id (.returned (.error fault))

/-- The script of the pupil at which a job's work starts. -/
def scriptOf (r : Rehearsal) (job : Job) : Script := (r.scripts.lookup job.payload.pupil).getD []

/-- When the last accepted job has returned, whoever closes in the background can go on. -/
def wakeCloser (r : Rehearsal) : Rehearsal :=
  if r.closing == .waiting && r.queue.isDrained then r.enqueue .noteDrained else r

def runTask (r : Rehearsal) : Task → Rehearsal
  | .start job => (r.onQueue (Queue.start job)).enqueue (.execute job)
  | .execute job => work job.id stride (r.scriptOf job) r
  | .work id script => work id stride script r
  | .conclude id ending =>
    (r.onQueue fun q => (q.finish id ending).leave id).wakeCloser
  | .shut =>
    let (wasOpen, queue) := r.queue.shut
    let r := { r with queue }
    if wasOpen && !queue.isDrained then { r with closing := .waiting }
    else { r with closing := .done }
  | .noteDrained => { r with closing := .done }

/-- Runs the first tasks in line, at most so many of them. -/
def serve : Nat → Rehearsal → Rehearsal
  | 0, r => r
  | count + 1, r =>
    match r.ready with
    | task :: rest => serve count (runTask { r with ready := rest } task)
    | [] => r

/-- Serves the line for a round. What was put off meanwhile joins the line in the end. -/
def round (r : Rehearsal) : Rehearsal :=
  let r := serve roundSize r
  { r with ready := r.ready ++ r.deferred, deferred := [] }

/-- A bound on the number of tasks that can run before everything waits for good: a job looks at each
instruction at most three times. -/
def effort (r : Rehearsal) : Nat :=
  (r.ready.length + r.waiting.length + 2) * (3 * r.longest + 6)

def settleWithin : Nat → Rehearsal → Rehearsal
  | 0, r => r
  | fuel + 1, r => if r.ready.isEmpty then r else settleWithin fuel r.round

/-- Lets everything run until it waits for something. -/
def settle (r : Rehearsal) : Rehearsal := { settleWithin r.effort r with credit := stride }

/-- The first moment at which some job can go on by itself. -/
def nextDue (r : Rehearsal) : Option Nat :=
  r.waiting.foldl (fun first w =>
    match first, w.hold.due? with
    | some a, some b => some (min a b)
    | some a, none => some a
    | none, due => due) none

/-- Puts the jobs whose hold satisfies a condition in line again. -/
def release (holds : Waiting → Bool) (r : Rehearsal) : Rehearsal :=
  { r with
    ready := r.ready ++ (r.waiting.filter holds).map fun w => .work w.job w.script
    waiting := r.waiting.filter fun w => !holds w }

/-- Lets time jump to a moment, at which some holds end by themselves. -/
def advance (moment : Nat) (r : Rehearsal) : Rehearsal :=
  { r with now := moment }.release fun w => w.hold.due?.any (· ≤ moment)

/-- Waits until a condition holds between two rounds or the deadline comes, and tells whether the condition
holds. -/
def passWithin (deadline : Nat) (stop : Rehearsal → Bool) : Nat → Rehearsal → Bool × Rehearsal
  | 0, r => (false, r)
  | fuel + 1, r =>
    let r := r.round
    if stop r then (true, { r with credit := stride })
    else if !r.ready.isEmpty then passWithin deadline stop fuel r
    else
      match r.nextDue with
      | some due =>
        if due < deadline then passWithin deadline stop fuel (r.advance due)
        else (false, { r.advance deadline with credit := stride - 1 })
      | none => (false, { r.advance deadline with credit := stride - 1 })

def pass (deadline : Nat) (stop : Rehearsal → Bool) (r : Rehearsal) : Bool × Rehearsal :=
  passWithin deadline stop (2 * r.effort) r

/-- Out of credit, the driver of the rehearsal lets a round go first. -/
def replenish (r : Rehearsal) : Rehearsal :=
  if r.credit = 0 then { r.round with credit := stride } else r

/-- Passes a wait of no length. -/
def spend (r : Rehearsal) : Rehearsal :=
  let r := r.replenish
  { r with credit := r.credit - 1 }

/-- Publishes a job whose work is a script. The job starts when it is its turn. -/
def publish (payload : Payload) (script : Script) (r : Rehearsal) : Except Fault Job × Rehearsal :=
  let r := { r with
    scripts := (payload.pupil, script) :: r.scripts
    longest := max r.longest script.length }
  match r.queue.publish payload with
  | (.ok job, queue) => (.ok job, { r with queue }.enqueue (.start job))
  | (.error fault, queue) => (.error fault, { r with queue })

/-- Attaches a named reader to a job, in the place of an earlier one of that name. -/
def subscribe (id : JobId) (name : String) (r : Rehearsal) : Except Fault Unit × Rehearsal :=
  match r.queue.subscribe id with
  | .ok reader =>
    (.ok (), { r with readers := (name, reader) :: r.readers.filter (·.1 != name) })
  | .error fault => (.error fault, r)

/-- Cancels a job and lets go on what waited for that. -/
def cancel (id : JobId) (r : Rehearsal) : Except Fault Unit × Rehearsal :=
  match r.queue.cancel id with
  | (.ok (), queue) =>
    (.ok (), { r with queue }.release fun w => w.job == id && w.hold.endsOnCancel)
  | (.error fault, queue) => (.error fault, { r with queue })

def openGate (name : String) (r : Rehearsal) : Rehearsal :=
  { r with openGates := name :: r.openGates }.release fun w => w.hold == Hold.gate name

/-- A reader that looked and found nothing: its name, and how much its feed had accepted by then. -/
structure Watch where
  name : String
  reader : Reader
  seen : Nat

/-- Looks at a reader's feed without waiting: a delivery, or what to watch. -/
def glance (name : String) (reader : Reader) (r : Rehearsal) : (Delivery ⊕ Watch) × Rehearsal :=
  let (delivery, reader, queue) := r.queue.poll reader
  let r := { r with
    queue
    readers := r.readers.map fun entry => if entry.1 == name then (name, reader) else entry }
  match delivery with
  | some delivery => (.inl delivery, r)
  | none => (.inr ⟨name, reader, (queue.feed reader.job).pushes⟩, r)

/-- Whether the watched feed has accepted something since. -/
def isAwake (r : Rehearsal) (watch : Watch) : Bool :=
  decide (watch.seen < (r.queue.feed watch.reader.job).pushes)

/-- Looks again after being woken. -/
def lookAgain (watch : Watch) (r : Rehearsal) : Delivery × Rehearsal :=
  match r.glance watch.name watch.reader with
  | (.inl delivery, r) => (delivery, r)
  | (.inr _, r) => (.keepAlive, r)

/-- What a reader is told that waits no time. -/
def answerNow (r : Rehearsal) : Delivery ⊕ Watch → Delivery × Rehearsal
  | .inl delivery => (delivery, r)
  | .inr watch =>
    let r := r.replenish
    if r.isAwake watch then r.lookAgain watch else (.keepAlive, r.spend)

/-- The next delivery of a reader, after at most one heartbeat. -/
def receiveFor (name : String) (reader : Reader) (r : Rehearsal) : Delivery × Rehearsal :=
  match r.glance name reader with
  | (.inl delivery, r) => (delivery, r)
  | (.inr watch, r) =>
    if r.heartbeat = 0 then r.answerNow (.inr watch)
    else
      match r.pass (r.now + r.heartbeat) (fun r => r.isAwake watch) with
      | (true, r) => r.lookAgain watch
      | (false, r) => (.keepAlive, r)

def receive (name : String) (r : Rehearsal) : Option Delivery × Rehearsal :=
  match r.readers.lookup name with
  | some reader =>
    let (delivery, r) := r.receiveFor name reader
    (some delivery, r)
  | none => (none, r)

/-- Deliveries of a reader up to its end, the end included, or up to a number of them. -/
def drain (name : String) : Nat → Rehearsal → Option (List Delivery) × Rehearsal
  | 0, r => ((r.readers.lookup name).map fun _ => [], r)
  | limit + 1, r =>
    match r.receive name with
    | (none, r) => (none, r)
    | (some .ended, r) => (some [.ended], r)
    | (some delivery, r) =>
      let (rest, r) := drain name limit r
      (rest.map (delivery :: ·), r)

/-- Whether a reader that has no delivery yet is woken. -/
def stirs (r : Rehearsal) : Delivery ⊕ Watch → Bool
  | .inl _ => false
  | .inr watch => r.isAwake watch

/-- Looks again for a reader that has no delivery yet, if it is woken. -/
def lookIfAwake (r : Rehearsal) : Delivery ⊕ Watch → (Delivery ⊕ Watch) × Rehearsal
  | .inl delivery => (.inl delivery, r)
  | .inr watch =>
    if r.isAwake watch then
      let (delivery, r) := r.lookAgain watch
      (.inl delivery, r)
    else (.inr watch, r)

/-- What a reader is told when its heartbeat is over. -/
def overdue : Delivery ⊕ Watch → Delivery
  | .inl delivery => delivery
  | .inr _ => .keepAlive

/-- Waits for two watches until each has a delivery or the deadline comes. The first is looked at before
the second each time. -/
def receiveLate (deadline : Nat) : Nat → Delivery ⊕ Watch → Delivery ⊕ Watch → Rehearsal →
    (Delivery × Delivery) × Rehearsal
  | _, .inl a, .inl b, r => ((a, b), r)
  | 0, a, b, r => ((overdue a, overdue b), r)
  | fuel + 1, a, b, r =>
    match r.pass deadline fun r => r.stirs a || r.stirs b with
    | (false, r) => ((overdue a, overdue b), r)
    | (true, r) =>
      let (a, r) := r.lookIfAwake a
      let (b, r) := r.lookIfAwake b
      receiveLate deadline fuel a b r

/-- The next deliveries of two readers that wait at the same time. -/
def receiveBoth (first second : String) (r : Rehearsal) : Option (Delivery × Delivery) × Rehearsal :=
  match r.readers.lookup first, r.readers.lookup second with
  | some a, some b =>
    let (a, r) := r.glance first a
    let (b, r) := r.glance second b
    if r.heartbeat = 0 then
      let (a, r) := r.answerNow a
      let (b, r) := r.answerNow b
      (some (a, b), r)
    else
      let (both, r) := receiveLate (r.now + r.heartbeat) 2 a b r
      (some both, r)
  | _, _ => (none, r)

/-- Lets go of a reader, and tells whether there was one. -/
def drop (name : String) (r : Rehearsal) : Bool × Rehearsal :=
  ((r.readers.lookup name).isSome, { r with readers := r.readers.filter (·.1 != name) })

def sleep (ms : Nat) (r : Rehearsal) : Rehearsal :=
  if ms = 0 then r.spend else (r.pass (r.now + ms) fun _ => false).2

/-- Closes the queue and waits for its jobs, as long as patience lasts. Tells whether closing returned; of
a queue that is closed already it does so at once. -/
def close (r : Rehearsal) : Bool × Rehearsal :=
  let (wasOpen, queue) := r.queue.shut
  let r := { r with queue }
  if wasOpen && !queue.isDrained then r.pass (r.now + patience) fun r => r.queue.isDrained
  else (true, r)

/-- Closes the queue in the background. -/
def closeLater (r : Rehearsal) : Rehearsal := { r with closing := .asked }.enqueue .shut

/-- Whether closing in the background has returned, if it was asked for. -/
def closeReturned (r : Rehearsal) : Option Bool :=
  match r.closing with
  | .notAsked => none
  | .asked => some false
  | .waiting => some false
  | .done => some true

end Rehearsal

end Gradebook.Jobs
