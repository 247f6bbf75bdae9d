import Gradebook.Command.Follower
import Gradebook.Proofs.Jobs.Delivery
import Gradebook.Proofs.Jobs.Table

/-! A command beside its job. The command publishes a job, attaches a reader to its feed and asks for one delivery after
the other until it is told that the feed is over. A look that finds nothing is answered later: when a push wakes the
reader, or when the heartbeat is over. The worker of the job makes its moves in between, at any moment. Nobody cancels
the job. Whatever the order, what was printed and what still waits make up what the job has told. -/

namespace Gradebook

namespace Jobs

/-- Whether a move is the worker's or its executor's. -/
def Move.isWork : Move → Bool
  | .start _ => true
  | .report _ _ => true
  | .conclude _ _ => true
  | .finish _ => true
  | .leave _ => true
  | _ => false

variable {s t : Scene} {m : Move} {id : JobId}

theorem Feed.pending_push (feed : Feed) (status : Status) :
    (feed.push status).pending = feed.pending ++ feed.gained (feed.push status) := by
  cases terminal : feed.terminal with
  | some t => rw [push_of_ended (by simp [terminal]), gained_self, List.append_nil]
  | none => simp [push_of_open terminal, gained]

/-- A push puts at the end of what waits what it adds to what was accepted. -/
theorem pending_of_push {q : Queue} {job : JobId} {status : Status}
    (pushes : q.feed = (s.queue.push job status).feed) :
    (q.feed id).pending = (s.queue.feed id).pending ++ (s.queue.feed id).gained (q.feed id) := by
  rw [pushes, Queue.feed_push]
  split
  · next same => rw [same, Feed.pending_push]
  · simp

/-- A move of the worker takes nothing from what waits, and concerns no reader. -/
theorem Step.of_isWork (step : Step s m t) (isWork : m.isWork = true) :
    t.readers = s.readers ∧ t.queue.closed = s.queue.closed ∧
      ∀ id, (t.queue.feed id).pending = (s.queue.feed id).pending ++ (s.queue.feed id).gained (t.queue.feed id) := by
  have untouched (id : JobId) : (s.queue.feed id).pending =
      (s.queue.feed id).pending ++ (s.queue.feed id).gained (s.queue.feed id) := by simp
  cases step with
  | start waits => exact ⟨rfl, rfl, fun id => pending_of_push rfl⟩
  | report known begun => exact ⟨rfl, rfl, fun id => pending_of_push rfl⟩
  | @finish job ending ends => exact ⟨rfl, rfl, fun id => pending_of_push (Queue.feed_finish job.id ending s.queue)⟩
  | conclude works => exact ⟨rfl, rfl, untouched⟩
  | leave decided => exact ⟨rfl, rfl, untouched⟩
  | _ => cases isWork

/-- A look of the only reader. -/
theorem Step.of_poll {reader : Reader} {delivery : Option Delivery} (alone : s.readers = [reader])
    (step : Step s (.poll 0 delivery) t) : t.queue.closed = s.queue.closed ∧ t.accepted = s.accepted ∧
      ∃ reader', t.readers = [reader'] ∧
        reader.Looks (s.queue.feed reader.job) delivery reader' (t.queue.feed reader.job) := by
  cases step with
  | @poll _ reader delivery reader' q here polls =>
      rw [alone] at here
      cases here
      refine ⟨?_, funext (Scene.accepted_of_poll polls), reader', by simp [alone], ?_⟩
      · obtain ⟨feeds, rfl⟩ := Queue.poll_frame polls
        rfl
      · have looks := reader.looks_poll (s.queue.feed reader.job)
        simp only [Queue.poll, Prod.mk.injEq, Reader.poll_job] at polls
        obtain ⟨rfl, rfl, rfl⟩ := polls
        change reader.Looks _ _ _ ((s.queue.withFeed reader.job _).feed reader.job)
        rwa [Queue.feed_withFeed, if_pos rfl]

theorem exists_poll {reader : Reader} (alone : s.readers = [reader]) : ∃ delivery t, Step s (.poll 0 delivery) t :=
  ⟨_, _, .poll (by rw [alone]; rfl) rfl⟩

end Jobs

namespace Command

open Jobs

/-- How far the command has come. -/
inductive Phase where
  | publishing
  | attaching (job : Job)
  | looking (f : Follower)
  | waiting (f : Follower)
  | closed (f : Follower)
  | refused (fault : Fault)

namespace Phase

def ofPublish : Except Fault Job → Phase
  | .ok job => .attaching job
  | .error fault => .refused fault

def ofSubscribe (id : JobId) : Except Fault Reader → Phase
  | .ok _ => .looking { job := id }
  | .error fault => .refused fault

/-- The command takes what it is given and looks on, and it stops at the end of the feed. -/
def hear (f : Follower) : Delivery → Phase
  | .ended => .closed f
  | delivery => .looking (f.take delivery)

def ofLook (f : Follower) : Option Delivery → Phase
  | some delivery => hear f delivery
  | none => .waiting f

/-- What the command has printed. -/
def lines : Phase → List String
  | .publishing => []
  | .attaching _ => []
  | .looking f => f.lines
  | .waiting f => f.lines
  | .closed f => f.lines
  | .refused _ => []

end Phase

/-- The queue with its users, and the command among them. -/
structure Watch where
  scene : Scene
  phase : Phase := .publishing

/-- A move of the worker, a call of the command, or the end of a heartbeat for which its reader waited. -/
inductive Event where
  | work (m : Move)
  | call (m : Move)
  | expire

namespace Event

def move? : Event → Option Move
  | .work m => some m
  | .call m => some m
  | .expire => none

/-- Whether it is the command's turn and not the worker's. -/
def isOwn : Event → Bool
  | .work _ => false
  | .call _ => true
  | .expire => true

end Event

/-- What each event does. A reader that is woken looks again, and is told that the job is alive if it finds nothing. -/
inductive Watches (payload : Payload) (w : Watch) : Event → Watch → Prop where
  | work {m t} (isWork : m.isWork = true) (step : Step w.scene m t) : Watches payload w (.work m) { w with scene := t }
  | publish {result t} (here : w.phase = .publishing) (step : Step w.scene (.publish payload result) t) :
      Watches payload w (.call (.publish payload result)) ⟨t, .ofPublish result⟩
  | attach {job result t} (here : w.phase = .attaching job) (step : Step w.scene (.subscribe job.id result) t) :
      Watches payload w (.call (.subscribe job.id result)) ⟨t, .ofSubscribe job.id result⟩
  | look {f delivery t} (here : w.phase = .looking f) (step : Step w.scene (.poll 0 delivery) t) :
      Watches payload w (.call (.poll 0 delivery)) ⟨t, .ofLook f delivery⟩
  | wake {f delivery t} (here : w.phase = .waiting f) (step : Step w.scene (.poll 0 delivery) t) :
      Watches payload w (.call (.poll 0 delivery)) ⟨t, .hear f (delivery.getD .keepAlive)⟩
  | expire {f} (here : w.phase = .waiting f) : Watches payload w .expire { w with phase := .hear f .keepAlive }

/-- Some events in a row, oldest first. -/
inductive Watching (payload : Payload) (w : Watch) : List Event → Watch → Prop where
  | none : Watching payload w [] w
  | next {events v event u} (before : Watching payload w events v) (step : Watches payload v event u) :
      Watching payload w (events ++ [event]) u

/-- The events since a command began to publish its job on a queue that nobody has used. -/
abbrev Watched (retention : Nat) (payload : Payload) : List Event → Watch → Prop :=
  Watching payload { scene := .fresh retention }

/-- The moves on the queue among some events. -/
def movesOf (events : List Event) : List Move := events.filterMap Event.move?

variable {retention : Nat} {payload : Payload} {w v u : Watch} {event : Event} {events more : List Event}
variable {s t : Scene} {m : Move} {moves : List Move} {f : Follower} {finished : Bool}

theorem movesOf_append (events more : List Event) : movesOf (events ++ more) = movesOf events ++ movesOf more :=
  List.filterMap_append

theorem Watching.append (first : Watching payload w events v) (second : Watching payload v more u) :
    Watching payload w (events ++ more) u := by
  induction second with
  | none => simpa using first
  | next _ step ih =>
      rw [← List.append_assoc]
      exact ih.next step

/-- What a command and its worker do is done by users of the queue. -/
theorem Watches.steps (step : Watches payload w event v) : Steps w.scene (movesOf [event]) v.scene := by
  cases step with
  | work _ step => exact .next .none step
  | publish _ step => exact .next .none step
  | attach _ step => exact .next .none step
  | look _ step => exact .next .none step
  | wake _ step => exact .next .none step
  | expire => exact .none

theorem Watching.steps (watching : Watching payload w events v) : Steps w.scene (movesOf events) v.scene := by
  induction watching with
  | none => exact .none
  | next _ step ih =>
      rw [movesOf_append]
      exact ih.append step.steps

theorem Watched.run (watched : Watched retention payload events w) : Run retention (movesOf events) w.scene :=
  Watching.steps watched

/-! ### The moves of the two -/

/-- The job that a command publishes on a queue that nobody has used. -/
def firstJob (payload : Payload) : Job := ⟨1, payload⟩

/-- A move that a command and its worker make. -/
def Belongs (payload : Payload) : Move → Prop
  | .publish _ result => result = .ok (firstJob payload)
  | .takeToken _ _ => False
  | .fire _ => False
  | .shut _ => False
  | .closed => False
  | _ => True

theorem belongs_of_isWork (isWork : m.isWork = true) : Belongs payload m := by
  cases m <;> trivial

/-! ### The invariant -/

/-- A follower has printed what its job has told but what still waits, and knows the end once it was printed. -/
structure Keeps (f : Follower) (finished : Bool) (s : Scene) : Prop where
  job : f.job = 1
  readers : s.readers = [⟨1, finished⟩]
  told : ∃ told, f.lines = told.map (Follower.lineOf 1) ∧ told ++ (s.queue.feed 1).pending = s.accepted 1 ∧
    f.ending = told.find? Status.isTerminal
  ending : f.ending.isSome = finished

/-- How the queue stands beside a command that has come so far. -/
def Phase.Fits (retention : Nat) (payload : Payload) (s : Scene) : Phase → Prop
  | .publishing => s = .fresh retention
  | .attaching job => job = firstJob payload ∧ s.readers = [] ∧ (s.queue.feed 1).pending = s.accepted 1
  | .looking f => ∃ finished, Keeps f finished s
  | .waiting f => Keeps f false s
  | .closed f => Keeps f true s
  | .refused _ => False

/-- A command beside its worker, with nobody else at the queue. -/
structure Sound (retention : Nat) (payload : Payload) (events : List Event) (w : Watch) : Prop where
  fits : w.phase.Fits retention payload w.scene
  isOpen : w.scene.queue.closed = false
  alone : ∀ m ∈ movesOf events, Belongs payload m
  published : w.phase = .publishing ∨ Move.publish payload (.ok (firstJob payload)) ∈ movesOf events

/-- What the worker adds waits for the reader. -/
theorem Keeps.work (keeps : Keeps f finished s) (step : Step s m t) (isWork : m.isWork = true) :
    Keeps f finished t := by
  obtain ⟨readers, -, pending⟩ := step.of_isWork isWork
  obtain ⟨told, lines, whole, ending⟩ := keeps.told
  refine ⟨keeps.job, readers.trans keeps.readers, ⟨told, lines, ?_, ending⟩, keeps.ending⟩
  rw [pending 1, step.accepted_eq 1, ← whole, List.append_assoc]

theorem Phase.Fits.work {phase : Phase} (fits : phase.Fits retention payload s) (step : Step s m t)
    (isWork : m.isWork = true) : phase.Fits retention payload t := by
  cases phase with
  | publishing =>
      -- a worker comes only with a job
      obtain rfl : s = .fresh retention := fits
      cases step with
      | start waits => cases waits
      | report known => cases known
      | conclude works => cases works
      | finish ends => cases ends
      | leave decided => cases decided
      | _ => cases isWork
  | attaching job =>
      obtain ⟨same, none, waits⟩ := fits
      obtain ⟨readers, -, pending⟩ := step.of_isWork isWork
      refine ⟨same, readers.trans none, ?_⟩
      rw [pending 1, step.accepted_eq 1, waits]
  | looking f =>
      obtain ⟨finished, keeps⟩ := fits
      exact ⟨finished, keeps.work step isWork⟩
  | waiting f => exact Keeps.work fits step isWork
  | closed f => exact Keeps.work fits step isWork
  | refused fault => cases fits

/-- To a follower that does not know the end, an empty feed is one that has not ended. -/
theorem Keeps.isOpen (keeps : Keeps f false s) (records : (s.queue.feed 1).Records (s.accepted 1))
    (nothing : (s.queue.feed 1).pending = []) : (s.queue.feed 1).terminal = none := by
  obtain ⟨told, -, whole, ending⟩ := keeps.told
  rw [nothing, List.append_nil] at whole
  rw [records.terminal, ← whole, ← ending, ← Option.not_isSome_iff_eq_none, keeps.ending]
  exact Bool.false_ne_true

/-- What a look finds is printed, whether the command is looking or was woken. Nothing found is no news. -/
theorem Keeps.poll (keeps : Keeps f finished s) (records : (s.queue.feed 1).Records (s.accepted 1))
    {delivery : Option Delivery} (step : Step s (.poll 0 delivery) t) :
    (Phase.ofLook f delivery).Fits retention payload t := by
  obtain ⟨-, accepted, reader', readers, looks⟩ := step.of_poll keeps.readers
  obtain ⟨told, lines, whole, ending⟩ := keeps.told
  have known := keeps.ending
  -- a status that is printed is the oldest that waited
  have prints {status : Status} (unfinished : finished = false) (reader : reader' = ⟨1, status.isTerminal⟩)
      (waited : (s.queue.feed 1).pending = status :: (t.queue.feed 1).pending) :
      Keeps (f.print status) status.isTerminal t := by
    have noEnd : told.find? Status.isTerminal = none := by
      rw [← ending, ← Option.not_isSome_iff_eq_none, known, unfinished]
      exact Bool.false_ne_true
    have printed : (f.print status).ending = if status.isTerminal then some status else none := by
      rw [Follower.print, ending, noEnd]
    refine ⟨keeps.job, by rw [readers, reader], ⟨told ++ [status], ?_, ?_, ?_⟩, ?_⟩
    · rw [Follower.print, lines, keeps.job, List.map_append]
      rfl
    · rw [accepted, ← whole, waited, List.append_assoc]
      rfl
    · rw [printed, List.find?_append, noEnd]
      cases isTerminal : status.isTerminal <;> simp [isTerminal]
    · rw [printed]
      cases status.isTerminal <;> rfl
  generalize hfeed : t.queue.feed 1 = feed at looks prints
  cases looks with
  | ended closed =>
      refine ⟨keeps.job, by rw [readers, ← closed], ⟨told, lines, ?_, ending⟩, known.trans closed⟩
      rw [hfeed, accepted, whole]
  | @oldest status rest unfinished waiting => exact ⟨_, prints unfinished rfl waiting⟩
  | @last status unfinished nothing terminal =>
      obtain rfl : finished = false := unfinished
      cases terminal.symm.trans (keeps.isOpen records nothing)
  | nothing unfinished nothing isOpen =>
      have still : finished = false := unfinished
      refine ⟨keeps.job, by rw [readers, still], ⟨told, lines, ?_, ending⟩, known.trans still⟩
      rw [hfeed, accepted, whole]

theorem Phase.Fits.publish {result : Except Fault Job}
    (step : Step (.fresh retention) (.publish payload result) t) :
    result = .ok (firstJob payload) ∧ (Phase.ofPublish result).Fits retention payload t ∧ t.queue.closed = false := by
  cases step with
  | publish accepts =>
      obtain ⟨-, rfl, rfl⟩ := Queue.publish_ok accepts
      exact ⟨rfl, ⟨rfl, rfl, rfl⟩, rfl⟩
  | publishRefused refuses => cases (Queue.publish_error refuses).1

/-- No other job has finished, so the table lists the feed of the first, also after it finished. -/
theorem listed_of_alone (run : Run retention moves s) (keepsOne : 0 < retention)
    (alone : ∀ m ∈ moves, Belongs payload m) (published : Move.publish payload (.ok (firstJob payload)) ∈ moves) :
    1 ∈ s.queue.listed := by
  rw [(Steps.listing run).listed]
  by_cases finished : Move.finish 1 ∈ moves
  · right
    have only : ∀ id ∈ finishedIn moves, id = 1 := by
      intro id hid
      obtain ⟨terminal, told⟩ := terminal_of_finish run (mem_finishedIn.mp hid)
      obtain ⟨w, hworker, -⟩ := decided_of_terminal run told
      obtain ⟨other, hother⟩ := published_of_worker run hworker
      cases alone _ hother
      rfl
    have few : (finishedIn moves).length ≤ 1 := by
      have once := finishedIn_nodup run
      rw [List.eq_replicate_of_mem only] at once
      exact List.nodup_replicate.mp once
    rw [(Steps.listing run).finished, Steps.retention_eq run, List.rtake,
      Nat.sub_eq_zero_of_le (Nat.le_trans few keepsOne), List.drop_zero]
    exact mem_finishedIn.mpr finished
  · exact .inl ⟨⟨payload, published⟩, finished⟩

theorem Sound.attaches {job : Job} (h : Sound retention payload events w) (run : Run retention (movesOf events) w.scene)
    (keepsOne : 0 < retention) (here : w.phase = .attaching job) :
    w.scene.queue.subscribe 1 = .ok { job := 1 } := by
  have listed := listed_of_alone run keepsOne h.alone (h.published.resolve_left (by rw [here]; nofun))
  rw [Queue.subscribe_of_open h.isOpen, if_pos listed]

theorem Phase.Fits.attach {result : Except Fault Reader} (none : s.readers = [])
    (waits : (s.queue.feed 1).pending = s.accepted 1) (attaches : s.queue.subscribe 1 = .ok { job := 1 })
    (step : Step s (.subscribe 1 result) t) :
    (Phase.ofSubscribe 1 result).Fits retention payload t ∧ t.queue = s.queue := by
  cases step with
  | subscribe gets =>
      rw [attaches] at gets
      cases gets
      refine ⟨⟨false, rfl, by simp [none], ⟨[], rfl, waits, rfl⟩, rfl⟩, rfl⟩
  | subscribeRefused refuses =>
      rw [attaches] at refuses
      cases refuses

theorem Sound.next (run : Run retention (movesOf events) w.scene) (keepsOne : 0 < retention)
    (h : Sound retention payload events w) (step : Watches payload w event v) :
    Sound retention payload (events ++ [event]) v := by
  have ⟨fits, isOpen, alone, published⟩ := h
  have records := (Steps.chronicled run 1).records
  have alone' (belongs : ∀ m ∈ movesOf [event], Belongs payload m) :
      ∀ m ∈ movesOf (events ++ [event]), Belongs payload m := by
    rw [movesOf_append]
    intro m hm
    exact (List.mem_append.mp hm).elim (alone m) (belongs m)
  have published' {before after : Phase} (here : w.phase = before) (begun : before ≠ .publishing) :
      after = .publishing ∨ Move.publish payload (.ok (firstJob payload)) ∈ movesOf (events ++ [event]) := by
    rw [movesOf_append]
    exact .inr (List.mem_append_left _ (published.resolve_left (here ▸ begun)))
  cases step with
  | @work m t isWork step =>
      refine ⟨fits.work step isWork, (step.of_isWork isWork).2.1.trans isOpen, alone' ?_, ?_⟩
      · simpa [movesOf, Event.move?] using belongs_of_isWork isWork
      · rw [movesOf_append]
        exact published.imp_right (List.mem_append_left _)
  | publish here step =>
      rw [here] at fits
      rw [show w.scene = .fresh retention from fits] at step
      obtain ⟨rfl, fits, isOpen⟩ := Phase.Fits.publish step
      refine ⟨fits, isOpen, alone' (by simp [movesOf, Event.move?, Belongs]), .inr ?_⟩
      rw [movesOf_append]
      exact List.mem_append_right _ (List.mem_singleton_self _)
  | attach here step =>
      rw [here] at fits
      obtain ⟨rfl, none, waits⟩ := fits
      obtain ⟨fits, same⟩ := Phase.Fits.attach none waits (h.attaches run keepsOne here) step
      refine ⟨fits, ?_, alone' (by simp [movesOf, Event.move?, Belongs]), published' here nofun⟩
      rw [same, isOpen]
  | @look f delivery t here step =>
      rw [here] at fits
      obtain ⟨finished, keeps⟩ := fits
      have same := (step.of_poll keeps.readers).1
      exact ⟨keeps.poll records step, same.trans isOpen, alone' (by simp [movesOf, Event.move?, Belongs]),
        published' here nofun⟩
  | @wake f delivery t here step =>
      rw [here] at fits
      have keeps : Keeps f false w.scene := fits
      have same := (step.of_poll keeps.readers).1
      have fits : (Phase.hear f (delivery.getD .keepAlive)).Fits retention payload t := by
        have looked : (Phase.ofLook f delivery).Fits retention payload t := keeps.poll records step
        cases delivery with
        | none => exact ⟨false, looked⟩
        | some delivery => exact looked
      exact ⟨fits, same.trans isOpen, alone' (by simp [movesOf, Event.move?, Belongs]), published' here nofun⟩
  | expire here =>
      rw [here] at fits
      exact ⟨⟨false, fits⟩, isOpen, alone' (by simp [movesOf, Event.move?]), published' here nofun⟩

theorem Watched.sound (watched : Watched retention payload events w) (keepsOne : 0 < retention) :
    Sound retention payload events w := by
  induction watched with
  | none => exact ⟨rfl, rfl, by simp [movesOf], .inl rfl⟩
  | next earlier step ih => exact ih.next (Watching.steps earlier) keepsOne step

end Command

end Gradebook
