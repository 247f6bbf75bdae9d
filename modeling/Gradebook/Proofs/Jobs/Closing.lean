import Gradebook.Proofs.Jobs.Outcomes

/-! Closing a queue against those who still publish. A job is waited for from the step in which the queue accepts it,
and the same step looks whether the queue is closed. So whoever publishes against a call to close is refused or
waited for, and once the call has returned every job that was ever accepted has told its end. -/

namespace Gradebook.Jobs

variable {s t u : Scene} {m : Move} {moves more : List Move} {id : JobId} {retention : Nat}

/-! ### Whom the queue waits for -/

/-- The queue waits for the workers that have not returned. -/
theorem Steps.tracked_iff (run : Run retention moves s) (id : JobId) :
    id ∈ s.queue.tracked ↔ ∃ w, s.worker id = some w ∧ w.stage ≠ .returned := by
  induction run with
  | none => exact ⟨nofun, fun ⟨_, hw, _⟩ => nomatch hw⟩
  | @next moves s m t earlier step ih =>
      -- a worker that goes on without returning is waited for before and after
      have goesOn {job : Job} {before : Stage} (hjob : s.worker job.id = some ⟨job, before⟩)
          (hbefore : before ≠ .returned) (after : Stage) (hafter : after ≠ .returned) (r : Scene)
          (hr : r.worker = s.worker) (htracked : r.queue.tracked = s.queue.tracked) :
          id ∈ (r.withWorker job after).queue.tracked ↔
            ∃ w, (r.withWorker job after).worker id = some w ∧ w.stage ≠ .returned := by
        change id ∈ r.queue.tracked ↔ _
        rw [htracked, ih, Scene.worker_withWorker, hr]
        split
        · next hid =>
          subst hid
          exact iff_of_true ⟨_, hjob, hbefore⟩ ⟨_, rfl, hafter⟩
        · exact Iff.rfl
      cases step with
      | @publish payload job q accepts =>
          obtain ⟨-, rfl, rfl⟩ := Queue.publish_ok accepts
          change id ∈ s.queue.tracked ++ [s.queue.nextId] ↔ _
          rw [List.mem_append, List.mem_singleton, ih, Scene.worker_withWorker]
          split
          · next hid => exact iff_of_true (Or.inr hid) ⟨_, rfl, nofun⟩
          · next hid => exact or_iff_left hid
      | start waits => exact goesOn waits nofun .working nofun _ rfl rfl
      | @conclude job ending works => exact goesOn works nofun (.ended ending) nofun _ rfl rfl
      | finish ends => exact goesOn ends nofun .decided nofun _ rfl rfl
      | @leave job decided =>
          change id ∈ s.queue.tracked.filter (· != job.id) ↔ _
          rw [List.mem_filter, ih, Scene.worker_withWorker]
          split
          · next hid => simp [hid]
          · next hid => exact and_iff_left (by simpa using hid)
      | publishRefused refuses =>
          obtain ⟨-, -, rfl⟩ := Queue.publish_error refuses
          exact ih
      | takeToken takes =>
          obtain ⟨-, rfl⟩ := Queue.takeToken_ok takes
          exact ih
      | takeTokenRefused refuses =>
          obtain ⟨-, -, rfl⟩ := Queue.takeToken_error refuses
          exact ih
      | poll here polls =>
          obtain ⟨feeds, rfl⟩ := Queue.poll_frame polls
          exact ih
      | subscribe | subscribeRefused | fire | shut | closed | report => exact ih

/-- Nobody is left to wait for when every worker has returned. -/
theorem isDrained_iff (run : Run retention moves s) :
    s.queue.isDrained = true ↔ ∀ id w, s.worker id = some w → w.stage = .returned := by
  rw [Queue.isDrained, List.isEmpty_iff, List.eq_nil_iff_forall_not_mem]
  refine forall_congr' fun id => ?_
  rw [Steps.tracked_iff run, not_exists]
  simp only [not_and, Classical.not_not]

/-- Where nobody is left to wait for, every accepted job has told its end. -/
theorem terminal_of_isDrained (run : Run retention moves s) (drained : s.queue.isDrained = true)
    (published : Published id moves) :
    ∃ terminal, terminal.isTerminal = true ∧ (s.accepted id).getLast? = some terminal ∧
      (s.queue.feed id).terminal = some terminal := by
  obtain ⟨payload, hmem⟩ := published
  obtain ⟨-, stage, hworker⟩ := worker_of_publish run hmem
  obtain rfl : stage = .returned := (isDrained_iff run).mp drained id _ hworker
  have chronicled := Steps.chronicled run id
  obtain ⟨details, terminal, -, isTerminal, haccepted⟩ := chronicled.tells _ hworker
  exact ⟨terminal, isTerminal, chronicled.ended haccepted isTerminal⟩

/-! ### After the flag is set -/

/-- Closing sets the flag and leaves every worker alone. -/
theorem Step.of_shut {wasOpen : Bool} (step : Step s m t) (shuts : m = .shut wasOpen) :
    t.queue.closed = true ∧ t.worker = s.worker := by
  cases step with
  | shut => exact ⟨rfl, rfl⟩
  | _ => cases shuts

theorem Step.of_closed (step : Step s .closed t) : s.queue.isDrained = true ∧ t = s := by
  cases step with
  | closed shut drained => exact ⟨drained, rfl⟩

/-- A queue that was closed stays closed. -/
theorem Step.closed_of_closed (step : Step s m t) (closed : s.queue.closed = true) : t.queue.closed = true := by
  cases step with
  | publish accepts =>
      obtain ⟨isOpen, -⟩ := Queue.publish_ok accepts
      rw [isOpen] at closed
      cases closed
  | publishRefused refuses =>
      obtain ⟨-, -, rfl⟩ := Queue.publish_error refuses
      exact closed
  | takeToken takes =>
      obtain ⟨-, rfl⟩ := Queue.takeToken_ok takes
      exact closed
  | takeTokenRefused refuses =>
      obtain ⟨-, -, rfl⟩ := Queue.takeToken_error refuses
      exact closed
  | poll here polls =>
      obtain ⟨feeds, rfl⟩ := Queue.poll_frame polls
      exact closed
  | shut => rfl
  | _ => exact closed

theorem Steps.closed_of_closed (steps : Steps s more t) (closed : s.queue.closed = true) :
    t.queue.closed = true := by
  induction steps with
  | none => exact closed
  | next _ step ih => exact step.closed_of_closed ih

theorem Queue.publish_of_closed {q : Queue} (closed : q.closed = true) (payload : Payload) :
    q.publish payload = (.error closedFault, q) :=
  if_pos closed

theorem Queue.subscribe_of_closed {q : Queue} (closed : q.closed = true) (id : JobId) :
    q.subscribe id = .error closedFault :=
  if_pos closed

/-- A closed queue brings no worker into being. -/
theorem unborn_of_closed (steps : Steps s more t) (closed : s.queue.closed = true)
    (unborn : s.worker id = none) : t.worker id = none := by
  induction steps with
  | none => exact unborn
  | @next moves t m u earlier step ih =>
      cases born : u.worker id with
      | none => rfl
      | some w =>
          have isOpen := (step.accepts_of_worker ih born).1
          rw [earlier.closed_of_closed closed] at isOpen
          cases isOpen

/-- Whom a closed queue starts was accepted before and waited. -/
theorem waiting_of_start (run : Run retention moves s) (steps : Steps s more t) (closed : s.queue.closed = true)
    (started : Move.start id ∈ more) : ∃ job, s.worker id = some ⟨job, .accepted⟩ := by
  obtain ⟨before, after, u, v, rfl, hbefore, hstep, -⟩ := Steps.split steps started
  cases hstep with
  | @start job waits =>
      cases hworker : s.worker job.id with
      | none =>
          rw [unborn_of_closed hbefore closed hworker] at waits
          cases waits
      | some w =>
          obtain ⟨stage, hstage, hrank⟩ := Steps.worker run hbefore hworker
          rw [hstage] at waits
          cases waits
          obtain ⟨job, stage⟩ := w
          cases stage with
          | accepted => exact ⟨job, rfl⟩
          | _ => exact absurd hrank (Nat.not_succ_le_zero _)

/-- A closed queue that waits for nobody never waits for anybody again. -/
theorem isDrained_of_closed (run : Run retention moves s) (steps : Steps s more t) (closed : s.queue.closed = true)
    (drained : s.queue.isDrained = true) : t.queue.isDrained = true := by
  rw [isDrained_iff (run.append steps)]
  intro id w hw
  cases hworker : s.worker id with
  | none =>
      rw [unborn_of_closed steps closed hworker] at hw
      cases hw
  | some before =>
      obtain ⟨stage, hstage, hrank⟩ := Steps.worker run steps hworker
      rw [hstage] at hw
      cases hw
      rw [(isDrained_iff run).mp drained id _ hworker] at hrank
      cases stage with
      | returned => rfl
      | _ => exact absurd hrank (by simp [Stage.rank])

/-- **Closing drains.** From the moment a call to close has set the flag, whoever publishes or subscribes is refused
and no job is started: no worker comes into being, and a worker that still begins its work has a job that was accepted
before, so that the call waits for it. The call can return just when every worker has returned; once it has, every job
that was ever accepted has its end in its feed, and no worker begins its work any more. -/
theorem close_drains (run : Run retention moves s) (shuts : Step s (.shut true) t) (steps : Steps t more u) :
    (∀ payload, u.queue.publish payload = (.error Queue.closedFault, u.queue)) ∧
    (∀ id, u.queue.subscribe id = .error Queue.closedFault) ∧ Queue.closedFault.kind = .internal ∧
    (∀ id, s.worker id = none → u.worker id = none) ∧
    (∀ id, Move.start id ∈ more → ∃ job, s.worker id = some ⟨job, .accepted⟩) ∧
    ((∃ v, Step u .closed v) ↔ ∀ id w, u.worker id = some w → w.stage = .returned) ∧
    (∀ earlier later, more = earlier ++ .closed :: later →
      (∀ id, Published id (moves ++ .shut true :: more) → ∃ terminal, terminal.isTerminal = true ∧
        (u.accepted id).getLast? = some terminal ∧ (u.queue.feed id).terminal = some terminal) ∧
      ∀ id, Move.start id ∉ later) := by
  obtain ⟨flag, sameWorkers⟩ := shuts.of_shut rfl
  have begins : Run retention (moves ++ [.shut true]) t := run.next shuts
  have whole : Run retention (moves ++ .shut true :: more) u := by
    have appended := Steps.append begins steps
    rwa [List.append_assoc, List.singleton_append] at appended
  have closed := steps.closed_of_closed flag
  refine ⟨fun payload => Queue.publish_of_closed closed payload, Queue.subscribe_of_closed closed, rfl, ?_, ?_, ?_, ?_⟩
  · intro id unborn
    exact unborn_of_closed steps flag (sameWorkers ▸ unborn)
  · intro id started
    obtain ⟨job, waits⟩ := waiting_of_start begins steps flag started
    exact ⟨job, sameWorkers ▸ waits⟩
  · rw [← isDrained_iff whole]
    constructor
    · rintro ⟨v, step⟩
      exact step.of_closed.1
    · intro drained
      exact ⟨u, .closed closed drained⟩
  · rintro earlier later rfl
    obtain ⟨v, v', before, returns, after⟩ := steps.around rfl
    obtain ⟨drained, rfl⟩ := returns.of_closed
    have untilReturn : Run retention ((moves ++ [.shut true]) ++ earlier) v' := Steps.append begins before
    have flagged := before.closed_of_closed flag
    refine ⟨fun id published => ?_, fun id started => ?_⟩
    · exact terminal_of_isDrained whole (isDrained_of_closed untilReturn after flagged drained) published
    · obtain ⟨job, waits⟩ := waiting_of_start untilReturn after flagged started
      cases (isDrained_iff untilReturn).mp drained id _ waits

/-- A job is accepted just before the flag is set and begins to run only after it, while a second publisher comes too
late: the call to close returns after the first job has failed. -/
theorem close_drains_waiting_job : ∃ moves s t more u, Run 0 moves s ∧ Step s (.shut true) t ∧ Steps t more u ∧
    Published 1 moves ∧ Move.publish sampleJob.payload (.error Queue.closedFault) ∈ more ∧ Move.start 1 ∈ more ∧
    Move.closed ∈ more ∧ ∃ terminal, terminal.isTerminal = true ∧ (u.accepted 1).getLast? = some terminal ∧
      (u.queue.feed 1).terminal = some terminal := by
  let opened : Scene := ((Scene.fresh 0).withQueue (Queue.publish sampleJob.payload { retention := 0 }).2).withWorker
    sampleJob .accepted
  let shut : Scene := opened.withQueue opened.queue.shut.2
  have published : Run 0 [.publish sampleJob.payload (.ok sampleJob)] opened := .next .none (.publish rfl)
  have shuts : Step opened (.shut true) shut := @Step.shut opened
  have refused : Steps shut [.publish sampleJob.payload (.error Queue.closedFault)] _ :=
    .next .none (.publishRefused rfl)
  have concluded := (refused.next (@Step.start _ sampleJob rfl)).next
    (@Step.conclude _ sampleJob (.returned (.error (.notFound "pupil 7"))) rfl)
  have finished := (concluded.next (@Step.finish _ sampleJob _ rfl)).next (@Step.leave _ sampleJob rfl)
  have returned := finished.next (.closed rfl rfl)
  obtain ⟨-, -, -, -, -, -, drains⟩ := close_drains published shuts returned
  have accepted : Published 1 [.publish sampleJob.payload (.ok sampleJob)] :=
    ⟨sampleJob.payload, List.mem_singleton_self _⟩
  refine ⟨_, _, _, _, _, published, shuts, returned, accepted, by simp, by simp [sampleJob], by simp, ?_⟩
  exact (drains _ [] rfl).1 1 (accepted.append _)

end Gradebook.Jobs
