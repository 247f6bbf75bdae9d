import Gradebook.Proofs.Jobs.Rehearsal.Readers

/-! The acts of a rehearsal. Whoever drives a rehearsal publishes and cancels jobs, attaches readers and lets
them wait for their deliveries, and closes the queue. Each act goes on by moves that those who use the queue can
make, the call of a publisher, a subscriber or a canceller with the result it answered among them. A rehearsal of
any acts is therefore a run of the queue, and all that holds of runs holds of it. -/

namespace Gradebook.Jobs.Rehearsal

variable {retention : Nat}

/-! ### Calls -/

/-- A job that is accepted has a number that no worker has, so its first task is nobody else's. -/
theorem publish_plays (payload : Payload) (script : Script) (r : Rehearsal) :
    PlaysOn retention r [.publish payload (r.publish payload script).1] [] (r.publish payload script).2 := by
  intro moves s plays
  let scripted : Rehearsal := { r with
    scripts := (payload.pupil, script) :: r.scripts
    longest := max r.longest script.length }
  have noted : Plays retention [] scripted moves s := ⟨plays.run, plays.queue, plays.assigned, plays.seated⟩
  unfold publish
  dsimp only
  split
  · next job queue accepts =>
    have accepts : s.queue.publish payload = (.ok job, queue) := plays.queue ▸ accepts
    obtain ⟨-, rfl, -⟩ := Queue.publish_ok accepts
    let accepted : Rehearsal := { scripted with queue }
    let job : Job := ⟨s.queue.nextId, payload⟩
    have begins : Plays retention [.start job] accepted (moves ++ [.publish payload (.ok job)])
        ((s.withQueue queue).withWorker job .accepted) := by
      have new : s.worker job.id = none := (Steps.chronicled plays.run _).worker_nextId
      refine ⟨plays.run.next (.publish accepts), rfl, ?_, noted.seated⟩
      exact noted.assigned.born rfl new (fun _ apart => if_neg apart) (if_pos rfl)
    obtain ⟨more, t, made, told, plays⟩ := (enqueue_goesOn (.start job) accepted).after begins
    exact ⟨more, t, made, .of_eq told, plays⟩
  · next fault queue refuses =>
    have refuses : s.queue.publish payload = (.error fault, queue) := plays.queue ▸ refuses
    exact ⟨[.publish payload (.error fault)], _, rfl, .refl _,
      noted.idle (fun _ => queue) (Steps.none.next (.publishRefused refuses)) rfl rfl rfl⟩

/-- A reader that attaches takes a new place, and whoever had its name before it stands up. -/
theorem subscribe_plays (id : JobId) (name : String) (r : Rehearsal) :
    PlaysOn retention r [.subscribe id (r.queue.subscribe id)] [] (r.subscribe id name).2 := by
  intro moves s plays
  unfold subscribe
  split
  · next reader attaches =>
    rw [attaches]
    have attaches : s.queue.subscribe id = .ok reader := plays.queue ▸ attaches
    have free : ∀ entry ∈ r.readers.filter (·.1 != name), entry.1 ≠ name := by
      intro entry among
      simpa using (List.mem_filter.mp among).2
    exact ⟨[.subscribe id (.ok reader)], _, rfl, .refl _, plays.run.next (.subscribe attaches), plays.queue,
      plays.assigned.congr rfl, (plays.seated.filter _).enter free⟩
  · next fault refuses =>
    rw [refuses]
    have refuses : s.queue.subscribe id = .error fault := plays.queue ▸ refuses
    exact ⟨[.subscribe id (.error fault)], _, rfl, .refl _,
      plays.idle (fun q => q) (Steps.none.next (.subscribeRefused refuses)) rfl rfl rfl⟩

/-- Nothing comes between the two halves of a cancellation. -/
theorem cancel_plays (id : JobId) (r : Rehearsal) :
    PlaysOn retention r [.takeToken id (r.cancel id).1] [] (r.cancel id).2 := by
  intro moves s plays
  obtain ⟨result, queue, takes⟩ : ∃ result queue, r.queue.takeToken id = (result, queue) := ⟨_, _, rfl⟩
  have takes' : s.queue.takeToken id = (result, queue) := plays.queue ▸ takes
  unfold cancel Queue.cancel
  rw [takes]
  cases result with
  | ok taken =>
      have steps : Steps s [.takeToken id (.ok ()), .fire id] _ :=
        (Steps.none.next (.takeToken takes')).next (.fire (List.mem_append_right _ List.mem_cons_self))
      have cancelled : Plays retention [] { r with queue := queue.fire id } _ _ :=
        plays.idle (fun _ => queue.fire id) steps rfl rfl rfl
      obtain ⟨more, t, made, told, plays⟩ :=
        (release_goesOn (fun w => w.job == id && w.hold.endsOnCancel) _).after cancelled
      exact ⟨more, t, made, .of_eq told, plays⟩
  | error fault =>
      exact ⟨[.takeToken id (.error fault)], _, rfl, .refl _,
        plays.idle (fun _ => queue) (Steps.none.next (.takeTokenRefused takes')) rfl rfl rfl⟩

theorem openGate_goesOn (name : String) (r : Rehearsal) : GoesOn retention [] r [] (r.openGate name) := by
  have opened : GoesOn retention [] r [] { r with openGates := name :: r.openGates } := .of_perm rfl rfl (.refl _)
  exact opened.trans (release_goesOn _ _)

theorem drop_plays (name : String) (r : Rehearsal) : PlaysOn retention r [] [] (r.drop name).2 := by
  intro moves s plays
  have left : Plays retention [] (r.drop name).2 moves s :=
    ⟨plays.run, plays.queue, plays.assigned, plays.seated.filter _⟩
  exact ⟨[], s, rfl, .refl _, (List.append_nil moves).symm ▸ left⟩

theorem sleep_goesOn (ms : Nat) (r : Rehearsal) : GoesOn retention [] r [] (r.sleep ms) := by
  unfold sleep
  split
  · exact spend_goesOn r
  · exact pass_goesOn _ _ r

theorem close_goesOn (r : Rehearsal) : GoesOn retention [] r [] r.close.2 := by
  unfold close
  dsimp only
  split
  · exact (shut_goesOn r).trans (pass_goesOn _ _ _)
  · exact shut_goesOn r

theorem closeLater_goesOn (r : Rehearsal) : GoesOn retention [] r [] r.closeLater := by
  have asked : GoesOn retention [] r [] { r with closing := .asked } := .of_perm rfl rfl (.refl _)
  exact (asked.trans (free_goesOn .shut rfl (fun _ => True.intro) _)).trans (enqueue_goesOn .shut _)

/-! ### Whole rehearsals -/

/-- What the driver of a rehearsal does. Two readers that wait at the same time are not the same. -/
inductive Act where
  | publish (payload : Payload) (script : Script)
  | subscribe (id : JobId) (name : String)
  | receive (name : String)
  | receiveBoth (first second : String) (apart : first ≠ second)
  | drain (name : String) (limit : Nat)
  | drop (name : String)
  | cancel (id : JobId)
  | openGate (name : String)
  | sleep (ms : Nat)
  | close
  | closeLater
  | settle

/-- The calls that an act makes of the queue, with what they answer. -/
def Act.calls (r : Rehearsal) : Act → List Move
  | .publish payload script => [.publish payload (r.publish payload script).1]
  | .subscribe id _ => [.subscribe id (r.queue.subscribe id)]
  | .cancel id => [.takeToken id (r.cancel id).1]
  | _ => []

/-- What readers are told in an act, and the rehearsal after it. -/
def Act.play (r : Rehearsal) : Act → List Delivery × Rehearsal
  | .publish payload script => ([], (r.publish payload script).2)
  | .subscribe id name => ([], (r.subscribe id name).2)
  | .receive name => ((r.receive name).1.toList, (r.receive name).2)
  | .receiveBoth first second _ => (toldBoth (r.receiveBoth first second).1, (r.receiveBoth first second).2)
  | .drain name limit => ((r.drain name limit).1.getD [], (r.drain name limit).2)
  | .drop name => ([], (r.drop name).2)
  | .cancel id => ([], (r.cancel id).2)
  | .openGate name => ([], r.openGate name)
  | .sleep ms => ([], r.sleep ms)
  | .close => ([], r.close.2)
  | .closeLater => ([], r.closeLater)
  | .settle => ([], r.settle)

theorem Act.plays (act : Act) (r : Rehearsal) :
    PlaysOn retention r (act.calls r) (heard (act.play r).1) (act.play r).2 := by
  cases act with
  | publish payload script => exact publish_plays payload script r
  | subscribe id name => exact subscribe_plays id name r
  | receive name => exact receive_plays name r
  | receiveBoth first second apart => exact receiveBoth_plays apart r
  | drain name limit => exact drain_plays name limit r
  | drop name => exact drop_plays name r
  | cancel id => exact cancel_plays id r
  | openGate name => exact (openGate_goesOn name r).playsOn
  | sleep ms => exact (sleep_goesOn ms r).playsOn
  | close => exact (close_goesOn r).playsOn
  | closeLater => exact (closeLater_goesOn r).playsOn
  | settle => exact (settle_goesOn r).playsOn

/-- One act after the other: the calls made, what readers were told, and the rehearsal in the end. -/
def playAll : List Act → Rehearsal → List Move × List Delivery × Rehearsal
  | [], r => ([], [], r)
  | act :: acts, r =>
    let (told, next) := act.play r
    let (later, rest, last) := playAll acts next
    (act.calls r ++ later, told ++ rest, last)

theorem playAll_plays (acts : List Act) (r : Rehearsal) :
    PlaysOn retention r (playAll acts r).1 (heard (playAll acts r).2.1) (playAll acts r).2.2 := by
  induction acts generalizing r with
  | nil => exact (GoesOn.refl r).playsOn
  | cons act acts ih =>
      rw [playAll, heard, List.filter_append]
      exact (act.plays r).trans (ih _)

/-- Every rehearsal is a run. Whatever acts are played with a queue that nobody has used yet, the queue is one that
a run comes to. In this run just the calls of the acts are made, with the same results, and the readers are given
just what they were told, signs of life apart. -/
theorem exists_run (heartbeat : Nat) (acts : List Act) :
    let (made, told, last) := playAll acts { queue := { retention }, heartbeat }
    ∃ moves s, Run retention moves s ∧ s.queue = last.queue ∧ calls moves = made ∧
      (handed moves).Perm (heard told) := by
  have begins : Plays retention [] { queue := { retention }, heartbeat } [] (Scene.fresh retention) :=
    ⟨.none, rfl, ⟨nofun, .nil⟩, fun _ => 0, nofun, .nil⟩
  obtain ⟨moves, s, made, told, plays⟩ := playAll_plays acts _ _ _ begins
  exact ⟨moves, s, plays.run, plays.queue, made, told⟩

end Gradebook.Jobs.Rehearsal
