import Gradebook.Jobs.Service
import Gradebook.Proofs.Jobs.Lifecycle

/-! A job that is followed with nothing in between: it is published, read from, and run to its end by the services. What
its reader is then given is what any reader of such a job is given, its opening and what its work came to. -/

namespace Gradebook.Jobs

namespace Queue

variable {id : JobId} {q : Queue}

/-- The reports of a job wait behind what waited before. -/
theorem feed_foldl_report (isOpen : (q.feed id).terminal = none) (details : List String) :
    ∃ feed feeds, details.foldl (fun q detail => q.report id detail) q = { q with feeds } ∧
      (details.foldl (fun q detail => q.report id detail) q).feed id = feed ∧
      feed.pending = (q.feed id).pending ++ details.map .running ∧ feed.terminal = none := by
  induction details generalizing q with
  | nil => exact ⟨_, _, rfl, rfl, by simp, isOpen⟩
  | cons detail rest ih =>
      have pushed : (q.report id detail).feed id = (q.feed id).push (.running detail) := by
        rw [report, feed_push, if_pos rfl]
      have still : ((q.report id detail).feed id).terminal = none := by
        rw [pushed, Feed.push_of_open isOpen]
        rfl
      obtain ⟨feed, feeds, same, told, pending, terminal⟩ := ih still
      refine ⟨feed, feeds, same, told, ?_, terminal⟩
      rw [pending, pushed, Feed.push_of_open isOpen]
      simp

/-- A reader that nothing interrupts is given what waits, up to the end. -/
theorem readAll_eq {reader : Reader} {told : List Status} {terminal : Status}
    (unfinished : reader.finished = false) (isOpen : ∀ status ∈ told, status.isTerminal = false)
    (last : terminal.isTerminal = true) (waits : (q.feed reader.job).pending = told ++ [terminal]) :
    (q.readAll reader (told.length + 2)).1 = told ++ [terminal] := by
  induction told generalizing q reader with
  | nil => simp [readAll, poll, Reader.poll, Feed.take, unfinished, waits, last]
  | cons status rest ih =>
      have looks : q.poll reader = (some (.status status), { reader with finished := false },
          q.withFeed reader.job { q.feed reader.job with pending := rest ++ [terminal] }) := by
        simp [poll, Reader.poll, Feed.take, unfinished, waits, isOpen status List.mem_cons_self]
      rw [List.length_cons, readAll, looks]
      dsimp only
      rw [ih rfl (fun s hs => isOpen s (List.mem_cons_of_mem _ hs)) (by rw [feed_withFeed, if_pos rfl])]
      rfl

end Queue

/-- A job that nobody cancels tells that it runs, what it reports, and what its work came to. -/
theorem runToEnd_eq (s : Sync.Service) (job : Job) {q : Queue} (isOpen : (q.feed job.id).terminal = none)
    (uncancelled : q.isCancelled job.id = false) (world : Sync.World) :
    let worked := execute s job.payload .never world
    ∃ q', runToEnd s job q world = (q', worked.2) ∧ (q'.feed job.id).pending =
      (q.feed job.id).pending ++ .running job.payload.text ::
        (worked.2.reports.drop world.reports.length).map .running ++
          [Queue.terminalOf job.id false (.returned worked.1)] := by
  intro worked
  have never : (fun _ => q.isCancelled job.id) = Sync.Cancellation.never := funext fun _ => uncancelled
  have started : (q.start job).feed job.id = (q.feed job.id).push (.running job.payload.text) := by
    rw [Queue.start, Queue.feed_push, if_pos rfl]
  have begun : ((q.start job).feed job.id).terminal = none := by
    rw [started, Feed.push_of_open isOpen]
    rfl
  obtain ⟨feed, feeds, same, told, pending, still⟩ :=
    Queue.feed_foldl_report begun (worked.2.reports.drop world.reports.length)
  refine ⟨_, by rw [runToEnd, never], ?_⟩
  change ((Queue.finish _ _ _).feed job.id).pending = _
  rw [Queue.feed_finish, Queue.feed_push, if_pos rfl, told, Feed.push_of_open still, pending, started,
    Feed.push_of_open isOpen, same]
  change _ ++ [Queue.terminalOf job.id (q.isCancelled job.id) _] = _
  rw [uncancelled]
  simp [worked]

/-- A job that is followed on a queue that nobody has used tells its opening and what its work came to. -/
theorem followThrough_fresh (s : Sync.Service) (payload : Payload) (retention : Nat) (world : Sync.World) :
    let worked := execute s payload .never world
    ∃ q, followThrough s payload false { retention } world =
      (.ok (⟨1, payload⟩, opening payload (worked.2.reports.drop world.reports.length) ++
        [Queue.terminalOf 1 false (.returned worked.1)]), q, worked.2) := by
  intro worked
  obtain ⟨published, publishes, isOpen, uncancelled, queued, attaches⟩ : ∃ q,
      Queue.publish payload { retention } = (.ok ⟨1, payload⟩, q) ∧ (q.feed 1).terminal = none ∧
        q.isCancelled 1 = false ∧ (q.feed 1).pending = [.queued] ∧ q.subscribe 1 = .ok { job := 1 } :=
    ⟨_, rfl, rfl, rfl, rfl, rfl⟩
  obtain ⟨q, runs, pending⟩ := runToEnd_eq s ⟨1, payload⟩ isOpen uncancelled world
  have waits : (q.feed 1).pending = opening payload (worked.2.reports.drop world.reports.length) ++
      [Queue.terminalOf 1 false (.returned worked.1)] := by
    rw [pending, queued]
    rfl
  let reader : Reader := { job := 1 }
  have fresh : reader.finished = false := rfl
  have reads := Queue.readAll_eq fresh (fun _ => not_isTerminal_of_mem_opening)
    (Status.isTerminal_terminalOf 1 false (.returned worked.1)) waits
  have limit : (q.feed 1).pending.length + 1 =
      (opening payload (worked.2.reports.drop world.reports.length)).length + 2 := by
    rw [waits, List.length_append, List.length_singleton]
  refine ⟨(q.readAll { job := 1 } ((q.feed 1).pending.length + 1)).2, ?_⟩
  unfold followThrough
  rw [publishes]
  dsimp only
  rw [attaches]
  simp only [Bool.false_eq_true, if_false, runs]
  rw [limit, ← reads]

end Gradebook.Jobs
