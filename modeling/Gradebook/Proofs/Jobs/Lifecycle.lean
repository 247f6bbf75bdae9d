import Gradebook.Proofs.Jobs.Runs

/-! The life of a job as its feed tells it. Three hands write to a feed: the publisher, the worker and the
executor's context, which may be kept for as long as anybody likes. Still every feed tells that its job was
queued, that it runs with what its payload says, what it reported, and one end. The invariant ties what a
feed has accepted to the stage of the worker and to the reports made so far. -/

namespace Gradebook.Jobs

variable {s t : Scene} {m : Move} {moves more : List Move} {id : JobId} {retention : Nat}

/-! ### Reports and openings -/

theorem reportsOf_append (id : JobId) (moves more : List Move) :
    reportsOf id (moves ++ more) = reportsOf id moves ++ reportsOf id more :=
  List.filterMap_append

theorem reportsOf_report (id job : JobId) (detail : String) :
    reportsOf id [.report job detail] = if job = id then [detail] else [] := by
  by_cases h : job = id <;> simp [reportsOf, h]

theorem not_isTerminal_of_mem_opening {payload : Payload} {details : List String} {status : Status}
    (hmem : status ∈ opening payload details) : status.isTerminal = false := by
  simp only [opening, List.mem_cons, List.mem_map] at hmem
  rcases hmem with rfl | rfl | ⟨detail, -, rfl⟩ <;> rfl

theorem opening_append (payload : Payload) (details : List String) (detail : String) :
    opening payload (details ++ [detail]) = opening payload details ++ [.running detail] := by
  simp [opening]

/-! ### The invariant -/

/-- What a job has told when its worker is at a stage and these are the details it reported. After the end
come reports that nobody hears of. -/
def Worker.Tells (w : Worker) (reported : List String) (accepted : List Status) : Prop :=
  match w.stage with
  | .accepted => accepted = [.queued] ∧ reported = []
  | .working => accepted = opening w.job.payload reported
  | .ended _ => accepted = opening w.job.payload reported
  | .decided => ∃ details terminal, details <+: reported ∧ terminal.isTerminal = true ∧
      accepted = opening w.job.payload details ++ [terminal]
  | .returned => ∃ details terminal, details <+: reported ∧ terminal.isTerminal = true ∧
      accepted = opening w.job.payload details ++ [terminal]

/-- Before the end of a job is decided its feed holds a part of the opening, all of it once the job has
started; afterwards it holds an opening and an end. -/
theorem Worker.Tells.split {w : Worker} {reported : List String} {accepted : List Status}
    (h : w.Tells reported accepted) :
    (w.stage.rank < 3 ∧ accepted <+: opening w.job.payload reported ∧
      (1 ≤ w.stage.rank → accepted = opening w.job.payload reported)) ∨
    (3 ≤ w.stage.rank ∧ ∃ details terminal, details <+: reported ∧ terminal.isTerminal = true ∧
      accepted = opening w.job.payload details ++ [terminal]) := by
  obtain ⟨job, stage⟩ := w
  cases stage with
  | accepted =>
      obtain ⟨rfl, rfl⟩ := h
      exact Or.inl ⟨Nat.zero_lt_succ 2, ⟨[.running job.payload.text], rfl⟩, fun hrank => nomatch hrank⟩
  | working =>
      have haccepted : accepted = opening job.payload reported := h
      exact Or.inl ⟨Nat.lt_of_lt_of_le Nat.one_lt_two (Nat.le_succ 2), haccepted ▸ List.prefix_rfl,
        fun _ => haccepted⟩
  | ended ending =>
      have haccepted : accepted = opening job.payload reported := h
      exact Or.inl ⟨Nat.lt_succ_self 2, haccepted ▸ List.prefix_rfl, fun _ => haccepted⟩
  | decided => exact Or.inr ⟨Nat.le_refl 3, h⟩
  | returned => exact Or.inr ⟨Nat.le_succ 3, h⟩

/-- A number is that of an accepted job, which has told what its stage says, or is still to be given. -/
structure Chronicled (moves : List Move) (s : Scene) (id : JobId) : Prop where
  records : (s.queue.feed id).Records (s.accepted id)
  unborn : s.worker id = none → s.accepted id = [] ∧ reportsOf id moves = []
  numbered : ∀ w, s.worker id = some w → w.job.id = id ∧ id < s.queue.nextId
  tells : ∀ w, s.worker id = some w → w.Tells (reportsOf id moves) (s.accepted id)

namespace Chronicled

/-- A step that concerns other jobs only. -/
theorem of_same (h : Chronicled moves s id) (step : Step s m t) (hworker : t.worker id = s.worker id)
    (haccepted : t.accepted id = s.accepted id) (hreports : reportsOf id [m] = []) :
    Chronicled (moves ++ [m]) t id where
  records := step.records h.records
  unborn hnone := by
    rw [haccepted, reportsOf_append, hreports, List.append_nil]
    exact h.unborn (hworker ▸ hnone)
  numbered w hw := by
    obtain ⟨hjob, hlt⟩ := h.numbered w (hworker ▸ hw)
    exact ⟨hjob, Int.lt_of_lt_of_le hlt step.nextId_le⟩
  tells w hw := by
    rw [haccepted, reportsOf_append, hreports, List.append_nil]
    exact h.tells w (hworker ▸ hw)

/-- A step in which the worker of the job itself comes to a stage. -/
theorem of_stage {job : Job} {stage : Stage} (h : Chronicled moves s id) (step : Step s m t)
    (hid : id = job.id) (hworker : t.worker id = some ⟨job, stage⟩) (hlt : id < t.queue.nextId)
    (htells : (Worker.mk job stage).Tells (reportsOf id (moves ++ [m])) (t.accepted id)) :
    Chronicled (moves ++ [m]) t id where
  records := step.records h.records
  unborn hnone := by simp [hworker] at hnone
  numbered w hw := by
    rw [hworker] at hw
    cases hw
    exact ⟨hid.symm, hlt⟩
  tells w hw := by
    rw [hworker] at hw
    cases hw
    exact htells

/-! ### The job's own steps -/

/-- The next number is new, for every job has a smaller one. -/
theorem worker_nextId (h : Chronicled moves s s.queue.nextId) : s.worker s.queue.nextId = none := by
  cases hw : s.worker s.queue.nextId with
  | none => rfl
  | some w => exact absurd (h.numbered w hw).2 (Int.lt_irrefl _)

theorem published {payload : Payload} {q : Queue} (h : Chronicled moves s s.queue.nextId)
    (step : Step s m ((s.withQueue q).withWorker ⟨s.queue.nextId, payload⟩ .accepted))
    (pushes : q.feed = (s.queue.push s.queue.nextId .queued).feed) (next : q.nextId = s.queue.nextId + 1)
    (silent : reportsOf s.queue.nextId [m] = []) :
    Chronicled (moves ++ [m]) ((s.withQueue q).withWorker ⟨s.queue.nextId, payload⟩ .accepted)
      s.queue.nextId := by
  obtain ⟨hempty, hreports⟩ := h.unborn h.worker_nextId
  have hlt : s.queue.nextId < q.nextId := by
    rw [next]
    exact Int.lt_succ _
  refine h.of_stage step rfl (if_pos rfl) hlt ⟨?_, ?_⟩
  · refine (Scene.accepted_of_push h.records (by simp [hempty]) pushes).trans ?_
    rw [hempty]
    rfl
  · rw [reportsOf_append, hreports, silent]
    rfl

theorem started {job : Job} (h : Chronicled moves s job.id)
    (waits : s.worker job.id = some ⟨job, .accepted⟩) :
    Chronicled (moves ++ [.start job.id])
      ((s.withQueue (s.queue.start job)).withWorker job .working) job.id := by
  obtain ⟨hqueued, hreports⟩ := h.tells _ waits
  refine h.of_stage (.start waits) rfl (if_pos rfl) (h.numbered _ waits).2 ?_
  have hopen : ∀ status ∈ s.accepted job.id, status.isTerminal = false := by
    rw [hqueued]
    simp [Status.isTerminal]
  have haccepted := Scene.accepted_of_push (q := s.queue.start job) h.records hopen rfl
  rw [reportsOf_append, hreports]
  change (s.withQueue (s.queue.start job)).accepted job.id = _
  rw [haccepted, hqueued]
  rfl

/-- A report is told until the end is, and is not accepted after that. -/
theorem reported {w : Worker} {detail : String} (h : Chronicled moves s id) (known : s.worker id = some w)
    (begun : w.stage ≠ .accepted) :
    Chronicled (moves ++ [.report id detail]) (s.withQueue (s.queue.report id detail)) id := by
  have step : Step s (.report id detail) (s.withQueue (s.queue.report id detail)) := .report known begun
  have hreports : reportsOf id (moves ++ [.report id detail]) = reportsOf id moves ++ [detail] := by
    rw [reportsOf_append, reportsOf_report, if_pos rfl]
  refine h.of_stage step (h.numbered w known).1.symm known (h.numbered w known).2 ?_
  rw [hreports]
  have htells := h.tells w known
  obtain ⟨job, stage⟩ := w
  cases stage with
  | accepted => exact absurd rfl begun
  | working | ended ending =>
      have hopen : ∀ status ∈ s.accepted id, status.isTerminal = false := by
        rw [show s.accepted id = _ from htells]
        exact fun _ => not_isTerminal_of_mem_opening
      have haccepted := Scene.accepted_of_push (q := s.queue.report id detail) h.records hopen rfl
      change (s.withQueue _).accepted id = _
      rw [haccepted, show s.accepted id = _ from htells, opening_append]
  | decided | returned =>
      obtain ⟨details, terminal, hbegin, hterminal, haccepted⟩ := htells
      have hmem : terminal ∈ s.accepted id := by simp [haccepted]
      have hkept := step.accepted_of_terminal h.records hmem hterminal
      exact ⟨details, terminal, hbegin.trans (List.prefix_append _ _), hterminal,
        hkept.trans haccepted⟩

theorem concluded {job : Job} {ending : Ending} (h : Chronicled moves s job.id)
    (works : s.worker job.id = some ⟨job, .working⟩) :
    Chronicled (moves ++ [.conclude job.id ending]) (s.withWorker job (.ended ending)) job.id := by
  refine h.of_stage (.conclude works) rfl (if_pos rfl) (h.numbered _ works).2 ?_
  rw [reportsOf_append]
  exact (h.tells _ works).trans (by simp [reportsOf])

theorem finished {job : Job} {ending : Ending} (h : Chronicled moves s job.id)
    (ends : s.worker job.id = some ⟨job, .ended ending⟩) :
    Chronicled (moves ++ [.finish job.id])
      ((s.withQueue (s.queue.finish job.id ending)).withWorker job .decided) job.id := by
  have htells : s.accepted job.id = opening job.payload (reportsOf job.id moves) := h.tells _ ends
  have hopen : ∀ status ∈ s.accepted job.id, status.isTerminal = false := by
    rw [htells]
    exact fun _ => not_isTerminal_of_mem_opening
  have haccepted := Scene.accepted_of_push h.records hopen (Queue.feed_finish job.id ending s.queue)
  refine h.of_stage (.finish ends) rfl (if_pos rfl) (h.numbered _ ends).2 ?_
  refine ⟨reportsOf job.id moves, Queue.terminalOf job.id (s.queue.isCancelled job.id) ending, ?_,
    Status.isTerminal_terminalOf _ _ _, ?_⟩
  · rw [reportsOf_append]
    exact List.prefix_append _ _
  · exact haccepted.trans (by rw [htells])

theorem left {job : Job} (h : Chronicled moves s job.id)
    (decided : s.worker job.id = some ⟨job, .decided⟩) :
    Chronicled (moves ++ [.leave job.id])
      ((s.withQueue (s.queue.leave job.id)).withWorker job .returned) job.id := by
  have hsame : (s.withQueue (s.queue.leave job.id)).accepted = s.accepted :=
    Scene.accepted_withQueue_of_feed rfl
  refine h.of_stage (.leave decided) rfl (if_pos rfl) (h.numbered _ decided).2 ?_
  obtain ⟨details, terminal, hbegin, hterminal, haccepted⟩ := h.tells _ decided
  refine ⟨details, terminal, ?_, hterminal, (congrFun hsame job.id).trans haccepted⟩
  rw [reportsOf_append]
  exact hbegin.trans (List.prefix_append _ _)

end Chronicled

/-- One step of the queue's users: it is the job's own, or the job's feed and worker stay as they are. -/
theorem Chronicled.next (h : Chronicled moves s id) (step : Step s m t) :
    Chronicled (moves ++ [m]) t id := by
  have step' := step
  cases step with
  | @publish payload job q accepts =>
      obtain ⟨-, rfl, rfl⟩ := Queue.publish_ok accepts
      by_cases hid : id = s.queue.nextId
      · subst hid
        exact h.published step' rfl rfl rfl
      · exact h.of_same step' (if_neg hid) (Scene.accepted_of_push_other hid rfl) rfl
  | @start job waits =>
      by_cases hid : id = job.id
      · subst hid
        exact h.started waits
      · exact h.of_same step' (if_neg hid) (Scene.accepted_of_push_other hid rfl) rfl
  | @report job w detail known begun =>
      by_cases hid : id = job
      · subst hid
        exact h.reported known begun
      · refine h.of_same step' rfl (Scene.accepted_of_push_other hid rfl) ?_
        rw [reportsOf_report, if_neg (Ne.symm hid)]
  | @conclude job ending works =>
      by_cases hid : id = job.id
      · subst hid
        exact h.concluded works
      · exact h.of_same step' (if_neg hid) rfl rfl
  | @finish job ending ends =>
      by_cases hid : id = job.id
      · subst hid
        exact h.finished ends
      · exact h.of_same step' (if_neg hid)
          (Scene.accepted_of_push_other hid (Queue.feed_finish job.id ending s.queue)) rfl
  | @leave job decided =>
      by_cases hid : id = job.id
      · subst hid
        exact h.left decided
      · exact h.of_same step' (if_neg hid) (congrFun (Scene.accepted_withQueue_of_feed rfl) id) rfl
  | publishRefused refuses =>
      obtain ⟨-, -, rfl⟩ := Queue.publish_error refuses
      exact h.of_same step' rfl (congrFun (Scene.accepted_withQueue_of_feed rfl) id) rfl
  | takeToken takes =>
      obtain ⟨-, rfl⟩ := Queue.takeToken_ok takes
      exact h.of_same step' rfl (congrFun (Scene.accepted_withQueue_of_feed rfl) id) rfl
  | takeTokenRefused refuses =>
      obtain ⟨-, -, rfl⟩ := Queue.takeToken_error refuses
      exact h.of_same step' rfl (congrFun (Scene.accepted_withQueue_of_feed rfl) id) rfl
  | fire held | shut => exact h.of_same step' rfl (congrFun (Scene.accepted_withQueue_of_feed rfl) id) rfl
  | subscribe attaches | subscribeRefused refuses | closed shut drained => exact h.of_same step' rfl rfl rfl
  | poll here polls => exact h.of_same step' rfl (Scene.accepted_of_poll polls id) rfl

/-! ### Every run -/

theorem Steps.chronicled (run : Run retention moves s) (id : JobId) : Chronicled moves s id := by
  induction run with
  | none =>
      exact ⟨Feed.Records.empty, fun _ => ⟨rfl, rfl⟩, (fun w hw => nomatch hw),
        (fun w hw => nomatch hw)⟩
  | next _ step ih => exact ih.next step

/-- Whatever comes after a run, a worker keeps its job and goes forward. -/
theorem Steps.worker (run : Run retention moves s) (steps : Steps s more t) {w : Worker}
    (hw : s.worker id = some w) :
    ∃ stage, t.worker id = some ⟨w.job, stage⟩ ∧ w.stage.rank ≤ stage.rank := by
  induction steps with
  | none => exact ⟨w.stage, hw, Nat.le_refl _⟩
  | @next moves' t' m' u earlier step ih =>
      obtain ⟨stage, hstage, hrank⟩ := ih
      have hlt := (((run.append earlier).chronicled id).numbered _ hstage).2
      obtain ⟨later, hlater, hle⟩ := step.worker hstage hlt
      exact ⟨later, hlater, Nat.le_trans hrank hle⟩

/-- Whatever comes after a run, a feed that has told an end accepts nothing more. -/
theorem Steps.accepted_of_terminal (run : Run retention moves s) (steps : Steps s more t)
    {terminal : Status} (hmem : terminal ∈ s.accepted id) (isTerminal : terminal.isTerminal = true) :
    t.accepted id = s.accepted id := by
  induction steps with
  | none => rfl
  | next earlier step ih =>
      have hrecords := ((run.append earlier).chronicled id).records
      exact (step.accepted_of_terminal hrecords (ih.symm ▸ hmem) isTerminal).trans ih

/-- An end in a feed's history is the last status there, and the feed's own. -/
theorem Chronicled.ended (h : Chronicled moves s id) {payload : Payload} {details : List String}
    {terminal : Status} (haccepted : s.accepted id = opening payload details ++ [terminal])
    (isTerminal : terminal.isTerminal = true) :
    (s.accepted id).getLast? = some terminal ∧ (s.queue.feed id).terminal = some terminal := by
  have hfind : (opening payload details).find? Status.isTerminal = none := by
    rw [List.find?_eq_none]
    intro status hmem
    simp [not_isTerminal_of_mem_opening hmem]
  refine ⟨by simp [haccepted], ?_⟩
  rw [h.records.terminal, haccepted, List.find?_append, hfind]
  simp [isTerminal]

theorem worker_of_publish (run : Run retention moves s) {payload : Payload} {job : Job}
    (hmem : Move.publish payload (.ok job) ∈ moves) :
    job.payload = payload ∧ ∃ stage, s.worker job.id = some ⟨job, stage⟩ := by
  obtain ⟨before, after, u, v, rfl, hbefore, hstep, hafter⟩ := Steps.split run hmem
  have hrun : Run retention (before ++ [.publish payload (.ok job)]) v := hbefore.next hstep
  cases hstep with
  | publish accepts =>
      obtain ⟨-, rfl, -⟩ := Queue.publish_ok accepts
      obtain ⟨stage, hstage, -⟩ := Steps.worker hrun hafter (if_pos rfl)
      exact ⟨rfl, stage, hstage⟩

/-- A worker is as far as any move of the past has brought it. -/
theorem rank_of_mem (run : Run retention moves s) (hmem : m ∈ moves) {rank : Nat}
    (brings : ∀ u v, Step u m v → ∃ w, v.worker id = some w ∧ rank ≤ w.stage.rank) {w : Worker}
    (hw : s.worker id = some w) : rank ≤ w.stage.rank := by
  obtain ⟨before, after, u, v, rfl, hbefore, hstep, hafter⟩ := Steps.split run hmem
  have hrun : Run retention (before ++ [m]) v := hbefore.next hstep
  obtain ⟨brought, hbrought, hrank⟩ := brings u v hstep
  obtain ⟨stage, hstage, hle⟩ := Steps.worker hrun hafter hbrought
  rw [hstage] at hw
  cases hw
  exact Nat.le_trans hrank hle

theorem rank_of_start (run : Run retention moves s) (hmem : Move.start id ∈ moves) {w : Worker}
    (hw : s.worker id = some w) : 1 ≤ w.stage.rank := by
  refine rank_of_mem run hmem (fun u v step => ?_) hw
  cases step with
  | @start job waits => exact ⟨⟨job, .working⟩, if_pos rfl, Nat.le_refl 1⟩

theorem rank_of_finish (run : Run retention moves s) (hmem : Move.finish id ∈ moves) {w : Worker}
    (hw : s.worker id = some w) : 3 ≤ w.stage.rank := by
  refine rank_of_mem run hmem (fun u v step => ?_) hw
  cases step with
  | @finish job ending ends => exact ⟨⟨job, .decided⟩, if_pos rfl, Nat.le_refl 3⟩

theorem rank_of_leave (run : Run retention moves s) (hmem : Move.leave id ∈ moves) {w : Worker}
    (hw : s.worker id = some w) : 4 ≤ w.stage.rank := by
  refine rank_of_mem run hmem (fun u v step => ?_) hw
  cases step with
  | @leave job decided => exact ⟨⟨job, .returned⟩, if_pos rfl, Nat.le_refl 4⟩

/-- The move that brought the worker of a job to a stage has been made. -/
def Stage.Reached (moves : List Move) (id : JobId) : Stage → Prop
  | .accepted => True
  | .working => Move.start id ∈ moves
  | .ended ending => Move.conclude id ending ∈ moves
  | .decided => Move.finish id ∈ moves
  | .returned => Move.finish id ∈ moves

theorem Stage.Reached.append {stage : Stage} (h : stage.Reached moves id) (more : List Move) :
    stage.Reached (moves ++ more) id := by
  cases stage with
  | accepted => trivial
  | _ => exact List.mem_append_left _ h

theorem reached_of_worker (run : Run retention moves s) {w : Worker} (hw : s.worker id = some w) :
    w.stage.Reached moves id := by
  induction run generalizing w with
  | none => cases hw
  | @next moves u m t earlier step ih =>
      -- where a step gives some job a worker at a stage, only that job need be looked at
      have given {job : Job} {stage : Stage} (r : Scene) (hr : r.worker = u.worker)
          (h : (r.withWorker job stage).worker id = some w)
          (hreached : id = job.id → stage.Reached (moves ++ [m]) id) :
          w.stage.Reached (moves ++ [m]) id := by
        rw [Scene.worker_withWorker, hr] at h
        split at h
        · next hid =>
          cases h
          exact hreached hid
        · exact (ih h).append [m]
      have last (h : m ∈ [m]) : m ∈ moves ++ [m] := List.mem_append_right _ h
      cases step with
      | publish accepts => exact given _ rfl hw fun _ => trivial
      | start waits => exact given _ rfl hw fun hid => hid ▸ last (List.mem_singleton_self _)
      | conclude works => exact given _ rfl hw fun hid => hid ▸ last (List.mem_singleton_self _)
      | finish ends => exact given _ rfl hw fun hid => hid ▸ last (List.mem_singleton_self _)
      | @leave job decided =>
          refine given _ rfl hw fun hid => ?_
          subst hid
          exact (ih decided).append _
      | _ => exact (ih hw).append _

/-- An end is decided by the move that finishes the job, and by no other. -/
theorem finish_mem_of_rank (run : Run retention moves s) {w : Worker} (hw : s.worker id = some w)
    (hrank : 3 ≤ w.stage.rank) : Move.finish id ∈ moves := by
  have hreached := reached_of_worker run hw
  obtain ⟨job, stage⟩ := w
  cases stage with
  | decided | returned => exact hreached
  | accepted | working | ended ending => exact absurd hrank (by simp [Stage.rank])

/-- **Every feed tells one life.** What the feed of a published job has accepted is the beginning of: queued,
running with what the payload says, running with reported details in their order, and one end. While the
job works the feed has taken every report. Once an end was accepted nothing is, whatever happens, and the
end stays. A job that has returned has an end. -/
theorem feed_tells_lifecycle (run : Run retention moves s) {payload : Payload} {job : Job}
    (published : Move.publish payload (.ok job) ∈ moves) :
    (∃ details terminal, details <+: reportsOf job.id moves ∧ terminal.isTerminal = true ∧
      s.accepted job.id <+: opening payload details ++ [terminal]) ∧
    (Move.start job.id ∈ moves → Move.finish job.id ∉ moves →
      s.accepted job.id = opening payload (reportsOf job.id moves)) ∧
    (∀ terminal ∈ s.accepted job.id, terminal.isTerminal = true → ∀ more t, Steps s more t →
      t.accepted job.id = s.accepted job.id ∧ (t.queue.feed job.id).terminal = some terminal) ∧
    (Move.leave job.id ∈ moves → ∃ terminal, terminal.isTerminal = true ∧
      (s.accepted job.id).getLast? = some terminal ∧
      (s.queue.feed job.id).terminal = some terminal) := by
  obtain ⟨rfl, stage, hworker⟩ := worker_of_publish run published
  have chronicled := Steps.chronicled run job.id
  rcases (chronicled.tells _ hworker).split with
    ⟨hrank, hbegin, hall⟩ | ⟨hrank, details, terminal, hdetails, isTerminal, haccepted⟩
  · have hopen : ∀ status ∈ s.accepted job.id, status.isTerminal = false :=
      fun status hmem => not_isTerminal_of_mem_opening (hbegin.subset hmem)
    refine ⟨⟨reportsOf job.id moves, .cancelled, List.prefix_rfl, rfl,
      hbegin.trans (List.prefix_append _ _)⟩, ?_, ?_, ?_⟩
    · intro started _
      exact hall (rank_of_start run started hworker)
    · intro terminal hmem isTerminal
      simp [hopen terminal hmem] at isTerminal
    · intro left
      have hfour := rank_of_leave run left hworker
      omega
  · refine ⟨⟨details, terminal, hdetails, isTerminal, haccepted ▸ List.prefix_rfl⟩, ?_, ?_, ?_⟩
    · intro _ unfinished
      exact absurd (finish_mem_of_rank run hworker hrank) unfinished
    · intro terminal' hmem isTerminal' more t steps
      have hsame : terminal' = terminal := by
        rw [haccepted, List.mem_append, List.mem_singleton] at hmem
        rcases hmem with hmem | rfl
        · simp [not_isTerminal_of_mem_opening hmem] at isTerminal'
        · rfl
      subst hsame
      exact ⟨Steps.accepted_of_terminal run steps hmem isTerminal,
        steps.terminal_eq (chronicled.ended haccepted isTerminal).2⟩
    · intro _
      exact ⟨terminal, isTerminal, chronicled.ended haccepted isTerminal⟩

/-- A job for one pupil. -/
def sampleJob : Job := ⟨1, .students ⟨7, 1, false⟩⟩

/-- On a queue that keeps no finished jobs, a job reports, is cancelled while it works, and reports once
more after its end. -/
theorem feed_tells_lifecycle_late_report : ∃ moves s, Run 0 moves s ∧
    Move.publish sampleJob.payload (.ok sampleJob) ∈ moves ∧ reportsOf 1 moves = ["a", "b"] ∧
    s.accepted 1 = opening sampleJob.payload ["a"] ++ [.cancelled] ∧
    ∀ more t, Steps s more t →
      t.accepted 1 = s.accepted 1 ∧ (t.queue.feed 1).terminal = some .cancelled := by
  have published : Run 0 [.publish sampleJob.payload (.ok sampleJob)] _ := .next .none (.publish rfl)
  have started := published.next (@Step.start _ sampleJob rfl)
  have reported := started.next (@Step.report _ 1 ⟨sampleJob, .working⟩ "a" rfl nofun)
  have taken := reported.next (@Step.takeToken _ 1 _ rfl)
  have fired := taken.next (@Step.fire _ 1 (List.mem_singleton_self 1))
  have concluded := fired.next (@Step.conclude _ sampleJob (.returned (.ok {})) rfl)
  have finished := concluded.next (@Step.finish _ sampleJob _ rfl)
  have again := finished.next (@Step.report _ 1 ⟨sampleJob, .decided⟩ "b" rfl nofun)
  have told := feed_tells_lifecycle again (List.mem_cons_self ..)
  have ended : Status.cancelled ∈ opening sampleJob.payload ["a"] ++ [.cancelled] :=
    List.mem_append_right _ (List.mem_singleton_self _)
  exact ⟨_, _, again, List.mem_cons_self .., rfl, rfl, told.2.2.1 .cancelled ended rfl⟩

end Gradebook.Jobs
