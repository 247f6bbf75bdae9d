import Gradebook.Proofs.Jobs.Lifecycle

/-! Cancelling a job against its own end. A cancellation takes the token out of the table and fires it later;
finishing decides by whether the token has fired. So it is the order of firing and finishing that decides,
and a cancellation that has taken the token is too late all the same when the job finishes before it
fires. -/

namespace Gradebook.Jobs

variable {s t : Scene} {m : Move} {moves more : List Move} {id : JobId} {retention : Nat}

theorem Queue.terminalOf_eq_cancelled_iff {id : JobId} {cancelled : Bool} {ending : Ending} :
    Queue.terminalOf id cancelled ending = .cancelled ↔ cancelled = true := by
  unfold Queue.terminalOf
  cases cancelled with
  | true => simp
  | false =>
      simp only [Bool.false_eq_true, ↓reduceIte, iff_false]
      split <;> nofun

/-! ### Tokens -/

/-- Where the token of a job can be: in the table while the job lives, with a cancellation that took it, and
among the fired ones once that cancellation has fired it. -/
structure Tokened (moves : List Move) (s : Scene) (id : JobId) : Prop where
  live : id ∈ s.queue.tokens → ∃ w, s.worker id = some w ∧ w.stage.rank < 3
  held : id ∈ s.firing → Move.takeToken id (.ok ()) ∈ moves
  fired : id ∈ s.queue.fired ↔ Move.fire id ∈ moves
  taken : Move.fire id ∈ moves → Move.takeToken id (.ok ()) ∈ moves

namespace Tokened

/-- A step that leaves the tokens where they are. -/
theorem of_same (h : Tokened moves s id)
    (live : id ∈ t.queue.tokens → ∃ w, t.worker id = some w ∧ w.stage.rank < 3)
    (hfiring : t.firing = s.firing) (hfired : t.queue.fired = s.queue.fired)
    (hm : ∀ job, m ≠ .fire job) : Tokened (moves ++ [m]) t id where
  live := live
  held hheld := List.mem_append_left _ (h.held (hfiring ▸ hheld))
  fired := by
    rw [hfired, h.fired, List.mem_append, List.mem_singleton]
    exact ⟨Or.inl, fun hmem => hmem.resolve_right (hm id).symm⟩
  taken hmem := by
    rw [List.mem_append, List.mem_singleton] at hmem
    exact List.mem_append_left _ (h.taken (hmem.resolve_right (hm id).symm))

/-- A token moves from the table to the cancellation that took it. -/
theorem takes {job : JobId} {q : Queue} (h : Tokened moves s id) (takes : s.queue.takeToken job = (.ok (), q)) :
    Tokened (moves ++ [.takeToken job (.ok ())]) { s.withQueue q with firing := s.firing ++ [job] } id := by
  obtain ⟨-, rfl⟩ := Queue.takeToken_ok takes
  refine ⟨fun hmem => h.live (List.mem_filter.mp hmem).1, ?_, ?_, ?_⟩
  · intro hheld
    rcases List.mem_append.mp hheld with hheld | hheld
    · exact List.mem_append_left _ (h.held hheld)
    · rw [List.mem_singleton] at hheld
      exact hheld ▸ List.mem_append_right _ (List.mem_singleton_self _)
  · rw [List.mem_append, List.mem_singleton]
    exact h.fired.trans ⟨Or.inl, fun hmem => hmem.resolve_right nofun⟩
  · intro hmem
    rw [List.mem_append, List.mem_singleton] at hmem
    exact List.mem_append_left _ (h.taken (hmem.resolve_right nofun))

/-- A token that a cancellation holds is fired. -/
theorem fires {job : JobId} (h : Tokened moves s id) (held : job ∈ s.firing) :
    Tokened (moves ++ [.fire job])
      { s.withQueue (s.queue.fire job) with firing := s.firing.erase job } id := by
  refine ⟨h.live, ?_, ?_, ?_⟩
  · intro hheld
    exact List.mem_append_left _ (h.held (List.mem_of_mem_erase hheld))
  · change id ∈ s.queue.fired ++ [job] ↔ _
    rw [List.mem_append, List.mem_append, h.fired, List.mem_singleton, List.mem_singleton, Move.fire.injEq]
  · intro hmem
    rw [List.mem_append, List.mem_singleton, Move.fire.injEq] at hmem
    rcases hmem with hmem | rfl
    · exact List.mem_append_left _ (h.taken hmem)
    · exact List.mem_append_left _ (h.held held)

theorem next (h : Tokened moves s id) (step : Step s m t) : Tokened (moves ++ [m]) t id := by
  have given {job : Job} {stage : Stage} (r : Scene) (hr : r.worker = s.worker)
      (hrank : stage.rank < 3) (hmem : id ∈ s.queue.tokens) :
      ∃ w, (r.withWorker job stage).worker id = some w ∧ w.stage.rank < 3 := by
    rw [Scene.worker_withWorker, hr]
    split
    · exact ⟨⟨job, stage⟩, rfl, hrank⟩
    · exact h.live hmem
  cases step with
  | @publish payload job q accepts =>
      obtain ⟨-, rfl, rfl⟩ := Queue.publish_ok accepts
      refine h.of_same (fun hmem => ?_) rfl rfl nofun
      rcases List.mem_append.mp hmem with hmem | hmem
      · exact given _ rfl (by decide) hmem
      · exact ⟨⟨_, .accepted⟩, if_pos (List.mem_singleton.mp hmem), Nat.zero_lt_succ 2⟩
  | start waits => exact h.of_same (given _ rfl (by decide)) rfl rfl nofun
  | conclude works => exact h.of_same (given _ rfl (Nat.lt_succ_self 2)) rfl rfl nofun
  | @finish job ending ends =>
      refine h.of_same (fun hmem => ?_) rfl rfl nofun
      obtain ⟨hmem, hne⟩ := List.mem_filter.mp hmem
      have hid : id ≠ job.id := by simpa using hne
      rw [Scene.worker_withWorker, if_neg hid]
      exact h.live hmem
  | @leave job decided =>
      refine h.of_same (fun hmem => ?_) rfl rfl nofun
      rw [Scene.worker_withWorker]
      split
      · next hid =>
        -- a decided job has no token any more
        subst hid
        obtain ⟨w, hw, hrank⟩ := h.live hmem
        rw [show s.worker job.id = _ from decided] at hw
        cases hw
        exact absurd hrank (Nat.lt_irrefl 3)
      · exact h.live hmem
  | takeToken takes => exact h.takes takes
  | fire held => exact h.fires held
  | publishRefused refuses =>
      obtain ⟨-, -, rfl⟩ := Queue.publish_error refuses
      exact h.of_same h.live rfl rfl nofun
  | takeTokenRefused refuses =>
      obtain ⟨-, -, rfl⟩ := Queue.takeToken_error refuses
      exact h.of_same h.live rfl rfl nofun
  | poll here polls =>
      obtain ⟨feeds, rfl⟩ := Queue.poll_frame polls
      exact h.of_same h.live rfl rfl nofun
  | subscribe | subscribeRefused | shut | closed | report => exact h.of_same h.live rfl rfl nofun

end Tokened

theorem Steps.tokened (run : Run retention moves s) (id : JobId) : Tokened moves s id := by
  induction run with
  | none => exact ⟨nofun, nofun, ⟨nofun, nofun⟩, nofun⟩
  | next _ step ih => exact ih.next step

/-! ### Firing against finishing -/

/-- A job whose feed shows an end has been decided. -/
theorem decided_of_terminal (run : Run retention moves s) {terminal : Status}
    (told : (s.queue.feed id).terminal = some terminal) :
    ∃ w, s.worker id = some w ∧ 3 ≤ w.stage.rank := by
  have chronicled := Steps.chronicled run id
  have hfind := chronicled.records.terminal.symm.trans told
  have hmem : terminal ∈ s.accepted id := List.mem_of_find?_eq_some hfind
  have isTerminal : terminal.isTerminal = true := List.find?_some hfind
  cases hworker : s.worker id with
  | none =>
      rw [(chronicled.unborn hworker).1] at hmem
      cases hmem
  | some w =>
      rcases (chronicled.tells w hworker).split with ⟨-, hbegin, -⟩ | ⟨hrank, -⟩
      · simp [not_isTerminal_of_mem_opening (hbegin.subset hmem)] at isTerminal
      · exact ⟨w, rfl, hrank⟩

/-- Once a job is decided nobody takes its token. -/
theorem not_taken_of_decided (run : Run retention moves s) {w : Worker} (hw : s.worker id = some w)
    (hrank : 3 ≤ w.stage.rank) (steps : Steps s more t) : Move.takeToken id (.ok ()) ∉ more := by
  intro hmem
  obtain ⟨before, after, u, v, rfl, hbefore, hstep, -⟩ := Steps.split steps hmem
  obtain ⟨stage, hstage, hle⟩ := Steps.worker run hbefore hw
  cases hstep with
  | takeToken takes =>
      obtain ⟨htoken, -⟩ := Queue.takeToken_ok takes
      obtain ⟨w', hw', hlt⟩ := (Steps.tokened (run.append hbefore) id).live htoken
      rw [hstage] at hw'
      cases hw'
      exact Nat.not_lt.mpr (Nat.le_trans hrank hle) hlt

/-- The end that a feed shows was decided in one move, by how the job's work ended and by whether the token
had fired by then. -/
theorem terminal_decided (run : Run retention moves s) {terminal : Status}
    (told : (s.queue.feed id).terminal = some terminal) :
    ∃ before after ending cancelled, moves = before ++ .finish id :: after ∧
      Move.conclude id ending ∈ before ∧ Move.takeToken id (.ok ()) ∉ after ∧
      (cancelled = true ↔ Move.fire id ∈ before) ∧
      terminal = Queue.terminalOf id cancelled ending := by
  obtain ⟨w, hworker, hrank⟩ := decided_of_terminal run told
  obtain ⟨before, after, u, v, rfl, hbefore, hstep, hafter⟩ :=
    Steps.split run (finish_mem_of_rank run hworker hrank)
  have hrun : Run retention before u := hbefore
  have hthen : Run retention (before ++ [.finish id]) v := hbefore.next hstep
  cases hstep with
  | @finish job ending ends =>
      have htells : u.accepted job.id = opening job.payload (reportsOf job.id before) :=
        (Steps.chronicled hrun job.id).tells _ ends
      have hopen : (u.queue.feed job.id).terminal = none := by
        rw [(Steps.chronicled hrun job.id).records.terminal, htells, List.find?_eq_none]
        intro status hmem
        simp [not_isTerminal_of_mem_opening hmem]
      have hend : ((u.queue.finish job.id ending).feed job.id).terminal =
          some (Queue.terminalOf job.id (u.queue.isCancelled job.id) ending) := by
        rw [Queue.feed_finish, Queue.feed_push, if_pos rfl, Feed.push_of_open hopen]
        exact if_pos (Status.isTerminal_terminalOf _ _ _)
      refine ⟨before, after, ending, u.queue.isCancelled job.id, rfl, reached_of_worker hrun ends,
        not_taken_of_decided hthen (if_pos rfl) (Nat.le_refl 3) hafter, ?_, ?_⟩
      · rw [Queue.isCancelled, List.contains_iff_mem]
        exact (Steps.tokened hrun job.id).fired
      · exact Option.some.inj (told.symm.trans (Steps.terminal_eq hafter hend))

/-- **What a cancellation achieves.** A cancellation that returned has taken the token before the job was
finished. If it also fired before, the job was cancelled, whatever became of its work; if it fired after,
the job ended as its work did. -/
theorem cancelled_iff_fired_before_finish (run : Run retention moves s)
    (taken : Move.takeToken id (.ok ()) ∈ moves) (returned : Move.fire id ∈ moves) {terminal : Status}
    (told : (s.queue.feed id).terminal = some terminal) :
    ∃ before after ending, moves = before ++ .finish id :: after ∧
      Move.takeToken id (.ok ()) ∈ before ∧ Move.conclude id ending ∈ before ∧
      (terminal = .cancelled ↔ Move.fire id ∈ before) ∧
      (Move.fire id ∉ before → terminal = Queue.terminalOf id false ending) := by
  obtain ⟨before, after, ending, cancelled, rfl, concluded, untaken, hfired, rfl⟩ :=
    terminal_decided run told
  refine ⟨before, after, ending, rfl, ?_, concluded, ?_, ?_⟩
  · rw [List.mem_append, List.mem_cons] at taken
    exact taken.resolve_right fun h => h.elim nofun untaken
  · rw [Queue.terminalOf_eq_cancelled_iff, hfired]
  · intro unfired
    rw [Bool.eq_false_iff.mpr (mt hfired.mp unfired)]

/-- A job whose work is done finishes after a cancellation took its token and before the token fires. -/
theorem exists_late_firing : ∃ s, Run 1024 [.publish sampleJob.payload (.ok sampleJob), .start 1,
      .conclude 1 (.returned (.ok {})), .takeToken 1 (.ok ()), .finish 1, .fire 1] s ∧
    (s.queue.feed 1).terminal = some (.done {}) := by
  have published : Run 1024 [.publish sampleJob.payload (.ok sampleJob)] _ :=
    .next .none (.publish rfl)
  have started := published.next (@Step.start _ sampleJob rfl)
  have concluded := started.next (@Step.conclude _ sampleJob (.returned (.ok {})) rfl)
  have taken := concluded.next (@Step.takeToken _ 1 _ rfl)
  have finished := taken.next (@Step.finish _ sampleJob _ rfl)
  exact ⟨_, finished.next (@Step.fire _ 1 (List.mem_singleton_self 1)), rfl⟩

theorem cancelled_iff_fired_before_finish_late : ∃ moves s, Run 1024 moves s ∧
    Move.takeToken 1 (.ok ()) ∈ moves ∧ Move.fire 1 ∈ moves ∧
    (s.queue.feed 1).terminal = some (.done {}) ∧
    ∃ before after ending, moves = before ++ .finish 1 :: after ∧
      Move.takeToken 1 (.ok ()) ∈ before ∧ Move.conclude 1 ending ∈ before ∧
      (Status.done {} = .cancelled ↔ Move.fire 1 ∈ before) ∧
      (Move.fire 1 ∉ before → Status.done {} = Queue.terminalOf 1 false ending) := by
  obtain ⟨s, run, told⟩ := exists_late_firing
  have taken : Move.takeToken 1 (.ok ()) ∈ [Move.publish sampleJob.payload (.ok sampleJob), .start 1,
      .conclude 1 (.returned (.ok {})), .takeToken 1 (.ok ()), .finish 1, .fire 1] := by simp
  exact ⟨_, s, run, taken, by simp, told, cancelled_iff_fired_before_finish run taken (by simp) told⟩

/-- So a cancellation that returned does not promise a cancelled job. -/
theorem cancelled_job_can_be_done : ¬ ∀ retention moves s id terminal, Run retention moves s →
    Move.takeToken id (.ok ()) ∈ moves → Move.fire id ∈ moves →
    (s.queue.feed id).terminal = some terminal → terminal = .cancelled := by
  intro decides
  obtain ⟨s, run, told⟩ := exists_late_firing
  have hcancelled := decides 1024 _ s 1 (.done {}) run (by simp) (by simp) told
  cases hcancelled

end Gradebook.Jobs
