import Gradebook.Proofs.Jobs.Queue

/-! Steps and runs of the queue among those who use it. Whatever the step, a feed stays as it is, is read or
gets one push, so what it accepted tells its terminal status, and a worker only goes forward. -/

namespace Gradebook.Jobs

/-- A feed next to all it has accepted: the terminal status is the first terminal one, and what still waits
are the last ones accepted. -/
structure Feed.Records (feed : Feed) (accepted : List Status) : Prop where
  terminal : feed.terminal = accepted.find? Status.isTerminal
  pushes : feed.pushes = accepted.length
  pending : feed.pending <:+ accepted

namespace Feed.Records

variable {feed : Feed} {accepted : List Status}

theorem empty : Feed.Records {} [] := ⟨rfl, rfl, List.suffix_rfl⟩

theorem take (h : feed.Records accepted) : feed.take.2.Records accepted where
  terminal := by rw [take_terminal, h.terminal]
  pushes := by rw [take_pushes, h.pushes]
  pending := by
    have hp := h.pending
    unfold Feed.take
    split
    · next rest heq =>
      rw [heq] at hp
      exact (List.suffix_cons _ _).trans hp
    · exact hp

theorem push (h : feed.Records accepted) (status : Status) :
    (feed.push status).Records (accepted ++ feed.gained (feed.push status)) := by
  rw [gained_push]
  cases hterminal : feed.terminal with
  | some t => simpa [push_of_ended, hterminal] using h
  | none =>
      have hfind : accepted.find? Status.isTerminal = none := by rw [← h.terminal, hterminal]
      rw [push_of_open hterminal]
      refine ⟨?_, ?_, ?_⟩
      · cases hs : status.isTerminal <;> simp [List.find?_append, hfind, hs]
      · simp [h.pushes]
      · obtain ⟨earlier, rfl⟩ := h.pending
        exact ⟨earlier, by simp⟩

/-- A feed that accepted no terminal status accepts the next push. -/
theorem gained_push_open (h : feed.Records accepted) (isOpen : ∀ s ∈ accepted, s.isTerminal = false)
    (status : Status) : feed.gained (feed.push status) = [status] := by
  have hterminal : feed.terminal = none := by
    rw [h.terminal, List.find?_eq_none]
    intro s hs
    simp [isOpen s hs]
  rw [gained_push, hterminal]
  rfl

/-- A feed that accepted a terminal status accepts nothing more. -/
theorem gained_push_ended (h : feed.Records accepted) {terminal : Status} (hmem : terminal ∈ accepted)
    (isTerminal : terminal.isTerminal = true) (status : Status) :
    feed.gained (feed.push status) = [] := by
  have hterminal : feed.terminal.isSome = true := by
    rw [h.terminal, List.find?_isSome]
    exact ⟨terminal, hmem, isTerminal⟩
  rw [gained_push, if_pos hterminal]

end Feed.Records

variable {s t u : Scene} {m : Move} {moves more : List Move} {id : JobId}

namespace Scene

theorem accepted_withQueue (q : Queue) (s : Scene) (id : JobId) :
    (s.withQueue q).accepted id = s.accepted id ++ (s.queue.feed id).gained (q.feed id) := rfl

theorem accepted_withQueue_of_feed {q : Queue} (h : q.feed = s.queue.feed) :
    (s.withQueue q).accepted = s.accepted := by
  funext id
  rw [accepted_withQueue, h, Feed.gained_self, List.append_nil]

theorem worker_withWorker (job : Job) (stage : Stage) (s : Scene) (id : JobId) :
    (s.withWorker job stage).worker id = if id = job.id then some ⟨job, stage⟩ else s.worker id := rfl

end Scene

theorem Scene.accepted_of_poll {q : Queue} {reader reader' : Reader} {delivery : Option Delivery}
    (polls : s.queue.poll reader = (delivery, reader', q)) (id : JobId) :
    (s.withQueue q).accepted id = s.accepted id := by
  rw [accepted_withQueue]
  rcases Queue.poll_feed polls id with hfeed | hfeed
  · rw [hfeed, Feed.gained_self, List.append_nil]
  · rw [hfeed, Feed.gained_take, List.append_nil]

theorem Scene.accepted_of_push_other {q : Queue} {job : JobId} {status : Status} (hne : id ≠ job)
    (h : q.feed = (s.queue.push job status).feed) : (s.withQueue q).accepted id = s.accepted id := by
  rw [accepted_withQueue, h, Queue.feed_push, if_neg hne, Feed.gained_self, List.append_nil]

theorem Scene.accepted_of_push {q : Queue} {status : Status}
    (records : (s.queue.feed id).Records (s.accepted id))
    (isOpen : ∀ status ∈ s.accepted id, status.isTerminal = false)
    (h : q.feed = (s.queue.push id status).feed) :
    (s.withQueue q).accepted id = s.accepted id ++ [status] := by
  rw [accepted_withQueue, h, Queue.feed_push, if_pos rfl, records.gained_push_open isOpen]

/-! ### What a step does to a feed -/

theorem Step.feed (step : Step s m t) (id : JobId) :
    t.queue.feed id = s.queue.feed id ∨ t.queue.feed id = (s.queue.feed id).take.2 ∨
      ∃ status, t.queue.feed id = (s.queue.feed id).push status := by
  have ofPush {q : Queue} (job : JobId) (status : Status)
      (h : q.feed = (s.queue.push job status).feed) :
      q.feed id = s.queue.feed id ∨ q.feed id = (s.queue.feed id).take.2 ∨
        ∃ status, q.feed id = (s.queue.feed id).push status := by
    rw [h, Queue.feed_push]
    split
    · next hid => exact Or.inr (Or.inr ⟨status, by rw [hid]⟩)
    · exact Or.inl rfl
  cases step with
  | publish accepts =>
      obtain ⟨-, -, rfl⟩ := Queue.publish_ok accepts
      exact ofPush s.queue.nextId .queued rfl
  | publishRefused refuses =>
      obtain ⟨-, -, rfl⟩ := Queue.publish_error refuses
      exact Or.inl rfl
  | takeToken takes =>
      obtain ⟨-, rfl⟩ := Queue.takeToken_ok takes
      exact Or.inl rfl
  | takeTokenRefused refuses =>
      obtain ⟨-, -, rfl⟩ := Queue.takeToken_error refuses
      exact Or.inl rfl
  | @start job waits => exact ofPush job.id (.running job.payload.text) rfl
  | @report job w detail known begun => exact ofPush job (.running detail) rfl
  | @finish job ending ends => exact ofPush job.id _ (Queue.feed_finish job.id ending s.queue)
  | poll here polls =>
      exact (Queue.poll_feed polls id).imp_right Or.inl
  | subscribe | subscribeRefused | fire | shut | closed | conclude | leave => exact Or.inl rfl

theorem Step.accepted_eq (step : Step s m t) (id : JobId) :
    t.accepted id = s.accepted id ++ (s.queue.feed id).gained (t.queue.feed id) := by
  have unchanged : s.accepted id = s.accepted id ++ (s.queue.feed id).gained (s.queue.feed id) := by
    rw [Feed.gained_self, List.append_nil]
  cases step with
  | subscribe | subscribeRefused | closed | conclude => exact unchanged
  | _ => rfl

theorem Step.records (step : Step s m t) (h : (s.queue.feed id).Records (s.accepted id)) :
    (t.queue.feed id).Records (t.accepted id) := by
  rw [step.accepted_eq id]
  rcases step.feed id with hfeed | hfeed | ⟨status, hfeed⟩
  · rwa [hfeed, Feed.gained_self, List.append_nil]
  · rw [hfeed, Feed.gained_take, List.append_nil]
    exact h.take
  · rw [hfeed]
    exact h.push status

/-- An end stays. -/
theorem Step.terminal_eq (step : Step s m t) {terminal : Status}
    (h : (s.queue.feed id).terminal = some terminal) : (t.queue.feed id).terminal = some terminal := by
  rcases step.feed id with hfeed | hfeed | ⟨status, hfeed⟩
  · rwa [hfeed]
  · rwa [hfeed, Feed.take_terminal]
  · rwa [hfeed, Feed.push_of_ended (by simp [h])]

/-- Once a feed has accepted a terminal status, no step makes it accept anything. -/
theorem Step.accepted_of_terminal (step : Step s m t) (h : (s.queue.feed id).Records (s.accepted id))
    {terminal : Status} (hmem : terminal ∈ s.accepted id) (isTerminal : terminal.isTerminal = true) :
    t.accepted id = s.accepted id := by
  rw [step.accepted_eq id]
  rcases step.feed id with hfeed | hfeed | ⟨status, hfeed⟩
  · rw [hfeed, Feed.gained_self, List.append_nil]
  · rw [hfeed, Feed.gained_take, List.append_nil]
  · rw [hfeed, h.gained_push_ended hmem isTerminal, List.append_nil]

/-! ### What a step does to a worker -/

/-- A worker keeps its job and goes forward. -/
theorem Step.worker (step : Step s m t) {w : Worker} (hw : s.worker id = some w)
    (hnumber : id < s.queue.nextId) :
    ∃ stage, t.worker id = some ⟨w.job, stage⟩ ∧ w.stage.rank ≤ stage.rank := by
  have unchanged : s.worker id = some ⟨w.job, w.stage⟩ := hw
  have advance {job : Job} {earlier : Stage} (hjob : s.worker job.id = some ⟨job, earlier⟩)
      (later : Stage) (hrank : earlier.rank ≤ later.rank) (r : Scene) (hr : r.worker = s.worker) :
      ∃ stage, (r.withWorker job later).worker id = some ⟨w.job, stage⟩ ∧
        w.stage.rank ≤ stage.rank := by
    rw [Scene.worker_withWorker, hr]
    split
    · next hid =>
      rw [hid, hjob] at hw
      cases hw
      exact ⟨later, rfl, hrank⟩
    · exact ⟨w.stage, unchanged, Nat.le_refl _⟩
  cases step with
  | publish accepts =>
      obtain ⟨-, rfl, rfl⟩ := Queue.publish_ok accepts
      have hne : id ≠ s.queue.nextId := Int.ne_of_lt hnumber
      exact ⟨w.stage, by rw [Scene.worker_withWorker, if_neg hne]; exact unchanged, Nat.le_refl _⟩
  | start waits => exact advance waits .working (Nat.le_succ 0) _ rfl
  | @conclude job ending works => exact advance works (.ended ending) (Nat.le_succ 1) _ rfl
  | finish ends => exact advance ends .decided (Nat.le_succ 2) _ rfl
  | leave decided => exact advance decided .returned (Nat.le_succ 3) _ rfl
  | _ => exact ⟨w.stage, unchanged, Nat.le_refl _⟩

/-- A worker comes into being only where an open queue accepts its job. -/
theorem Step.accepts_of_worker (step : Step s m t) (unborn : s.worker id = none) {w : Worker}
    (born : t.worker id = some w) :
    s.queue.closed = false ∧ ∃ payload, m = .publish payload (.ok ⟨id, payload⟩) := by
  have known {job : Job} {earlier later : Stage} (hjob : s.worker job.id = some ⟨job, earlier⟩) (r : Scene)
      (hr : r.worker = s.worker) : (r.withWorker job later).worker id ≠ some w := by
    rw [Scene.worker_withWorker, hr]
    split
    · next hid =>
      rw [hid, hjob] at unborn
      cases unborn
    · rw [unborn]
      exact nofun
  cases step with
  | @publish payload job q accepts =>
      obtain ⟨isOpen, rfl, rfl⟩ := Queue.publish_ok accepts
      refine ⟨isOpen, payload, ?_⟩
      rw [Scene.worker_withWorker] at born
      split at born
      · next hid => rw [hid]
      · rw [show s.worker id = some w from born] at unborn
        cases unborn
  | start waits => exact absurd born (known waits _ rfl)
  | conclude works => exact absurd born (known works _ rfl)
  | finish ends => exact absurd born (known ends _ rfl)
  | leave decided => exact absurd born (known decided _ rfl)
  | _ =>
      rw [show s.worker id = some w from born] at unborn
      cases unborn

theorem Step.nextId_le (step : Step s m t) : s.queue.nextId ≤ t.queue.nextId := by
  cases step with
  | publish accepts =>
      obtain ⟨-, -, rfl⟩ := Queue.publish_ok accepts
      exact Int.le_of_lt (Int.lt_succ _)
  | publishRefused refuses =>
      obtain ⟨-, -, rfl⟩ := Queue.publish_error refuses
      exact Int.le_refl _
  | takeToken takes =>
      obtain ⟨-, rfl⟩ := Queue.takeToken_ok takes
      exact Int.le_refl _
  | takeTokenRefused refuses =>
      obtain ⟨-, -, rfl⟩ := Queue.takeToken_error refuses
      exact Int.le_refl _
  | poll here polls =>
      obtain ⟨feeds, rfl⟩ := Queue.poll_frame polls
      exact Int.le_refl _
  | _ => exact Int.le_refl _

/-! ### Runs -/

theorem Steps.append (first : Steps s moves t) (second : Steps t more u) : Steps s (moves ++ more) u := by
  induction second with
  | none => simpa using first
  | next _ step ih =>
      rw [← List.append_assoc]
      exact ih.next step

theorem Steps.terminal_eq (steps : Steps s moves t) {terminal : Status}
    (h : (s.queue.feed id).terminal = some terminal) : (t.queue.feed id).terminal = some terminal := by
  induction steps with
  | none => exact h
  | next _ step ih => exact step.terminal_eq ih

/-- Between the moves before one and those after it the system was there. -/
theorem Steps.around {before after : List Move} (steps : Steps s moves t) (h : moves = before ++ m :: after) :
    ∃ u v, Steps s before u ∧ Step u m v ∧ Steps v after t := by
  induction steps generalizing after with
  | none => simp at h
  | @next moves t last u earlier step ih =>
      rcases List.eq_nil_or_concat after with rfl | ⟨rest, final, rfl⟩
      · obtain ⟨rfl, same⟩ := List.append_inj' h rfl
        cases same
        exact ⟨t, u, earlier, step, .none⟩
      · rw [List.concat_eq_append, ← List.cons_append, ← List.append_assoc] at h
        obtain ⟨hmoves, same⟩ := List.append_inj' h rfl
        cases same
        obtain ⟨v, w, hbefore, hstep, hrest⟩ := ih hmoves
        exact ⟨v, w, hbefore, hstep, List.concat_eq_append ▸ hrest.next step⟩

/-- A move that was made was made at some moment. -/
theorem Steps.split (steps : Steps s moves t) (hmem : m ∈ moves) :
    ∃ before after u v, moves = before ++ m :: after ∧ Steps s before u ∧ Step u m v ∧ Steps v after t := by
  obtain ⟨before, after, h⟩ := List.append_of_mem hmem
  obtain ⟨u, v, hbefore, hstep, hafter⟩ := steps.around h
  exact ⟨before, after, u, v, h, hbefore, hstep, hafter⟩

end Gradebook.Jobs
