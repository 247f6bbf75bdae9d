import Gradebook.Proofs.Jobs.Outcomes
import Mathlib.Data.List.DropRight

/-! What the table of the queue lists. A feed is listed from the publication of its job on. When a job finishes
it joins the finished ones, and of these only the last few stay listed. So at any moment the table lists the
jobs that live and the last few that finished, in whatever order jobs were published, cancelled and finished. -/

namespace Gradebook.Jobs

variable {s t : Scene} {m : Move} {moves more : List Move} {id : JobId} {retention : Nat}

/-- The numbers of the accepted jobs, in the order of their publication. -/
def publishedIn (moves : List Move) : List JobId :=
  moves.filterMap fun
    | .publish _ (.ok job) => some job.id
    | _ => none

/-- The jobs that finished, in the order in which they did. -/
def finishedIn (moves : List Move) : List JobId :=
  moves.filterMap fun
    | .finish id => some id
    | _ => none

/-- The job was accepted and has not finished. -/
structure Live (id : JobId) (moves : List Move) : Prop where
  published : Published id moves
  unfinished : Move.finish id ∉ moves

/-! ### What moves tell -/

theorem publishedIn_append (moves more : List Move) :
    publishedIn (moves ++ more) = publishedIn moves ++ publishedIn more :=
  List.filterMap_append

theorem finishedIn_append (moves more : List Move) :
    finishedIn (moves ++ more) = finishedIn moves ++ finishedIn more :=
  List.filterMap_append

theorem mem_finishedIn : id ∈ finishedIn moves ↔ Move.finish id ∈ moves := by
  unfold finishedIn
  rw [List.mem_filterMap]
  constructor
  · rintro ⟨m, hm, told⟩
    cases m <;> cases told
    exact hm
  · intro hm
    exact ⟨_, hm, rfl⟩

theorem published_append_of_ne (other : ∀ payload, m ≠ .publish payload (.ok ⟨id, payload⟩)) :
    Published id (moves ++ [m]) ↔ Published id moves := by
  refine ⟨?_, Published.append [m]⟩
  rintro ⟨payload, hmem⟩
  rw [List.mem_append, List.mem_singleton] at hmem
  exact ⟨payload, hmem.resolve_right (other payload).symm⟩

theorem live_append_of_ne (noPublish : ∀ payload, m ≠ .publish payload (.ok ⟨id, payload⟩))
    (noFinish : m ≠ .finish id) : Live id (moves ++ [m]) ↔ Live id moves := by
  have finishes : Move.finish id ∈ moves ++ [m] ↔ Move.finish id ∈ moves := by
    rw [List.mem_append, List.mem_singleton]
    exact or_iff_left noFinish.symm
  constructor
  · intro h
    exact ⟨(published_append_of_ne noPublish).mp h.published, mt finishes.mpr h.unfinished⟩
  · intro h
    exact ⟨(published_append_of_ne noPublish).mpr h.published, mt finishes.mp h.unfinished⟩

theorem live_append_finish {other : JobId} :
    Live other (moves ++ [.finish id]) ↔ Live other moves ∧ other ≠ id := by
  by_cases hid : other = id
  · subst hid
    simp only [ne_eq, not_true_eq_false, and_false, iff_false]
    exact fun still => still.unfinished (List.mem_append_right _ (List.mem_singleton_self _))
  · rw [live_append_of_ne (by rintro payload ⟨⟩) (by simpa using Ne.symm hid)]
    exact (and_iff_left hid).symm

/-! ### What a step does to the table -/

/-- A step lists the next job, or notes a job as finished and drops the oldest finished ones, or it leaves the
table alone. -/
inductive Lists (q : Queue) : Move → Queue → Prop where
  | accepts {r : Queue} (payload : Payload) (listed : r.listed = q.listed ++ [q.nextId])
      (finished : r.finished = q.finished) (next : r.nextId = q.nextId + 1) (retention : r.retention = q.retention) :
      Lists q (.publish payload (.ok ⟨q.nextId, payload⟩)) r
  | finishes {r : Queue} (id : JobId) (finished : r.finished = (q.finished ++ [id]).rtake q.retention)
      (listed : r.listed =
        q.listed.filter fun other => !((q.finished ++ [id]).rdrop q.retention).contains other)
      (next : r.nextId = q.nextId) (retention : r.retention = q.retention) : Lists q (.finish id) r
  | stays {m : Move} {r : Queue} (noPublish : publishedIn [m] = []) (noFinish : finishedIn [m] = [])
      (listed : r.listed = q.listed) (finished : r.finished = q.finished) (next : r.nextId = q.nextId)
      (retention : r.retention = q.retention) : Lists q m r

theorem Step.lists (step : Step s m t) : Lists s.queue m t.queue := by
  cases step with
  | @publish payload job q accepts =>
      obtain ⟨-, rfl, rfl⟩ := Queue.publish_ok accepts
      exact .accepts payload rfl rfl rfl rfl
  | @finish job ending ends => exact .finishes job.id rfl rfl rfl rfl
  | publishRefused refuses =>
      obtain ⟨-, -, rfl⟩ := Queue.publish_error refuses
      exact .stays rfl rfl rfl rfl rfl rfl
  | takeToken takes =>
      obtain ⟨-, rfl⟩ := Queue.takeToken_ok takes
      exact .stays rfl rfl rfl rfl rfl rfl
  | takeTokenRefused refuses =>
      obtain ⟨-, -, rfl⟩ := Queue.takeToken_error refuses
      exact .stays rfl rfl rfl rfl rfl rfl
  | poll here polls =>
      obtain ⟨feeds, rfl⟩ := Queue.poll_frame polls
      exact .stays rfl rfl rfl rfl rfl rfl
  | subscribe | subscribeRefused | fire | shut | closed | start | report | conclude | leave =>
      exact .stays rfl rfl rfl rfl rfl rfl

theorem Step.retention_eq (step : Step s m t) : t.queue.retention = s.queue.retention := by
  cases step.lists <;> assumption

theorem Steps.retention_eq (run : Run retention moves s) : s.queue.retention = retention := by
  induction run with
  | none => rfl
  | next _ step ih => exact step.retention_eq.trans ih

/-! ### Numbers -/

/-- The jobs are numbered from one on, in the order of their publication. -/
theorem publishedIn_eq (run : Run retention moves s) :
    publishedIn moves = (List.range (publishedIn moves).length).map (fun i : Nat => (i : JobId) + 1) ∧
      s.queue.nextId = (publishedIn moves).length + 1 := by
  induction run with
  | none => exact ⟨rfl, rfl⟩
  | @next moves u m t earlier step ih =>
      obtain ⟨numbers, next⟩ := ih
      rw [publishedIn_append]
      cases step.lists with
      | accepts payload _ _ after _ =>
          have told : publishedIn [.publish payload (.ok ⟨u.queue.nextId, payload⟩)] = [u.queue.nextId] := rfl
          rw [told, List.length_append, List.length_singleton, List.range_succ, List.map_append, ← numbers,
            List.map_singleton, ← next]
          exact ⟨rfl, by rw [after, next, Int.natCast_succ]⟩
      | finishes id _ _ after _ =>
          rw [show publishedIn [.finish id] = [] from rfl, List.append_nil, after]
          exact ⟨numbers, next⟩
      | stays silent _ _ _ after _ =>
          rw [silent, List.append_nil, after]
          exact ⟨numbers, next⟩

theorem publishedIn_increasing (run : Run retention moves s) : (publishedIn moves).Pairwise (· < ·) := by
  rw [(publishedIn_eq run).1, List.pairwise_map]
  exact List.pairwise_lt_range.imp fun hlt => Int.add_lt_add_right (Int.ofNat_lt.mpr hlt) 1

/-! ### Who lives -/

/-- Every worker has an accepted job. -/
theorem published_of_worker (run : Run retention moves s) {w : Worker} (hw : s.worker id = some w) :
    Published id moves := by
  induction run generalizing w with
  | none => cases hw
  | @next moves u m t earlier step ih =>
      cases before : u.worker id with
      | some v => exact (ih before).append [m]
      | none =>
          obtain ⟨-, payload, rfl⟩ := step.accepts_of_worker before hw
          exact ⟨payload, List.mem_append_right _ (List.mem_singleton_self _)⟩

/-- A job whose work has ended lives until it is finished. -/
theorem live_of_ended (run : Run retention moves s) {job : Job} {ending : Ending}
    (ends : s.worker id = some ⟨job, .ended ending⟩) : Live id moves := by
  refine ⟨published_of_worker run ends, fun finished => ?_⟩
  have rank := rank_of_finish run finished ends
  exact absurd rank (Nat.lt_irrefl 2)

theorem live_of_finish (run : Run retention moves s) (step : Step s (.finish id) t) : Live id moves := by
  cases step with
  | finish ends => exact live_of_ended run ends

/-- No job finishes twice. -/
theorem finishedIn_nodup (run : Run retention moves s) : (finishedIn moves).Nodup := by
  induction run with
  | none => exact List.nodup_nil
  | @next moves u m t earlier step ih =>
      rw [finishedIn_append]
      cases step.lists with
      | accepts payload _ _ _ _ => exact (List.append_nil _).symm ▸ ih
      | finishes id _ _ _ _ =>
          have new : id ∉ finishedIn moves := mt mem_finishedIn.mp (live_of_finish earlier step).unfinished
          refine List.nodup_append.mpr ⟨ih, List.pairwise_singleton _ _, fun a ha b hb same => new ?_⟩
          rwa [← List.mem_singleton.mp hb, ← same]
      | stays _ silent _ _ _ _ =>
          rw [silent, List.append_nil]
          exact ih

/-! ### What is listed -/

/-- The table lists the jobs that live and the last few that finished. -/
structure Listing (moves : List Move) (q : Queue) : Prop where
  finished : q.finished = (finishedIn moves).rtake q.retention
  listed : ∀ id, id ∈ q.listed ↔ Live id moves ∨ id ∈ q.finished

/-- The last few of a list are found among the last few and what comes after them. -/
theorem rtake_rtake_concat {α : Type} (xs : List α) (x : α) (n : Nat) :
    (xs.rtake n ++ [x]).rtake n = (xs ++ [x]).rtake n := by
  cases n with
  | zero => rw [List.rtake_zero, List.rtake_zero]
  | succ n =>
      rw [List.rtake_concat_succ, List.rtake_concat_succ]
      simp [List.rtake_eq_reverse_take_reverse, List.take_take]

/-- What comes once is among the last few or before them, not both. -/
theorem mem_rtake_iff {α : Type} {xs : List α} (once : xs.Nodup) (n : Nat) {x : α} :
    x ∈ xs.rtake n ↔ x ∈ xs ∧ x ∉ xs.rdrop n := by
  have parts : xs.rdrop n ++ xs.rtake n = xs := List.take_append_drop _ xs
  rw [← parts, List.nodup_append] at once
  constructor
  · intro hlast
    exact ⟨parts ▸ List.mem_append_right _ hlast, fun hfirst => once.2.2 x hfirst x hlast rfl⟩
  · rintro ⟨hmem, hfirst⟩
    rw [← parts, List.mem_append] at hmem
    exact hmem.resolve_left hfirst

namespace Listing

theorem accept {q : Queue} (h : Listing moves s.queue) (run : Run retention moves s) (payload : Payload)
    (listed : q.listed = s.queue.listed ++ [s.queue.nextId]) (finished : q.finished = s.queue.finished)
    (same : q.retention = s.queue.retention) :
    Listing (moves ++ [.publish payload (.ok ⟨s.queue.nextId, payload⟩)]) q := by
  have silent : finishedIn [.publish payload (.ok ⟨s.queue.nextId, payload⟩)] = [] := rfl
  refine ⟨?_, fun id => ?_⟩
  · rw [finished, h.finished, same, finishedIn_append, silent, List.append_nil]
  · rw [listed, List.mem_append, List.mem_singleton, h.listed, finished]
    by_cases hid : id = s.queue.nextId
    · subst hid
      have unfinished : Move.finish s.queue.nextId ∉ moves := fun hmem =>
        Int.lt_irrefl _ ((Steps.ledger run _).finished hmem)
      have live : Live s.queue.nextId (moves ++ [.publish payload (.ok ⟨s.queue.nextId, payload⟩)]) :=
        ⟨⟨payload, List.mem_append_right _ (List.mem_singleton_self _)⟩, by simpa using unfinished⟩
      exact iff_of_true (Or.inr rfl) (Or.inl live)
    · have others : Live id (moves ++ [.publish payload (.ok ⟨s.queue.nextId, payload⟩)]) ↔ Live id moves := by
        apply live_append_of_ne
        · rintro payload' ⟨⟩
          exact hid rfl
        · rintro ⟨⟩
      rw [others, or_iff_left hid]

theorem finish {q : Queue} (h : Listing moves s.queue) (run : Run retention moves s) (live : Live id moves)
    (finished : q.finished = (s.queue.finished ++ [id]).rtake s.queue.retention)
    (listed : q.listed =
      s.queue.listed.filter fun other => !((s.queue.finished ++ [id]).rdrop s.queue.retention).contains other)
    (same : q.retention = s.queue.retention) : Listing (moves ++ [.finish id]) q := by
  have ended : finishedIn (moves ++ [.finish id]) = finishedIn moves ++ [id] := finishedIn_append _ _
  have kept {other : JobId} (hmem : other ∈ s.queue.finished) : Move.finish other ∈ moves := by
    rw [h.finished] at hmem
    exact mem_finishedIn.mp (List.mem_of_mem_drop hmem)
  refine ⟨?_, fun other => ?_⟩
  · rw [finished, h.finished, same, ended, rtake_rtake_concat]
  · have once : (s.queue.finished ++ [id]).Nodup := by
      rw [h.finished]
      refine List.nodup_append.mpr ⟨(finishedIn_nodup run).sublist (List.drop_sublist _ _),
        List.pairwise_singleton _ _, fun a ha b hb same => live.unfinished ?_⟩
      rw [← h.finished] at ha
      rw [← List.mem_singleton.mp hb, ← same]
      exact kept ha
    rw [listed, finished, mem_rtake_iff once, live_append_finish, List.mem_filter, h.listed, List.mem_append,
      List.mem_singleton, Bool.not_eq_true', Bool.eq_false_iff, ne_eq, List.contains_iff_mem]
    -- a job that lives is not among the finished ones that are dropped
    have spared (still : Live other moves) (hne : other ≠ id) :
        other ∉ (s.queue.finished ++ [id]).rdrop s.queue.retention := by
      intro dropped
      have hmem := List.mem_of_mem_take dropped
      rw [List.mem_append, List.mem_singleton] at hmem
      exact hmem.elim (fun hfinished => still.unfinished (kept hfinished)) hne
    by_cases hid : other = id
    · subst hid
      simp [live]
    · constructor
      · rintro ⟨still | hmem, hfirst⟩
        · exact Or.inl ⟨still, hid⟩
        · exact Or.inr ⟨Or.inl hmem, hfirst⟩
      · rintro (⟨still, -⟩ | ⟨hmem, hfirst⟩)
        · exact ⟨Or.inl still, spared still hid⟩
        · exact ⟨Or.inr (hmem.resolve_right hid), hfirst⟩

theorem next (h : Listing moves s.queue) (run : Run retention moves s) (step : Step s m t) :
    Listing (moves ++ [m]) t.queue := by
  cases step.lists with
  | accepts payload listed finished _ same => exact h.accept run payload listed finished same
  | finishes id finished listed _ same => exact h.finish run (live_of_finish run step) finished listed same
  | stays noPublish noFinish listed finished _ same =>
      refine ⟨?_, fun id => ?_⟩
      · rw [finished, h.finished, same, finishedIn_append, noFinish, List.append_nil]
      · rw [listed, finished, h.listed, live_append_of_ne]
        · rintro payload rfl
          cases noPublish
        · rintro rfl
          cases noFinish

end Listing

theorem Steps.listing (run : Run retention moves s) : Listing moves s.queue := by
  induction run with
  | none =>
      refine ⟨(List.rtake_nil _).symm, fun id => ⟨nofun, ?_⟩⟩
      exact fun h => h.elim (fun live => nomatch live.published) nofun
  | next earlier step ih => exact ih.next earlier step

/-- A reader gets a feed of an open queue just where the table lists it. -/
theorem Queue.subscribe_of_open {q : Queue} (isOpen : q.closed = false) (id : JobId) :
    q.subscribe id = if id ∈ q.listed then .ok { job := id }
      else .error (.notFound ("job " ++ toString id ++ " not found")) := by
  unfold subscribe
  rw [if_neg (by rw [isOpen]; exact Bool.false_ne_true)]
  simp only [List.contains_iff_mem]

/-- **What the table holds.** At any moment of any run the feeds are those of the jobs that live and of the last few
that finished, the finished ones are noted once and in the order in which they finished, the tokens are those of
the jobs that live and that nobody cancelled, and the numbers of jobs only grow. So a reader gets a feed of an open
queue just where the job lives or was among the last few to finish, and no feed is lost while its job lives,
whatever else goes on. -/
theorem table_lists_live_and_recent (run : Run retention moves s) :
    (∀ id, id ∈ s.queue.listed ↔ Live id moves ∨ id ∈ (finishedIn moves).rtake retention) ∧
    s.queue.finished = (finishedIn moves).rtake retention ∧ (finishedIn moves).Nodup ∧
    (∀ id, id ∈ s.queue.tokens ↔ Live id moves ∧ Move.takeToken id (.ok ()) ∉ moves) ∧
    (publishedIn moves).Pairwise (· < ·) ∧
    (s.queue.closed = false → ∀ id,
      (Live id moves ∨ id ∈ (finishedIn moves).rtake retention → s.queue.subscribe id = .ok { job := id }) ∧
      (¬(Live id moves ∨ id ∈ (finishedIn moves).rtake retention) →
        s.queue.subscribe id = .error (.notFound ("job " ++ toString id ++ " not found")))) ∧
    (∀ id, Live id moves → ∀ more t, Steps s more t → Move.finish id ∉ more → id ∈ t.queue.listed) := by
  have finished : s.queue.finished = (finishedIn moves).rtake retention := by
    rw [← Steps.retention_eq run]
    exact (Steps.listing run).finished
  have listed (id : JobId) : id ∈ s.queue.listed ↔ Live id moves ∨ id ∈ (finishedIn moves).rtake retention := by
    rw [← finished]
    exact (Steps.listing run).listed id
  refine ⟨listed, finished, finishedIn_nodup run, ?_, publishedIn_increasing run, ?_, ?_⟩
  · intro id
    rw [(Steps.ledger run id).token]
    exact ⟨fun h => ⟨⟨h.published, h.unfinished⟩, h.untaken⟩,
      fun h => ⟨h.1.published, h.2, h.1.unfinished⟩⟩
  · intro isOpen id
    rw [Queue.subscribe_of_open isOpen, ← listed]
    exact ⟨fun known => if_pos known, fun unknown => if_neg unknown⟩
  · intro id live more t steps unfinished
    have still : Live id (moves ++ more) := by
      refine ⟨live.published.append more, fun hmem => ?_⟩
      exact (List.mem_append.mp hmem).elim live.unfinished unfinished
    exact ((Steps.listing (run.append steps)).listed id).mpr (Or.inl still)

/-- Of three jobs the second finishes first and the first one next, while the third is cancelled and works on: the
queue, which keeps one finished job, lists the third and the first. -/
theorem table_lists_live_and_recent_out_of_order : ∃ moves s, Run 1 moves s ∧ finishedIn moves = [2, 1] ∧
    Move.takeToken 3 (.ok ()) ∈ moves ∧ s.queue.closed = false ∧ s.queue.finished = [1] ∧
    (∀ id, id ∈ s.queue.listed ↔ Live id moves ∨ id ∈ [1]) ∧ 3 ∉ s.queue.tokens ∧
    s.queue.subscribe 3 = .ok { job := 3 } ∧ s.queue.subscribe 2 = .error (.notFound "job 2 not found") := by
  let second : Job := ⟨2, sampleJob.payload⟩
  let third : Job := ⟨3, sampleJob.payload⟩
  have first : Run 1 [.publish sampleJob.payload (.ok sampleJob)] _ := .next .none (.publish rfl)
  have published := (first.next (@Step.publish _ _ second _ rfl)).next (@Step.publish _ _ third _ rfl)
  have secondDone := ((published.next (@Step.start _ second rfl)).next
    (@Step.conclude _ second (.returned (.ok {})) rfl)).next (@Step.finish _ second _ rfl)
  have cancelled := (secondDone.next (@Step.takeToken _ 3 _ rfl)).next (@Step.fire _ 3 (List.mem_singleton_self 3))
  have firstDone := ((cancelled.next (@Step.start _ sampleJob rfl)).next
    (@Step.conclude _ sampleJob (.returned (.ok {})) rfl)).next (@Step.finish _ sampleJob _ rfl)
  obtain ⟨listed, finished, -, tokens, -, attaches, -⟩ := table_lists_live_and_recent firstDone
  refine ⟨_, _, firstDone, rfl, ?_, rfl, finished, listed, fun held => ?_, ?_, ?_⟩
  · simp
  · exact absurd (by simp) ((tokens 3).mp held).2
  · refine (attaches rfl 3).1 (Or.inl ⟨⟨sampleJob.payload, ?_⟩, ?_⟩)
    · simp [third]
    · simp [second, sampleJob]
  · refine (attaches rfl 2).2 ?_
    rintro (live | recent)
    · exact live.unfinished (by simp [second])
    · exact absurd recent (by decide)

end Gradebook.Jobs
