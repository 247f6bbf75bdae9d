import Gradebook.Proofs.Jobs.Cancellation

/-! What becomes of jobs and of those who cancel them. A token lies in the table from the publication of its job
until somebody cancels the job or the job finishes, and nothing else takes it out. So one cancellation of a job
succeeds at most, a late one finds nothing, and a job that nobody cancelled ends as its work did. -/

namespace Gradebook.Jobs

variable {s t : Scene} {m : Move} {moves more : List Move} {id : JobId} {retention : Nat}

/-- The job of this number was accepted. -/
def Published (id : JobId) (moves : List Move) : Prop :=
  ∃ payload, Move.publish payload (.ok ⟨id, payload⟩) ∈ moves

theorem Published.append (more : List Move) (h : Published id moves) : Published id (moves ++ more) := by
  obtain ⟨payload, hmem⟩ := h
  exact ⟨payload, List.mem_append_left more hmem⟩

/-- The job was accepted, and was neither cancelled nor finished since. -/
structure Cancellable (id : JobId) (moves : List Move) : Prop where
  published : Published id moves
  untaken : Move.takeToken id (.ok ()) ∉ moves
  unfinished : Move.finish id ∉ moves

/-- What a job shows in the end that nobody cancelled: what its work gave, the fault that its work gave, or some
fault of the program where its work broke down. -/
inductive Ending.Shows : Ending → Status → Prop where
  | done {summary : Summary} : Shows (.returned (.ok summary)) (.done summary)
  | failed {fault : Fault} : Shows (.returned (.error fault)) (.failed fault)
  | broke {reason : String} {fault : Fault} (internal : fault.kind = .internal) :
      Shows (.broke reason) (.failed fault)

theorem Ending.shows_terminalOf (id : JobId) (ending : Ending) :
    ending.Shows (Queue.terminalOf id false ending) := by
  rcases ending with (fault | summary) | reason
  · exact .failed
  · exact .done
  · exact .broke rfl

/-! ### Tokens in the table -/

/-- The move publishes, cancels or finishes the job of a number. -/
def Move.Concerns (id : JobId) : Move → Prop
  | .publish _ (.ok job) => job.id = id
  | .takeToken job (.ok ()) => job = id
  | .finish job => job = id
  | _ => False

/-- A number of which the moves tell, with its token where they say. -/
structure Ledger (moves : List Move) (s : Scene) (id : JobId) : Prop where
  token : id ∈ s.queue.tokens ↔ Cancellable id moves
  published : Published id moves → id < s.queue.nextId
  finished : Move.finish id ∈ moves → id < s.queue.nextId
  taken : Move.takeToken id (.ok ()) ∈ moves → id < s.queue.nextId

namespace Ledger

/-- A move that does not concern the job. -/
theorem of_other (h : Ledger moves s id) (step : Step s m t) (token : id ∈ t.queue.tokens ↔ id ∈ s.queue.tokens)
    (other : ¬m.Concerns id) : Ledger (moves ++ [m]) t id := by
  have stays {x : Move} (hx : x.Concerns id) : x ∈ moves ++ [m] ↔ x ∈ moves := by
    rw [List.mem_append, List.mem_singleton]
    exact or_iff_left fun same => other (same ▸ hx)
  have published : Published id (moves ++ [m]) ↔ Published id moves := exists_congr fun payload => stays rfl
  have taken : Move.takeToken id (.ok ()) ∈ moves ++ [m] ↔ _ := stays rfl
  have finished : Move.finish id ∈ moves ++ [m] ↔ _ := stays rfl
  have later {p : Prop} (hp : p → id < s.queue.nextId) (h : p) : id < t.queue.nextId :=
    Int.lt_of_lt_of_le (hp h) step.nextId_le
  refine ⟨?_, ?_, ?_, ?_⟩
  · rw [token, h.token]
    constructor
    · rintro ⟨hp, ht, hf⟩
      exact ⟨published.mpr hp, mt taken.mp ht, mt finished.mp hf⟩
    · rintro ⟨hp, ht, hf⟩
      exact ⟨published.mp hp, mt taken.mpr ht, mt finished.mpr hf⟩
  · exact later h.published ∘ published.mp
  · exact later h.finished ∘ finished.mp
  · exact later h.taken ∘ taken.mp

theorem next (run : Run retention moves s) (h : Ledger moves s id) (step : Step s m t) :
    Ledger (moves ++ [m]) t id := by
  have step' := step
  have last : m ∈ moves ++ [m] := List.mem_append_right _ (List.mem_singleton_self m)
  cases step with
  | @publish payload job q accepts =>
      obtain ⟨-, rfl, rfl⟩ := Queue.publish_ok accepts
      by_cases hid : id = s.queue.nextId
      · subst hid
        -- of the next number the moves do not tell yet
        have unheard {x : Move} (hx : x ∈ moves → s.queue.nextId < s.queue.nextId)
            (hne : x ≠ .publish payload (.ok ⟨s.queue.nextId, payload⟩)) :
            x ∉ moves ++ [.publish payload (.ok ⟨s.queue.nextId, payload⟩)] := by
          rw [List.mem_append, List.mem_singleton]
          exact fun hmem => hmem.elim (fun h => Int.lt_irrefl _ (hx h)) hne
        have more : s.queue.nextId < s.queue.nextId + 1 := Int.lt_succ _
        refine ⟨⟨fun _ => ⟨⟨payload, last⟩, unheard h.taken nofun, unheard h.finished nofun⟩, fun _ => ?_⟩,
          fun _ => more, fun _ => more, fun _ => more⟩
        exact List.mem_append_right _ (List.mem_singleton_self _)
      · refine h.of_other step' ?_ (Ne.symm hid)
        change id ∈ s.queue.tokens ++ [s.queue.nextId] ↔ _
        rw [List.mem_append, List.mem_singleton]
        exact or_iff_left hid
  | @takeToken job q takes =>
      obtain ⟨hmem, rfl⟩ := Queue.takeToken_ok takes
      by_cases hid : id = job
      · subst hid
        have published := (h.token.mp hmem).published
        have number : id < s.queue.nextId := h.published published
        refine ⟨⟨fun still => ?_, fun live => absurd last live.untaken⟩, fun _ => number, fun _ => number,
          fun _ => number⟩
        change id ∈ s.queue.tokens.filter (· != id) at still
        simp at still
      · refine h.of_other step' ?_ (Ne.symm hid)
        change id ∈ s.queue.tokens.filter (· != job) ↔ _
        simp [hid]
  | @finish job ending ends =>
      by_cases hid : id = job.id
      · subst hid
        have number : job.id < s.queue.nextId := ((Steps.chronicled run job.id).numbered _ ends).2
        refine ⟨⟨fun still => ?_, fun live => absurd last live.unfinished⟩, fun _ => number, fun _ => number,
          fun _ => number⟩
        change job.id ∈ s.queue.tokens.filter (· != job.id) at still
        simp at still
      · refine h.of_other step' ?_ (Ne.symm hid)
        change id ∈ s.queue.tokens.filter (· != job.id) ↔ _
        simp [hid]
  | publishRefused refuses =>
      obtain ⟨-, -, rfl⟩ := Queue.publish_error refuses
      exact h.of_other step' Iff.rfl not_false
  | takeTokenRefused refuses =>
      obtain ⟨-, -, rfl⟩ := Queue.takeToken_error refuses
      exact h.of_other step' Iff.rfl not_false
  | poll here polls =>
      obtain ⟨feeds, rfl⟩ := Queue.poll_frame polls
      exact h.of_other step' Iff.rfl not_false
  | subscribe | subscribeRefused | fire | shut | closed | start | report | conclude | leave =>
      exact h.of_other step' Iff.rfl not_false

end Ledger

theorem Steps.ledger (run : Run retention moves s) (id : JobId) : Ledger moves s id := by
  induction run with
  | none => exact ⟨⟨nofun, fun live => nomatch live.published⟩, nofun, nofun, nofun⟩
  | next earlier step ih => exact ih.next earlier step

/-! ### Ends -/

/-- Work that has ended does not end again. -/
theorem not_concluded_of_rank (run : Run retention moves s) {w : Worker} (hw : s.worker id = some w)
    (hrank : 2 ≤ w.stage.rank) (steps : Steps s more t) (ending : Ending) : Move.conclude id ending ∉ more := by
  intro hmem
  obtain ⟨before, after, u, v, rfl, hbefore, hstep, -⟩ := Steps.split steps hmem
  obtain ⟨stage, hstage, hle⟩ := Steps.worker run hbefore hw
  cases hstep with
  | conclude works =>
      rw [works] at hstage
      cases hstage
      exact absurd (Nat.le_trans hrank hle) (by decide)

theorem conclude_unique (run : Run retention moves s) {ending other : Ending}
    (first : Move.conclude id ending ∈ moves) (second : Move.conclude id other ∈ moves) : ending = other := by
  obtain ⟨before, after, u, v, rfl, hbefore, hstep, hafter⟩ := Steps.split run first
  have hthen : Run retention (before ++ [.conclude id ending]) v := hbefore.next hstep
  have concluded : ∃ job, v.worker id = some ⟨job, .ended ending⟩ := by
    cases hstep with
    | @conclude job ending works => exact ⟨job, if_pos rfl⟩
  obtain ⟨job, hworker⟩ := concluded
  rcases List.mem_append.mp second with earlier | hmem
  · obtain ⟨start, rest, x, y, rfl, hstart, hother, hrest⟩ := Steps.split hbefore earlier
    have ended : ∃ w, y.worker id = some w ∧ 2 ≤ w.stage.rank := by
      cases hother with
      | @conclude job other works => exact ⟨⟨job, .ended other⟩, if_pos rfl, Nat.le_refl 2⟩
    obtain ⟨w, hw, hrank⟩ := ended
    have hrun : Run retention (start ++ [.conclude id other]) y := Steps.next hstart hother
    exact absurd (List.mem_append_right rest (List.mem_singleton_self _))
      (not_concluded_of_rank hrun hw hrank (hrest.next hstep) ending)
  · rcases List.mem_cons.mp hmem with same | later
    · cases same
      rfl
    · exact absurd later (not_concluded_of_rank hthen hworker (Nat.le_refl 2) hafter other)

/-- A job that was finished has an end. -/
theorem terminal_of_finish (run : Run retention moves s) (finished : Move.finish id ∈ moves) :
    ∃ terminal, (s.queue.feed id).terminal = some terminal := by
  obtain ⟨before, after, u, v, rfl, hbefore, hstep, hafter⟩ := Steps.split run finished
  have hthen : Run retention (before ++ [.finish id]) v := hbefore.next hstep
  have decided : ∃ job, v.worker id = some ⟨job, .decided⟩ := by
    cases hstep with
    | @finish job ending ends => exact ⟨job, if_pos rfl⟩
  obtain ⟨job, hworker⟩ := decided
  obtain ⟨details, terminal, -, isTerminal, haccepted⟩ := (Steps.chronicled hthen id).tells _ hworker
  have told := ((Steps.chronicled hthen id).ended haccepted isTerminal).2
  exact ⟨terminal, Steps.terminal_eq hafter told⟩

/-- No two cancellations of a job succeed. -/
theorem takeToken_once (run : Run retention moves s) (id : JobId) :
    moves.Pairwise fun a b => a = .takeToken id (.ok ()) → b ≠ .takeToken id (.ok ()) := by
  induction run with
  | none => exact List.Pairwise.nil
  | @next moves u m t earlier step ih =>
      refine List.pairwise_append.mpr ⟨ih, List.pairwise_singleton _ _, ?_⟩
      rintro a ha b hb rfl same
      rw [List.mem_singleton] at hb
      subst hb
      subst same
      cases step with
      | takeToken takes =>
          obtain ⟨hmem, -⟩ := Queue.takeToken_ok takes
          exact ((Steps.ledger earlier id).token.mp hmem).untaken ha

theorem Scene.withQueue_self (s : Scene) : s.withQueue s.queue = s := by
  have same : (s.withQueue s.queue).accepted = s.accepted := accepted_withQueue_of_feed rfl
  change { s with queue := s.queue, accepted := (s.withQueue s.queue).accepted } = s
  rw [same]

/-- A cancellation that finds a token takes it. -/
theorem takeToken_step_of_mem (held : id ∈ s.queue.tokens) (result : Except Fault Unit) :
    (∃ t, Step s (.takeToken id result) t) ↔ result = .ok () := by
  constructor
  · rintro ⟨t, step⟩
    cases step with
    | takeToken takes => rfl
    | takeTokenRefused refuses => exact absurd held (Queue.takeToken_error refuses).1
  · rintro rfl
    have takes : s.queue.takeToken id = (.ok (), { s.queue with tokens := s.queue.tokens.filter (· != id) }) :=
      if_pos (List.contains_iff_mem.mpr held)
    exact ⟨_, .takeToken takes⟩

/-- A cancellation that finds no token says so and leaves everything as it is. -/
theorem takeToken_step_of_not_mem (gone : id ∉ s.queue.tokens) (result : Except Fault Unit) (t : Scene) :
    Step s (.takeToken id result) t ↔
      result = .error (.notFound ("job " ++ toString id ++ " not found or finished")) ∧ t = s := by
  constructor
  · intro step
    cases step with
    | takeToken takes => exact absurd (Queue.takeToken_ok takes).1 gone
    | takeTokenRefused refuses =>
        obtain ⟨-, rfl, rfl⟩ := Queue.takeToken_error refuses
        exact ⟨rfl, s.withQueue_self⟩
  · rintro ⟨rfl, rfl⟩
    have refuses : t.queue.takeToken id =
        (.error (.notFound ("job " ++ toString id ++ " not found or finished")), t.queue) :=
      if_neg (mt List.contains_iff_mem.mp gone)
    have step := Step.takeTokenRefused refuses
    rwa [t.withQueue_self] at step

/-- A finished job has an end: it is cancelled only if its token was taken before it finished, and it ends as its
work if its token was never taken. -/
theorem ends_of_finish (run : Run retention moves s) (finished : Move.finish id ∈ moves) :
    ∃ terminal ending, (s.queue.feed id).terminal = some terminal ∧ Move.conclude id ending ∈ moves ∧
      (terminal = .cancelled → ∃ before after, moves = before ++ .finish id :: after ∧
        Move.takeToken id (.ok ()) ∈ before) ∧
      (Move.takeToken id (.ok ()) ∉ moves → ending.Shows terminal) := by
  obtain ⟨terminal, told⟩ := terminal_of_finish run finished
  obtain ⟨before, after, ending, cancelled, rfl, concluded, untaken, fired, rfl⟩ := terminal_decided run told
  refine ⟨_, ending, told, List.mem_append_left _ concluded, ?_, ?_⟩
  · intro isCancelled
    rw [Queue.terminalOf_eq_cancelled_iff, fired] at isCancelled
    have taken := (Steps.tokened run id).taken (List.mem_append_left _ isCancelled)
    refine ⟨before, after, rfl, ?_⟩
    rw [List.mem_append, List.mem_cons] at taken
    exact taken.resolve_right fun h => h.elim nofun untaken
  · intro never
    have unfired : cancelled = false := by
      rw [Bool.eq_false_iff, ne_eq, fired]
      exact fun h => never ((Steps.tokened run id).taken (List.mem_append_left _ h))
    rw [unfired]
    exact ending.shows_terminalOf id

/-- The feed of a finished job whose token nobody took has accepted that it was queued, that it runs, what it reported
before it was finished, and what its work came to. -/
theorem accepted_of_finish (run : Run retention moves s) {payload : Payload} {job : Job}
    (published : Move.publish payload (.ok job) ∈ moves) (untaken : Move.takeToken job.id (.ok ()) ∉ moves)
    (finished : Move.finish job.id ∈ moves) : ∃ before after ending, moves = before ++ .finish job.id :: after ∧
      Move.conclude job.id ending ∈ before ∧
      s.accepted job.id = opening payload (reportsOf job.id before) ++ [Queue.terminalOf job.id false ending] := by
  obtain ⟨rfl, stage, hworker⟩ := worker_of_publish run published
  obtain ⟨before, after, u, v, rfl, hbefore, hstep, hafter⟩ := Steps.split run finished
  have hthen : Run retention (before ++ [.finish job.id]) v := hbefore.next hstep
  generalize hid : job.id = id at *
  cases hstep with
  | @finish job' ending ends =>
      obtain ⟨later, hlater, -⟩ := Steps.worker hbefore ((Steps.next .none (.finish ends)).append hafter) ends
      obtain rfl : job' = job := by
        rw [hworker] at hlater
        cases hlater
        rfl
      have chronicled := Steps.chronicled hbefore job'.id
      have htells : u.accepted job'.id = opening job'.payload (reportsOf job'.id before) := chronicled.tells _ ends
      have hopen : ∀ status ∈ u.accepted job'.id, status.isTerminal = false := by
        rw [htells]
        exact fun _ => not_isTerminal_of_mem_opening
      have unfired : u.queue.isCancelled job'.id = false := by
        rw [Bool.eq_false_iff, ne_eq, Queue.isCancelled, List.contains_iff_mem]
        intro fired
        have tokened := Steps.tokened hbefore job'.id
        exact untaken (List.mem_append_left _ (tokened.taken (tokened.fired.mp fired)))
      have told := Scene.accepted_of_push chronicled.records hopen (Queue.feed_finish job'.id ending u.queue)
      rw [unfired, htells] at told
      refine ⟨before, after, ending, rfl, reached_of_worker hbefore ends, ?_⟩
      have last := Status.isTerminal_terminalOf job'.id false ending
      refine (Steps.accepted_of_terminal hthen hafter ?_ last).trans told
      change _ ∈ (u.withQueue (u.queue.finish job'.id ending)).accepted job'.id
      rw [told]
      exact List.mem_append_right _ (List.mem_singleton_self _)

/-- **Who can cancel, and what becomes of a job.** At any moment of any run, of which nothing but cancellations
fires tokens: at most one cancellation of a job has succeeded. A further one succeeds as long as the job lives and
nobody has cancelled it; for any other number it finds nothing and changes nothing. A finished job has an end. It
is cancelled only if a cancellation took its token before it finished; if none ever did, it ends as its work. -/
theorem cancellation_outcomes (run : Run retention moves s) (id : JobId) :
    (moves.Pairwise fun a b => a = .takeToken id (.ok ()) → b ≠ .takeToken id (.ok ())) ∧
    (Published id moves → Move.takeToken id (.ok ()) ∉ moves → Move.finish id ∉ moves →
      ∀ result, (∃ t, Step s (.takeToken id result) t) ↔ result = .ok ()) ∧
    (¬Published id moves ∨ Move.takeToken id (.ok ()) ∈ moves ∨ Move.finish id ∈ moves →
      ∀ result t, Step s (.takeToken id result) t ↔
        result = .error (.notFound ("job " ++ toString id ++ " not found or finished")) ∧ t = s) ∧
    (Move.finish id ∈ moves → ∃ terminal ending, (s.queue.feed id).terminal = some terminal ∧
      (∀ other, Move.conclude id other ∈ moves ↔ other = ending) ∧
      (terminal = .cancelled → ∃ before after, moves = before ++ .finish id :: after ∧
        Move.takeToken id (.ok ()) ∈ before) ∧
      (Move.takeToken id (.ok ()) ∉ moves → ending.Shows terminal)) := by
  have ledger := (Steps.ledger run id).token
  refine ⟨takeToken_once run id, ?_, ?_, ?_⟩
  · intro published untaken unfinished result
    exact takeToken_step_of_mem (ledger.mpr ⟨published, untaken, unfinished⟩) result
  · intro late result t
    have gone : id ∉ s.queue.tokens := by
      intro held
      obtain ⟨published, untaken, unfinished⟩ := ledger.mp held
      rcases late with unpublished | taken | finished
      · exact unpublished published
      · exact untaken taken
      · exact unfinished finished
    exact takeToken_step_of_not_mem gone result t
  · intro finished
    obtain ⟨terminal, ending, told, concluded, cancelled, shows⟩ := ends_of_finish run finished
    refine ⟨terminal, ending, told, fun other => ⟨fun again => conclude_unique run again concluded, ?_⟩, cancelled,
      shows⟩
    rintro rfl
    exact concluded

/-- A job that nobody cancels breaks down, and whoever cancels it then finds nothing. -/
theorem cancellation_outcomes_broken : ∃ moves s, Run 0 moves s ∧ Move.finish 1 ∈ moves ∧
    Move.takeToken 1 (.ok ()) ∉ moves ∧
    (∀ result t, Step s (.takeToken 1 result) t ↔
      result = .error (.notFound "job 1 not found or finished") ∧ t = s) ∧
    ∃ fault, (s.queue.feed 1).terminal = some (.failed fault) ∧ fault.kind = .internal := by
  have published : Run 0 [.publish sampleJob.payload (.ok sampleJob)] _ := .next .none (.publish rfl)
  have started := published.next (@Step.start _ sampleJob rfl)
  have concluded := started.next (@Step.conclude _ sampleJob (.broke "out of memory") rfl)
  have finished := concluded.next (@Step.finish _ sampleJob _ rfl)
  have done : Move.finish 1 ∈ [Move.publish sampleJob.payload (.ok sampleJob), .start 1,
      .conclude 1 (.broke "out of memory"), .finish 1] := by simp
  have untaken : Move.takeToken 1 (.ok ()) ∉ [Move.publish sampleJob.payload (.ok sampleJob), .start 1,
      .conclude 1 (.broke "out of memory"), .finish 1] := by simp
  obtain ⟨-, -, late, ends⟩ := cancellation_outcomes finished 1
  obtain ⟨terminal, ending, told, only, -, shows⟩ := ends done
  obtain rfl : Ending.broke "out of memory" = ending := (only _).mp (by simp [sampleJob])
  cases shows untaken with
  | broke internal => exact ⟨_, _, finished, done, untaken, late (Or.inr (Or.inr done)), _, told, internal⟩

end Gradebook.Jobs
