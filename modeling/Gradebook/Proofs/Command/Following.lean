import Gradebook.Command.Run
import Gradebook.Proofs.Command.Settings
import Gradebook.Proofs.Command.Watch
import Gradebook.Proofs.Jobs.Service
import Gradebook.Proofs.Json.Roundtrip
import Gradebook.Proofs.Wire.Jobs

/-! A command that follows its job to the end. It prints a line for each status that the job has told, in the order in
which they were told, and ends as the last of them says. A line can be read back: it names the job and tells the status.
The command is never refused and never stuck, and once the job has finished it needs only a few more turns: one for each
status that still waits, one to hear that the feed is over, and one where it is still to attach its reader or waits for
a heartbeat. -/

namespace Gradebook.Command

open Jobs

variable {retention : Nat} {payload : Payload} {w v : Watch} {event : Event} {events more : List Event}
variable {f : Follower} {terminal : Status} {details : List String}

/-! ### Lines -/

/-- A text is one line that tells the status of a job: it reads as an object with the job's number and, beside it, the
members of the status, and these read back as the status. -/
structure Follower.Tells (id : JobId) (status : Status) (line : String) : Prop where
  oneLine : '\n' ∉ line.toList
  parsed : Json.parse? line = some (.obj (("job_id", .int id) :: status.members))
  restored : Status.ofJson (.obj status.members) = .ok status

theorem Follower.tells_lineOf (id : JobId) (status : Status) : Tells id status (lineOf id status) where
  oneLine := Json.newline_not_mem_compact _
  parsed := Json.parse?_compact _
  restored := (Status.restores status).decoded

/-- The output of a run that prints one line at a time splits into the lines that it printed. -/
theorem Outcome.splitOn_output {o : Outcome} (each : ∀ line ∈ o.printed, '\n' ∉ line.toList) :
    o.output.toList.splitOn '\n' = o.printed.map String.toList ++ [[]] := by
  rw [output, String.toList_join]
  generalize o.printed = lines at each
  induction lines with
  | nil => rfl
  | cons line rest ih =>
      obtain ⟨first, others⟩ := List.forall_mem_cons.mp each
      have alone : line.toList.splitOn '\n' = [line.toList] :=
        List.splitOnP_eq_singleton fun c among => by
          rw [beq_eq_false_iff_ne]
          rintro rfl
          exact first among
      have behind (text : List Char) :
          (line.toList ++ '\n' :: text).splitOn '\n' = line.toList.splitOn '\n' ++ text.splitOn '\n' :=
        List.splitOnP_append_cons _ _ (beq_self_eq_true '\n')
      rw [List.map_cons, List.flatMap_cons, String.toList_append, List.append_assoc, List.map_cons, List.cons_append,
        ← ih others]
      exact (behind _).trans (congrArg (· ++ _) alone)

/-! ### What was printed -/

/-- A follower has printed a whole life, the end and nothing else at its end, and ends as that end says. -/
structure Follower.HasTold (f : Follower) (payload : Payload) (details : List String) (terminal : Status) : Prop where
  lines : f.lines = (opening payload details ++ [terminal]).map (Follower.lineOf f.job)
  before : ∀ status ∈ opening payload details, status.isTerminal = false
  last : terminal.isTerminal = true
  success : ∀ o : Outcome, o.verdict = f.verdict → (o.exitCode = 0 ↔ ∃ summary, terminal = .done summary)
  failure : ∀ fault, terminal = .failed fault → f.verdict = .error (.jobFailed f.job fault)

theorem Error.exitCode_ne_zero (e : Error) : e.exitCode ≠ 0 := by
  have code (kind : Fault.Kind) : codeOfKind kind ≠ 0 := by cases kind <;> decide
  cases e with
  | settings | logging | store | jobCancelled => exact Nat.noConfusion
  | portal error => exact code error.kind
  | service fault => exact code fault.kind
  | jobFailed id fault => exact code fault.kind

theorem Outcome.exitCode_eq_zero (o : Outcome) : o.exitCode = 0 ↔ o.verdict = .ok () := by
  unfold exitCode
  cases o.verdict with
  | ok done => simp
  | error e => simpa using e.exitCode_ne_zero

/-- The verdict follows the end that was printed. -/
theorem Follower.hasTold (lines : f.lines = (opening payload details ++ [terminal]).map (Follower.lineOf f.job))
    (ending : f.ending = some terminal) (last : terminal.isTerminal = true) :
    f.HasTold payload details terminal := by
  refine ⟨lines, fun _ => not_isTerminal_of_mem_opening, last, fun o same => ?_, ?_⟩
  · rw [o.exitCode_eq_zero, same, Follower.verdict, ending]
    cases terminal with
    | queued | running => cases last
    | done summary => simp
    | cancelled | failed => simp
  · rintro fault rfl
    rw [Follower.verdict, ending]

/-- What was told and holds an end is all that can be told. -/
theorem all_told {told rest : List Status} (whole : told ++ rest = opening payload details ++ [terminal])
    {ending : Status} (ended : told.find? Status.isTerminal = some ending) :
    rest = [] ∧ ending = terminal := by
  rcases List.eq_nil_or_concat rest with rfl | ⟨earlier, last, rfl⟩
  · rw [List.append_nil] at whole
    have noEnd : (opening payload details).find? Status.isTerminal = none := by
      rw [List.find?_eq_none]
      intro status hstatus
      simp [not_isTerminal_of_mem_opening hstatus]
    rw [whole, List.find?_append, noEnd, Option.none_or] at ended
    exact ⟨rfl, (List.mem_singleton.mp (List.mem_of_find?_eq_some ended))⟩
  · rw [List.concat_eq_append, ← List.append_assoc] at whole
    obtain ⟨before, -⟩ := List.append_inj' whole rfl
    have among : ending ∈ opening payload details :=
      before ▸ List.mem_append_left _ (List.mem_of_find?_eq_some ended)
    have isTerminal : ending.isTerminal = true := List.find?_some ended
    rw [not_isTerminal_of_mem_opening among] at isTerminal
    cases isTerminal

/-- Once the feed is over, the job has finished, and everything that it told was printed. -/
theorem Watched.told (watched : Watched retention payload events w) (keepsOne : 0 < retention)
    (closed : w.phase = .closed f) : f.job = 1 ∧ ∃ before after ending, movesOf events = before ++ .finish 1 :: after ∧
      Move.conclude 1 ending ∈ before ∧
      w.scene.accepted 1 = opening payload (reportsOf 1 before) ++ [Queue.terminalOf 1 false ending] ∧
      f.HasTold payload (reportsOf 1 before) (Queue.terminalOf 1 false ending) := by
  have run := Watched.run watched
  obtain ⟨fits, -, alone, published⟩ := watched.sound keepsOne
  have published := published.resolve_left (by rw [closed]; nofun)
  rw [closed] at fits
  have keeps : Keeps f true w.scene := fits
  obtain ⟨told, lines, whole, ending⟩ := keeps.told
  obtain ⟨last, known⟩ := Option.isSome_iff_exists.mp keeps.ending
  rw [ending] at known
  have shown : (w.scene.queue.feed 1).terminal = some last := by
    rw [(Steps.chronicled run 1).records.terminal, ← whole, List.find?_append, known, Option.some_or]
  have finished : Move.finish 1 ∈ movesOf events := by
    obtain ⟨worker, hworker, rank⟩ := decided_of_terminal run shown
    exact finish_mem_of_rank run hworker rank
  obtain ⟨before, after, ended, moves, concluded, accepted⟩ :=
    accepted_of_finish run published (fun taken => alone _ taken) finished
  refine ⟨keeps.job, before, after, ended, moves, concluded, accepted, ?_⟩
  obtain ⟨nothing, rfl⟩ := all_told (whole.trans accepted) known
  rw [nothing, List.append_nil] at whole
  refine Follower.hasTold ?_ (ending.trans known) (Status.isTerminal_terminalOf 1 false ended)
  rw [lines, whole, keeps.job]
  exact congrArg _ accepted

/-! ### The end is reached -/

/-- The command can always go on until the feed is over. -/
theorem Watched.goes_on (watched : Watched retention payload events w) (keepsOne : 0 < retention) :
    (∃ f, w.phase = .closed f) ∨ ∃ event v, event.isOwn = true ∧ Watches payload w event v := by
  have run := Watched.run watched
  have sound := watched.sound keepsOne
  have fits := sound.fits
  obtain ⟨s, phase⟩ := w
  cases phase with
  | publishing =>
      obtain rfl : s = .fresh retention := fits
      exact .inr ⟨_, _, rfl, .publish rfl (.publish rfl)⟩
  | attaching job =>
      obtain ⟨rfl, -, -⟩ := fits
      exact .inr ⟨_, _, rfl, .attach rfl (.subscribe (sound.attaches run keepsOne rfl))⟩
  | looking f =>
      obtain ⟨finished, keeps⟩ := fits
      obtain ⟨delivery, t, step⟩ := exists_poll keeps.readers
      exact .inr ⟨_, _, rfl, .look rfl step⟩
  | waiting f => exact .inr ⟨_, _, rfl, .expire rfl⟩
  | closed f => exact .inl ⟨f, rfl⟩
  | refused fault => cases fits

/-- How many turns the command needs at most once its job has finished. -/
def Watch.left (w : Watch) : Nat :=
  match w.phase with
  | .publishing => (w.scene.queue.feed 1).pending.length + 3
  | .attaching _ => (w.scene.queue.feed 1).pending.length + 2
  | .looking _ => (w.scene.queue.feed 1).pending.length + 1
  | .waiting _ => (w.scene.queue.feed 1).pending.length + 2
  | .closed _ => 0
  | .refused _ => 0

/-- A look at a feed that has ended takes the oldest status, or finds that the feed is over. -/
theorem Keeps.left_lt {finished : Bool} {s t : Scene} {delivery : Option Delivery} (keeps : Keeps f finished s)
    (records : (s.queue.feed 1).Records (s.accepted 1)) (ended : (s.queue.feed 1).terminal = some terminal)
    (step : Step s (.poll 0 delivery) t) :
    ∃ d, delivery = some d ∧ (Watch.mk t (.hear f d)).left < (s.queue.feed 1).pending.length + 1 := by
  obtain ⟨-, -, reader', -, looks⟩ := step.of_poll keeps.readers
  generalize hfeed : t.queue.feed 1 = feed at looks
  cases looks with
  | ended closed => exact ⟨_, rfl, Nat.succ_pos _⟩
  | @oldest status rest unfinished waiting =>
      refine ⟨_, rfl, ?_⟩
      change (t.queue.feed 1).pending.length + 1 < _
      rw [hfeed, show (s.queue.feed 1).pending = status :: rest from waiting]
      exact Nat.lt_succ_self _
  | last unfinished nothing told =>
      obtain rfl : finished = false := unfinished
      cases told.symm.trans (keeps.isOpen records nothing)
  | nothing unfinished nothing isOpen => cases ended.symm.trans isOpen

/-- After the job has finished, a turn of the command brings it nearer to its end, and one of the worker does not keep
it from it. -/
theorem Watched.left_step (watched : Watched retention payload events w) (keepsOne : 0 < retention)
    (finished : Move.finish 1 ∈ movesOf events) (step : Watches payload w event v) :
    v.left + (if event.isOwn then 1 else 0) ≤ w.left := by
  have run := Watched.run watched
  have sound := watched.sound keepsOne
  have fits := sound.fits
  have records := (Steps.chronicled run 1).records
  obtain ⟨terminal, ended⟩ := terminal_of_finish run finished
  obtain ⟨s, phase⟩ := w
  cases step with
  | @work m t isWork step =>
      have hterminal := records.terminal.symm.trans ended
      have still := step.accepted_of_terminal records (List.mem_of_find?_eq_some hterminal)
        (List.find?_some (p := Status.isTerminal) hterminal)
      rw [step.accepted_eq 1, List.append_right_eq_self] at still
      have pending := (step.of_isWork isWork).2.2 1
      rw [still, List.append_nil] at pending
      change (Watch.mk t phase).left + 0 ≤ (Watch.mk s phase).left
      unfold Watch.left
      simp only [pending]
      exact Nat.le_refl _
  | publish here step =>
      rw [here] at fits
      rw [show s = .fresh retention from fits] at ended
      cases ended
  | @attach job result t here step =>
      obtain rfl : phase = .attaching job := here
      obtain ⟨rfl, -, -⟩ := fits
      cases step with
      | subscribe gets => exact Nat.le_refl _
      | subscribeRefused refuses => cases (sound.attaches run keepsOne rfl).symm.trans refuses
  | @look f delivery t here step =>
      obtain rfl : phase = .looking f := here
      obtain ⟨finished, keeps⟩ := fits
      obtain ⟨d, rfl, less⟩ := keeps.left_lt records ended step
      exact less
  | @wake f delivery t here step =>
      obtain rfl : phase = .waiting f := here
      obtain ⟨d, rfl, less⟩ := Keeps.left_lt fits records ended step
      exact Nat.le_succ_of_le less
  | @expire f here =>
      obtain rfl : phase = .waiting f := here
      exact Nat.le_refl _

theorem Watched.left_le (watched : Watched retention payload events w) (keepsOne : 0 < retention)
    (finished : Move.finish 1 ∈ movesOf events) (watching : Watching payload w more v) :
    v.left + more.countP Event.isOwn ≤ w.left := by
  induction watching with
  | none => exact Nat.le_refl _
  | @next more u event v earlier step ih =>
      have finished' : Move.finish 1 ∈ movesOf (events ++ more) := by
        rw [movesOf_append]
        exact List.mem_append_left _ finished
      have nearer := Watched.left_step (watched.append earlier) keepsOne finished' step
      rw [List.countP_append, List.countP_singleton]
      omega

/-- A job that has finished was published before. -/
theorem Watched.left_bound (watched : Watched retention payload events w) (keepsOne : 0 < retention)
    (finished : Move.finish 1 ∈ movesOf events) : w.left ≤ (w.scene.queue.feed 1).pending.length + 2 := by
  have fits := (watched.sound keepsOne).fits
  obtain ⟨terminal, ended⟩ := terminal_of_finish (Watched.run watched) finished
  obtain ⟨s, phase⟩ := w
  cases phase with
  | publishing =>
      rw [show s = .fresh retention from fits] at ended
      cases ended
  | attaching | waiting => exact Nat.le_refl _
  | looking => exact Nat.le_succ _
  | closed | refused => exact Nat.zero_le _

/-! ### The running program -/

theorem Follower.foldl_print (statuses : List Status) (f : Follower) :
    let after := statuses.foldl (fun (f : Follower) status => f.print status) f
    after.job = f.job ∧ after.lines = f.lines ++ statuses.map (lineOf f.job) := by
  induction statuses generalizing f with
  | nil => exact ⟨rfl, by simp⟩
  | cons status rest ih =>
      obtain ⟨job, lines⟩ := ih (f.print status)
      refine ⟨job, lines.trans ?_⟩
      simp [print]

/-- Printing a whole life at once leaves a follower that has told it. -/
theorem Follower.foldl_hasTold (payload : Payload) (details : List String) (last : terminal.isTerminal = true)
    (id : JobId) :
    Follower.HasTold ((opening payload details ++ [terminal]).foldl (fun f status => f.print status) { job := id })
      payload details terminal := by
  obtain ⟨job, lines⟩ := Follower.foldl_print (opening payload details ++ [terminal]) { job := id }
  refine Follower.hasTold ?_ ?_ last
  · rw [lines, job]
    rfl
  · rw [List.foldl_append]
    exact if_pos last

/-- The command that refreshes the store by a job. -/
def refreshOf : Payload → Invocation
  | .students request => .refreshStudents request
  | .marks request => .refreshMarks request

/-- A refresh that the program performs has printed what its job told. -/
theorem perform_refresh (s : Sync.Service) (payload : Payload) (retention : Nat) (world : Sync.World)
    (printed : List String) :
    let worked := execute s payload .never world
    ∃ f : Follower, f.job = 1 ∧
      f.HasTold payload (worked.2.reports.drop world.reports.length) (Queue.terminalOf 1 false (.returned worked.1)) ∧
      ∃ q, perform s (refreshOf payload) ⟨world, { retention }, printed⟩ =
        (f.verdict, ⟨worked.2, q, printed ++ f.lines⟩) := by
  intro worked
  obtain ⟨q, follows⟩ := followThrough_fresh s payload retention world
  have told := Follower.foldl_hasTold payload (worked.2.reports.drop world.reports.length)
    (Status.isTerminal_terminalOf 1 false (.returned worked.1)) 1
  refine ⟨_, (Follower.foldl_print _ { job := 1 }).1, told, q, ?_⟩
  have performs : perform s (refreshOf payload) = followJob s payload := by cases payload <;> rfl
  rw [performs, followJob, follows]

/-- What a run wrote are lines that tell a whole life, one for each status, and it ends as that life does. -/
structure Outcome.HasTold (o : Outcome) (payload : Payload) (details : List String) (terminal : Status) : Prop where
  lines : List.Forall₂ (Follower.Tells 1) (opening payload details ++ [terminal]) o.printed
  output : o.output.toList.splitOn '\n' = o.printed.map String.toList ++ [[]]
  success : o.exitCode = 0 ↔ ∃ summary, terminal = .done summary
  failure : ∀ fault, terminal = .failed fault → o.verdict = .error (.jobFailed 1 fault)

theorem Follower.HasTold.outcome {o : Outcome} (told : f.HasTold payload details terminal) (job : f.job = 1)
    (verdict : o.verdict = f.verdict) (printed : o.printed = f.lines) : o.HasTold payload details terminal := by
  have tells : List.Forall₂ (Follower.Tells 1) (opening payload details ++ [terminal]) o.printed := by
    rw [printed, told.lines, job, List.forall₂_map_right_iff, List.forall₂_same]
    exact fun status _ => tells_lineOf 1 status
  refine ⟨tells, Outcome.splitOn_output fun line among => ?_, told.success o verdict, fun fault failed => ?_⟩
  · rw [printed, told.lines] at among
    obtain ⟨status, -, rfl⟩ := List.mem_map.mp among
    exact (tells_lineOf f.job status).oneLine
  · rw [verdict, told.failure fault failed, job]

/-- A refresh that the program runs writes what its job told. -/
theorem runOn_refresh (around : Surroundings) (settings : Settings) (payload : Payload) (database : Database)
    (store : Store) (readOnly : Bool) {client : Portal.Client}
    (made : Portal.Client.ofSettings settings.portal = .ok client) :
    let service : Sync.Service := ⟨client.responder around.network, settings.forServices around.thisYear⟩
    let worked := execute service payload .never { store, readOnly }
    (runOn around settings (refreshOf payload) database store readOnly).HasTold payload worked.2.reports
      (Queue.terminalOf 1 false (.returned worked.1)) := by
  intro service worked
  obtain ⟨f, job, told, q, performs⟩ := perform_refresh service payload settings.retention { store, readOnly } []
  obtain ⟨left, requests, runs⟩ : ∃ left requests, runOn around settings (refreshOf payload) database store readOnly =
      { printed := f.lines, verdict := f.verdict, left, requests } := by
    unfold runOn
    rw [made]
    dsimp only
    rw [performs]
    exact ⟨_, _, rfl⟩
  rw [runs]
  exact told.outcome job rfl rfl

/-! ### The command and its job -/

/-- The status that the command is told in an event. -/
def Event.told? : Event → Option Status
  | .call (.poll _ (some (.status status))) => some status
  | _ => none

/-- Only a status that the command is told makes it print, and signs of life do not. -/
theorem Watched.lines_step (watched : Watched retention payload events w) (keepsOne : 0 < retention)
    (step : Watches payload w event v) :
    v.phase.lines = w.phase.lines ++ event.told?.toList.map (Follower.lineOf 1) := by
  have fits := (watched.sound keepsOne).fits
  have hears {f : Follower} (job : f.job = 1) (delivery : Delivery) :
      (Phase.hear f delivery).lines =
        f.lines ++ (Event.call (.poll 0 (some delivery))).told?.toList.map (Follower.lineOf 1) := by
    cases delivery with
    | status status =>
        rw [← job]
        rfl
    | keepAlive | ended => exact (List.append_nil _).symm
  cases step with
  | work isWork step => exact (List.append_nil _).symm
  | @publish result t here step =>
      rw [here]
      cases result <;> rfl
  | @attach job result t here step =>
      rw [here]
      cases result <;> rfl
  | @look f delivery t here step =>
      rw [here] at fits ⊢
      obtain ⟨finished, keeps⟩ := fits
      cases delivery with
      | none => exact (List.append_nil _).symm
      | some delivery => exact hears keeps.job delivery
  | @wake f delivery t here step =>
      rw [here] at fits ⊢
      have keeps : Keeps f false w.scene := fits
      cases delivery with
      | none => exact (List.append_nil _).symm
      | some delivery => exact hears keeps.job delivery
  | expire here =>
      rw [here]
      exact (List.append_nil _).symm

/-- What was printed are the first statuses that the job has told. -/
theorem Watched.lines_prefix (watched : Watched retention payload events w) (keepsOne : 0 < retention) :
    w.phase.lines <+: (w.scene.accepted 1).map (Follower.lineOf 1) := by
  have fits := (watched.sound keepsOne).fits
  have whole {f : Follower} {finished : Bool} (keeps : Keeps f finished w.scene) :
      f.lines <+: (w.scene.accepted 1).map (Follower.lineOf 1) := by
    obtain ⟨told, lines, whole, -⟩ := keeps.told
    rw [lines, ← whole]
    exact (List.prefix_append told _).map _
  obtain ⟨s, phase⟩ := w
  cases phase with
  | publishing | attaching | refused => exact List.nil_prefix
  | looking f =>
      obtain ⟨finished, keeps⟩ := fits
      exact whole keeps
  | waiting f => exact whole fits
  | closed f => exact whole fits

/-- **A command prints what its job tells, and ends as its job.** With settings that are accepted, whatever the worker
reports and however its work ends, and in whatever order the worker and the command take their turns: the command is
never refused. What it has printed at any moment are the first statuses that the job has told, a line for each, and
nothing else makes it print. When it is over it has printed all of them: that the job was queued and runs, what it
reported before it finished, and at last, and only then, an end, which is what the work came to. Each line is JSON that
names the job and reads back as the status that it stands for. The program exits with zero just if that end is done, and
otherwise it fails with what the end says. The command is stuck nowhere, and once the job has finished it is over after
at most two more turns than there are statuses that wait. The refreshes that the program performs print the same lines
and end in the same way, and nothing else is written when they are run. -/
theorem command_follows_job {env : Environment} {settings : Settings}
    (accepted : Settings.ofEnvironment env = .ok settings) (watched : Watched settings.retention payload events w) :
    (∀ fault, w.phase ≠ .refused fault) ∧
    (∀ status, Follower.Tells 1 status (Follower.lineOf 1 status)) ∧
    (w.phase.lines <+: (w.scene.accepted 1).map (Follower.lineOf 1)) ∧
    (∀ event v, Watches payload w event v →
      v.phase.lines = w.phase.lines ++ event.told?.toList.map (Follower.lineOf 1)) ∧
    (∀ f, w.phase = .closed f → f.job = 1 ∧ ∃ before after ending, movesOf events = before ++ .finish 1 :: after ∧
      Move.conclude 1 ending ∈ before ∧
      w.scene.accepted 1 = opening payload (reportsOf 1 before) ++ [Queue.terminalOf 1 false ending] ∧
      f.HasTold payload (reportsOf 1 before) (Queue.terminalOf 1 false ending)) ∧
    ((∃ f, w.phase = .closed f) ∨ ∃ event v, event.isOwn = true ∧ Watches payload w event v) ∧
    (Move.finish 1 ∈ movesOf events → ∀ more v, Watching payload w more v →
      more.countP Event.isOwn ≤ (w.scene.queue.feed 1).pending.length + 2) ∧
    (∀ (s : Sync.Service) world printed, let worked := execute s payload .never world
      ∃ f : Follower, f.job = 1 ∧
        f.HasTold payload (worked.2.reports.drop world.reports.length)
          (Queue.terminalOf 1 false (.returned worked.1)) ∧
        ∃ q, perform s (refreshOf payload) ⟨world, { retention := settings.retention }, printed⟩ =
          (f.verdict, ⟨worked.2, q, printed ++ f.lines⟩)) ∧
    (∀ around client database store readOnly, Portal.Client.ofSettings settings.portal = .ok client →
      let service : Sync.Service := ⟨client.responder around.network, settings.forServices around.thisYear⟩
      let worked := execute service payload .never { store, readOnly }
      (runOn around settings (refreshOf payload) database store readOnly).HasTold payload worked.2.reports
        (Queue.terminalOf 1 false (.returned worked.1))) := by
  have keepsOne : 0 < settings.retention := by
    rw [Settings.retention_of_accepted accepted]
    decide
  refine ⟨?_, Follower.tells_lineOf 1, watched.lines_prefix keepsOne, fun event v => watched.lines_step keepsOne,
    fun f => watched.told keepsOne, watched.goes_on keepsOne, ?_, fun s => perform_refresh s payload settings.retention,
    fun around client database store readOnly => runOn_refresh around settings payload database store readOnly⟩
  · intro fault refused
    have fits := (watched.sound keepsOne).fits
    rw [refused] at fits
    exact fits
  · intro finished more v watching
    have nearer := watched.left_le keepsOne finished watching
    have bound := watched.left_bound keepsOne finished
    omega

/-- The end of a job whose work breaks down, and what is printed of the job. -/
def brokenJobEnd : Status := .failed (.internal "job 1 aborted: task panicked")
def brokenJobLines : List String :=
  ["\x7b\"job_id\":1,\"status\":\"queued\"\x7d",
    "\x7b\"job_id\":1,\"status\":\"running\",\"detail\":\"refresh 1 students from pid 7\"\x7d",
    "\x7b\"job_id\":1,\"status\":\"running\",\"detail\":\"pid 7\"\x7d",
    "\x7b\"job_id\":1,\"status\":\"failed\",\"error\":\x7b\"kind\":\"internal\"," ++
      "\"message\":\"job 1 aborted: task panicked\"\x7d\x7d"]

/-- The work breaks down while the reader of a command waits, after a sign of life. -/
theorem command_follows_broken_job : ∃ events w f,
    Settings.ofEnvironment (listing "Test") = .ok (listingSettings ["Test"]) ∧
    Watched (listingSettings ["Test"]).retention sampleJob.payload events w ∧ w.phase = .closed f ∧
    f.HasTold sampleJob.payload ["pid 7"] brokenJobEnd ∧ f.lines = brokenJobLines ∧
    List.Forall₂ (Follower.Tells 1) (opening sampleJob.payload ["pid 7"] ++ [brokenJobEnd]) brokenJobLines := by
  have accepted : Settings.ofEnvironment (listing "Test") = .ok (listingSettings ["Test"]) := by decide +kernel
  have concludes {events : List Event} {w : Watch} {f : Follower}
      (watched : Watched (listingSettings ["Test"]).retention sampleJob.payload events w) (closed : w.phase = .closed f)
      (life : w.scene.accepted 1 = opening sampleJob.payload ["pid 7"] ++ [brokenJobEnd]) :
      f.HasTold sampleJob.payload ["pid 7"] brokenJobEnd ∧ f.lines = brokenJobLines ∧
        List.Forall₂ (Follower.Tells 1) (opening sampleJob.payload ["pid 7"] ++ [brokenJobEnd]) brokenJobLines := by
    obtain ⟨-, line, -, -, told, -⟩ := command_follows_job accepted watched
    obtain ⟨job, before, after, ending, -, -, whole, tells⟩ := told f closed
    obtain ⟨opened, ended⟩ := List.append_inj' (whole.symm.trans life) rfl
    have details : reportsOf 1 before = ["pid 7"] := by simpa [opening] using opened
    rw [details, List.singleton_inj.mp ended] at tells
    have texts : (opening sampleJob.payload ["pid 7"] ++ [brokenJobEnd]).map (Follower.lineOf 1) = brokenJobLines := by
      decide +kernel
    refine ⟨tells, by rw [tells.lines, job, texts], ?_⟩
    rw [← texts, List.forall₂_map_right_iff, List.forall₂_same]
    exact fun status _ => line status
  have published : Watched (listingSettings ["Test"]).retention sampleJob.payload _ _ :=
    Watching.none.next (.publish rfl (.publish rfl))
  have started := published.next (.work rfl (@Step.start _ sampleJob rfl))
  have attached := started.next (.attach rfl (.subscribe rfl))
  have toldQueued := attached.next (.look rfl (.poll rfl rfl))
  have toldRunning := toldQueued.next (.look rfl (.poll rfl rfl))
  have waits := toldRunning.next (.look rfl (.poll rfl rfl))
  have calmed := waits.next (.expire rfl)
  have reported := calmed.next (.work rfl (@Step.report _ 1 ⟨sampleJob, .working⟩ "pid 7" rfl (by simp)))
  have toldReport := reported.next (.look rfl (.poll rfl rfl))
  have waitsAgain := toldReport.next (.look rfl (.poll rfl rfl))
  have broke := waitsAgain.next (.work rfl (@Step.conclude _ sampleJob (.broke "task panicked") rfl))
  have finished := broke.next (.work rfl (@Step.finish _ sampleJob _ rfl))
  have woken := finished.next (.wake rfl (.poll rfl rfl))
  have closed := woken.next (.look rfl (.poll rfl rfl))
  exact ⟨_, _, _, accepted, closed, rfl, concludes closed rfl rfl⟩

end Gradebook.Command
