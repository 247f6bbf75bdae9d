import Gradebook.Jobs.Rehearsal
import Gradebook.Proofs.Jobs.Lifecycle
import Mathlib.Data.List.Nodup

/-! Rehearsals are runs. A rehearsal serves its jobs, its readers and whoever closes by rules of its own, in
rounds and in a time of its own, but all that it does to the queue are moves that those who use the queue can
make. What is to be run is shared out among the workers: each task is about a job of its own, and the worker of
the job is at the stage where the task takes it up. Each named reader sits in a place of its own. One lemma for
each thing that a rehearsal does by itself says that it goes on by such moves, and that nobody calls or is given
anything in them. -/

namespace Gradebook.Jobs

variable {retention : Nat} {s t : Scene} {moves more : List Move} {id : JobId} {task : Task}

/-! ### Tasks and workers -/

/-- The job that a task is about. -/
def Task.job? : Task → Option JobId
  | .start job => some job.id
  | .execute job => some job.id
  | .work id _ => some id
  | .conclude id _ => some id
  | .shut => none
  | .noteDrained => none

/-- The worker of a job has come to a stage. -/
def Scene.IsAt (s : Scene) (id : JobId) (stage : Stage) : Prop := ∃ job, s.worker id = some ⟨job, stage⟩

/-- The worker of the task's job is where the task takes it up. -/
def Task.Fits (s : Scene) : Task → Prop
  | .start job => s.worker job.id = some ⟨job, .accepted⟩
  | .execute job => s.IsAt job.id .working
  | .work id _ => s.IsAt id .working
  | .conclude id ending => s.IsAt id (.ended ending)
  | .shut => True
  | .noteDrained => True

theorem Task.Fits.congr (fits : task.Fits s) (same : ∀ id, task.job? = some id → t.worker id = s.worker id) :
    task.Fits t := by
  cases task with
  | start job => exact (same job.id rfl).trans fits
  | execute job | work id script | conclude id ending =>
      obtain ⟨job, at_⟩ := fits
      exact ⟨job, (same _ rfl).trans at_⟩
  | shut | noteDrained => trivial

theorem Task.Fits.known (fits : task.Fits s) (about : task.job? = some id) : ∃ w, s.worker id = some w := by
  cases task with
  | start job =>
      cases about
      exact ⟨_, fits⟩
  | execute job | work id script | conclude id ending =>
      cases about
      obtain ⟨job, at_⟩ := fits
      exact ⟨_, at_⟩
  | shut | noteDrained => cases about

/-- Tasks are shared out among the workers, no two of them about one job. -/
structure Assigned (s : Scene) (tasks : List Task) : Prop where
  fits : ∀ task ∈ tasks, task.Fits s
  once : (tasks.filterMap Task.job?).Nodup

namespace Assigned

variable {tasks others next : List Task}

theorem perm (assigned : Assigned s tasks) (same : others.Perm tasks) : Assigned s others where
  fits task among := assigned.fits task (same.mem_iff.mp among)
  once := (same.filterMap Task.job?).nodup_iff.mpr assigned.once

theorem congr (assigned : Assigned s tasks) (workers : t.worker = s.worker) : Assigned t tasks where
  fits task among := (assigned.fits task among).congr fun id _ => congrFun workers id
  once := assigned.once

/-- A task is done, and what follows it about its job, if anything, fits where that left the worker of the job. -/
theorem turn (assigned : Assigned s (task :: tasks)) (about : task.job? = some id)
    (others : ∀ other, other ≠ id → t.worker other = s.worker other) (fits : ∀ task ∈ next, task.Fits t)
    (follows : (next.filterMap Task.job?).Sublist [id]) : Assigned t (next ++ tasks) := by
  have all : (task :: tasks).filterMap Task.job? = id :: tasks.filterMap Task.job? := List.filterMap_cons_some about
  have once := assigned.once
  rw [all] at once
  constructor
  · intro later among
    rcases List.mem_append.mp among with among | among
    · exact fits later among
    · refine (assigned.fits later (List.mem_cons_of_mem _ among)).congr fun other same => others other ?_
      rintro rfl
      exact (List.nodup_cons.mp once).1 (List.mem_filterMap.mpr ⟨later, among, same⟩)
  · rw [List.filterMap_append]
    exact (follows.append_right _).nodup once

/-- A job that nobody worked at has a first task. -/
theorem born (assigned : Assigned s tasks) (about : task.job? = some id) (new : s.worker id = none)
    (others : ∀ other, other ≠ id → t.worker other = s.worker other) (fits : task.Fits t) :
    Assigned t (task :: tasks) := by
  have apart : ∀ later ∈ tasks, later.job? ≠ some id := by
    intro later among same
    obtain ⟨w, known⟩ := (assigned.fits later among).known same
    exact absurd (new.symm.trans known) nofun
  constructor
  · refine List.forall_mem_cons.mpr ⟨fits, fun later among => ?_⟩
    refine (assigned.fits later among).congr fun other same => others other ?_
    rintro rfl
    exact apart later among same
  · rw [List.filterMap_cons_some about, List.nodup_cons]
    refine ⟨fun among => ?_, assigned.once⟩
    obtain ⟨later, among, same⟩ := List.mem_filterMap.mp among
    exact apart later among same

/-- A task that is about no job can come and go. -/
theorem free (task : Task) (none : task.job? = none) (trivial : task.Fits s) :
    Assigned s (task :: tasks) ↔ Assigned s tasks := by
  have all : (task :: tasks).filterMap Task.job? = tasks.filterMap Task.job? := List.filterMap_cons_none none
  constructor
  · intro assigned
    exact ⟨fun later among => assigned.fits later (List.mem_cons_of_mem _ among), all ▸ assigned.once⟩
  · intro assigned
    exact ⟨List.forall_mem_cons.mpr ⟨trivial, assigned.fits⟩, all.symm ▸ assigned.once⟩

end Assigned

/-! ### Readers and places -/

/-- Each named reader has a place of its own. -/
def Seated (seats : List Reader) (named : List (String × Reader)) : Prop :=
  ∃ place : String → Nat, (∀ entry ∈ named, seats[place entry.1]? = some entry.2) ∧
    (named.map fun entry => place entry.1).Nodup

namespace Seated

variable {seats : List Reader} {named : List (String × Reader)} {name : String} {reader : Reader}

theorem filter (seated : Seated seats named) (keeps : String × Reader → Bool) :
    Seated seats (named.filter keeps) := by
  obtain ⟨place, sits, apart⟩ := seated
  exact ⟨place, fun entry among => sits entry (List.mem_filter.mp among).1,
    (List.filter_sublist.map _).nodup apart⟩

/-- A new reader takes the next place, under a name that nobody else has. -/
theorem enter (seated : Seated seats named) (free : ∀ entry ∈ named, entry.1 ≠ name) :
    Seated (seats ++ [reader]) ((name, reader) :: named) := by
  obtain ⟨place, sits, apart⟩ := seated
  let taken (other : String) : Nat := if other = name then seats.length else place other
  have kept {entry : String × Reader} (among : entry ∈ named) : taken entry.1 = place entry.1 :=
    if_neg (free entry among)
  have inside {entry : String × Reader} (among : entry ∈ named) : place entry.1 < seats.length :=
    (List.getElem?_eq_some_iff.mp (sits entry among)).1
  refine ⟨taken, List.forall_mem_cons.mpr ⟨?_, fun entry among => ?_⟩, ?_⟩
  · simp [taken]
  · rw [kept among, List.getElem?_append_left (inside among)]
    exact sits entry among
  · rw [List.map_cons, List.nodup_cons, List.map_congr_left fun entry among => kept among]
    refine ⟨fun among => ?_, apart⟩
    obtain ⟨entry, among, same⟩ := List.mem_map.mp among
    have own : taken name = seats.length := if_pos rfl
    exact absurd (inside among) (by rw [same, own]; exact Nat.lt_irrefl _)

/-- A named reader can be found in a place, and what is put there is that name's. -/
theorem change (seated : Seated seats named) (among : (name, reader) ∈ named) : ∃ k, seats[k]? = some reader ∧
    ∀ reader', Seated (seats.set k reader')
      (named.map fun entry => if entry.1 == name then (name, reader') else entry) := by
  obtain ⟨place, sits, apart⟩ := seated
  refine ⟨place name, sits _ among, fun reader' => ⟨place, ?_, ?_⟩⟩
  · intro entry changed
    obtain ⟨earlier, hearlier, rfl⟩ := List.mem_map.mp changed
    by_cases own : earlier.1 = name
    · have inside := (List.getElem?_eq_some_iff.mp (sits _ among)).1
      simp [own, inside]
    · have other : place name ≠ place earlier.1 := fun same =>
        own (congrArg Prod.fst (List.inj_on_of_nodup_map apart among hearlier same)).symm
      rw [if_neg (by simpa using own), List.getElem?_set_ne other]
      exact sits earlier hearlier
  · have same : (named.map fun entry => if entry.1 == name then (name, reader') else entry).map
        (fun entry => place entry.1) = named.map fun entry => place entry.1 := by
      rw [List.map_map]
      refine List.map_congr_left fun entry _ => ?_
      by_cases own : entry.1 = name <;> simp [own]
    rw [same]
    exact apart

end Seated

namespace Rehearsal

variable {r r' : Rehearsal} {hand next : List Task}

/-! ### The scene of a rehearsal -/

/-- All that is still to be run. A job that waits is worked on with its script. -/
def tasks (r : Rehearsal) : List Task := r.ready ++ r.deferred ++ r.waiting.map fun w => .work w.job w.script

/-- What readers were given in some moves, oldest first. -/
def handed (moves : List Move) : List Delivery :=
  moves.filterMap fun
    | .poll _ delivery => delivery
    | _ => none

theorem handed_append (moves more : List Move) : handed (moves ++ more) = handed moves ++ handed more :=
  List.filterMap_append

/-- The calls of publishers, subscribers and cancellers in some moves, oldest first, with their results. -/
def calls (moves : List Move) : List Move :=
  moves.filter fun
    | .publish _ _ => true
    | .subscribe _ _ => true
    | .takeToken _ _ => true
    | _ => false

theorem calls_append (moves more : List Move) : calls (moves ++ more) = calls moves ++ calls more :=
  List.filter_append moves more

/-- In some moves nobody calls and no reader is given anything. -/
def Quiet (moves : List Move) : Prop := calls moves = [] ∧ handed moves = []

theorem Quiet.append (first : Quiet moves) (second : Quiet more) : Quiet (moves ++ more) := by
  constructor
  · rw [calls_append, first.1, second.1, List.append_nil]
  · rw [handed_append, first.2, second.2, List.append_nil]

/-- A rehearsal plays a run that has come to a scene, with some tasks taken in hand. -/
structure Plays (retention : Nat) (hand : List Task) (r : Rehearsal) (moves : List Move) (s : Scene) : Prop where
  run : Run retention moves s
  queue : s.queue = r.queue
  assigned : Assigned s (hand ++ r.tasks)
  seated : Seated s.readers r.readers

/-- Whatever run the first rehearsal plays, the second plays a quiet continuation of it. The readers stay as they
were. -/
def GoesOn (retention : Nat) (hand : List Task) (r : Rehearsal) (next : List Task) (r' : Rehearsal) : Prop :=
  r'.readers = r.readers ∧ ∀ moves s, Plays retention hand r moves s →
    ∃ more t, Quiet more ∧ Plays retention next r' (moves ++ more) t

namespace GoesOn

theorem trans {last : List Task} {r'' : Rehearsal} (first : GoesOn retention hand r next r')
    (second : GoesOn retention next r' last r'') : GoesOn retention hand r last r'' := by
  refine ⟨second.1.trans first.1, fun moves s plays => ?_⟩
  obtain ⟨more, t, quiet, plays⟩ := first.2 moves s plays
  obtain ⟨others, u, still, plays⟩ := second.2 _ t plays
  exact ⟨more ++ others, u, quiet.append still, List.append_assoc moves more others ▸ plays⟩

/-- The queue is left alone, and what is to be run is still shared out. -/
theorem of_assigned (queue : r'.queue = r.queue) (readers : r'.readers = r.readers)
    (same : ∀ s, Assigned s (hand ++ r.tasks) → Assigned s (next ++ r'.tasks)) : GoesOn retention hand r next r' := by
  refine ⟨readers, fun moves s plays => ⟨[], s, ⟨rfl, rfl⟩, ?_⟩⟩
  rw [List.append_nil]
  exact ⟨plays.run, plays.queue.trans queue.symm, same s plays.assigned, readers ▸ plays.seated⟩

/-- What is to be run is put in another order. -/
theorem of_perm (queue : r'.queue = r.queue) (readers : r'.readers = r.readers)
    (same : (next ++ r'.tasks).Perm (hand ++ r.tasks)) : GoesOn retention hand r next r' :=
  of_assigned queue readers fun _ assigned => assigned.perm same

theorem refl (r : Rehearsal) : GoesOn retention hand r hand r := of_perm rfl rfl (.refl _)

/-- Behind moves that were made already, it goes on without any more calls and deliveries. -/
theorem after (goesOn : GoesOn retention hand r next r') (plays : Plays retention hand r (moves ++ more) s) :
    ∃ further t, calls further = calls more ∧ handed further = handed more ∧
      Plays retention next r' (moves ++ further) t := by
  obtain ⟨rest, t, quiet, plays⟩ := goesOn.2 _ s plays
  refine ⟨more ++ rest, t, ?_, ?_, List.append_assoc moves more rest ▸ plays⟩
  · rw [calls_append, quiet.1, List.append_nil]
  · rw [handed_append, quiet.2, List.append_nil]

end GoesOn

/-- A task in hand is done by moves of its job's worker that change the queue in some way. -/
theorem Plays.turn (plays : Plays retention [task] r moves s) (change : Queue → Queue) (about : task.job? = some id)
    (steps : Steps s more t) (queue : t.queue = change s.queue) (seats : t.readers = s.readers)
    (others : ∀ other, other ≠ id → t.worker other = s.worker other) (fits : ∀ task ∈ next, task.Fits t)
    (follows : (next.filterMap Task.job?).Sublist [id]) :
    Plays retention next (r.onQueue change) (moves ++ more) t where
  run := plays.run.append steps
  queue := queue.trans (congrArg change plays.queue)
  assigned := plays.assigned.turn about others fits follows
  seated := seats ▸ plays.seated

/-- Moves that concern no worker and no reader change the queue in some way. -/
theorem Plays.idle (plays : Plays retention hand r moves s) (change : Queue → Queue) (steps : Steps s more t)
    (queue : t.queue = change s.queue) (seats : t.readers = s.readers) (workers : t.worker = s.worker) :
    Plays retention hand (r.onQueue change) (moves ++ more) t where
  run := plays.run.append steps
  queue := queue.trans (congrArg change plays.queue)
  assigned := plays.assigned.congr workers
  seated := seats ▸ plays.seated

/-- The worker of a job that is at a stage has that job. -/
theorem Plays.worker (plays : Plays retention hand r moves s) {stage : Stage} (at_ : s.IsAt id stage) :
    ∃ job : Job, job.id = id ∧ s.worker job.id = some ⟨job, stage⟩ := by
  obtain ⟨job, at_⟩ := at_
  obtain ⟨rfl, -⟩ := (Steps.chronicled plays.run id).numbered _ at_
  exact ⟨job, rfl, at_⟩

/-! ### Work -/

theorem enqueue_goesOn (task : Task) (r : Rehearsal) : GoesOn retention [task] r [] (r.enqueue task) := by
  refine .of_perm rfl rfl ?_
  change (r.ready ++ [task] ++ r.deferred ++ _).Perm (task :: (r.ready ++ r.deferred ++ _))
  rw [List.append_assoc, List.append_assoc, List.append_assoc]
  exact List.perm_middle

theorem putOff_goesOn (task : Task) (r : Rehearsal) : GoesOn retention [task] r [] (r.putOff task) := by
  refine .of_perm rfl rfl ?_
  change (r.ready ++ task :: r.deferred ++ _).Perm (task :: (r.ready ++ r.deferred ++ _))
  rw [List.append_assoc, List.append_assoc, List.cons_append]
  exact List.perm_middle

/-- Whatever script a job is worked on with, its worker is at work. -/
theorem script_goesOn (script later : Script) (r : Rehearsal) :
    GoesOn retention [.work id script] r [.work id later] r := by
  refine .of_assigned rfl rfl fun s assigned => ?_
  refine assigned.turn rfl (fun _ _ => rfl) ?_ (.refl _)
  exact List.forall_mem_singleton.mpr (assigned.fits (.work id script) List.mem_cons_self)

theorem wait_goesOn (hold : Hold) (script later : Script) (r : Rehearsal) :
    GoesOn retention [.work id script] r [] (r.wait id hold later) := by
  refine (script_goesOn script later r).trans (.of_perm rfl rfl ?_)
  change (r.ready ++ r.deferred ++ (r.waiting ++ [Waiting.mk id hold later]).map _).Perm
    (_ :: (r.ready ++ r.deferred ++ _))
  rw [List.map_append, ← List.append_assoc]
  exact List.perm_append_singleton _ _

theorem report_goesOn (detail : String) (script later : Script) (r : Rehearsal) :
    GoesOn retention [.work id script] r [.work id later] (r.onQueue (Queue.report id detail)) := by
  refine ⟨rfl, fun moves s plays => ?_⟩
  obtain ⟨job, at_⟩ : s.IsAt id .working := plays.assigned.fits (.work id script) List.mem_cons_self
  have steps : Steps s [.report id detail] _ := Steps.none.next (.report at_ nofun)
  refine ⟨[.report id detail], _, ⟨rfl, rfl⟩,
    plays.turn (Queue.report id detail) rfl steps rfl rfl (fun _ _ => rfl) ?_ (.refl _)⟩
  exact List.forall_mem_singleton.mpr ⟨job, at_⟩

theorem conclude_goesOn (script : Script) (ending : Ending) (r : Rehearsal) :
    GoesOn retention [.work id script] r [] (r.conclude id ending) := by
  have ends : GoesOn retention [.work id script] r [.conclude id ending] r := by
    refine ⟨rfl, fun moves s plays => ?_⟩
    obtain ⟨job, rfl, works⟩ := plays.worker (plays.assigned.fits (.work id script) List.mem_cons_self)
    have steps : Steps s [.conclude job.id ending] _ := Steps.none.next (.conclude works)
    refine ⟨[.conclude job.id ending], _, ⟨rfl, rfl⟩,
      plays.turn (fun q => q) rfl steps rfl rfl ?_ ?_ (.refl _)⟩
    · exact fun other apart => if_neg apart
    · exact List.forall_mem_singleton.mpr ⟨job, if_pos rfl⟩
  exact ends.trans (enqueue_goesOn (.conclude id ending) r)

/-- A job is worked on until it waits, is put off or ends. -/
theorem work_goesOn (id : JobId) (credit : Nat) (script : Script) (r : Rehearsal) :
    GoesOn retention [.work id script] r [] (work id credit script r) := by
  fun_induction work id credit script r
  case case1 | case12 | case15 | case17 | case18 | case19 => exact conclude_goesOn _ _ _
  case case2 ih | case3 ih => exact (report_goesOn _ _ _ _).trans ih
  case case4 ih | case7 ih | case9 ih | case13 ih | case16 ih => exact (script_goesOn _ _ _).trans ih
  case case5 | case8 | case10 | case14 => exact wait_goesOn _ _ _ _
  case case6 | case11 => exact putOff_goesOn _ _

/-! ### Rounds -/

/-- A task about no job is nobody's to begin with. -/
theorem free_goesOn (task : Task) (none : task.job? = none) (trivial : ∀ s, task.Fits s) (r : Rehearsal) :
    GoesOn retention [] r [task] r :=
  .of_assigned rfl rfl fun s => (Assigned.free task none (trivial s)).mpr

theorem wakeCloser_goesOn (r : Rehearsal) : GoesOn retention [] r [] r.wakeCloser := by
  unfold wakeCloser
  split
  · exact (free_goesOn .noteDrained rfl (fun _ => True.intro) r).trans (enqueue_goesOn .noteDrained r)
  · exact .refl r

theorem start_goesOn (job : Job) (r : Rehearsal) :
    GoesOn retention [.start job] r [.execute job] (r.onQueue (Queue.start job)) := by
  refine ⟨rfl, fun moves s plays => ?_⟩
  have waits : s.worker job.id = some ⟨job, .accepted⟩ := plays.assigned.fits (.start job) List.mem_cons_self
  have steps : Steps s [.start job.id] _ := Steps.none.next (.start waits)
  refine ⟨[.start job.id], _, ⟨rfl, rfl⟩, plays.turn (Queue.start job) rfl steps rfl rfl ?_ ?_ (.refl _)⟩
  · exact fun other apart => if_neg apart
  · exact List.forall_mem_singleton.mpr ⟨job, if_pos rfl⟩

/-- A job that is concluded finishes and returns. -/
theorem finish_goesOn (ending : Ending) (r : Rehearsal) :
    GoesOn retention [.conclude id ending] r [] (r.onQueue fun q => (q.finish id ending).leave id) := by
  refine ⟨rfl, fun moves s plays => ?_⟩
  obtain ⟨job, rfl, ends⟩ := plays.worker (plays.assigned.fits (.conclude id ending) List.mem_cons_self)
  have decided : ((s.withQueue (s.queue.finish job.id ending)).withWorker job .decided).worker job.id =
      some ⟨job, .decided⟩ := if_pos rfl
  have steps : Steps s [.finish job.id, .leave job.id] _ := (Steps.none.next (.finish ends)).next (.leave decided)
  refine ⟨[.finish job.id, .leave job.id], _, ⟨rfl, rfl⟩,
    plays.turn (fun q => (q.finish job.id ending).leave job.id) rfl steps rfl rfl ?_ nofun (List.nil_sublist _)⟩
  exact fun other apart => (if_neg apart).trans (if_neg apart)

theorem shut_goesOn (r : Rehearsal) : GoesOn retention hand r hand { r with queue := r.queue.shut.2 } :=
  ⟨rfl, fun _ _ plays => ⟨[.shut _], _, ⟨rfl, rfl⟩,
    plays.idle (fun q => q.shut.2) (Steps.none.next .shut) rfl rfl rfl⟩⟩

/-- Whatever task is run, its job or whoever closes goes on by moves. -/
theorem runTask_goesOn (task : Task) (r : Rehearsal) : GoesOn retention [task] r [] (runTask r task) := by
  cases task with
  | start job => exact (start_goesOn job r).trans (enqueue_goesOn (.execute job) _)
  | execute job =>
      refine .trans (.of_assigned rfl rfl fun s assigned => ?_) (work_goesOn job.id stride (r.scriptOf job) r)
      refine assigned.turn rfl (fun _ _ => rfl) ?_ (.refl _)
      exact List.forall_mem_singleton.mpr (assigned.fits (.execute job) List.mem_cons_self)
  | work id script => exact work_goesOn id stride script r
  | conclude id ending => exact (finish_goesOn ending r).trans (wakeCloser_goesOn _)
  | shut =>
      have dropped (closing : Closing) : GoesOn retention [.shut] r [] { r with queue := r.queue.shut.2, closing } :=
        (shut_goesOn r).trans (.of_assigned rfl rfl fun s => (Assigned.free .shut rfl True.intro).mp)
      simp only [runTask]
      split
      · exact dropped .waiting
      · exact dropped .done
  | noteDrained => exact .of_assigned rfl rfl fun s => (Assigned.free .noteDrained rfl True.intro).mp

theorem serve_goesOn (count : Nat) (r : Rehearsal) : GoesOn retention [] r [] (serve count r) := by
  induction count generalizing r with
  | zero => exact .refl r
  | succ count ih =>
      unfold serve
      split
      · next task rest line =>
        have taken : GoesOn retention [] r [task] { r with ready := rest } := by
          refine .of_perm rfl rfl ?_
          change (task :: (rest ++ r.deferred ++ _)).Perm (r.ready ++ r.deferred ++ _)
          rw [line]
          exact .refl _
        exact (taken.trans (runTask_goesOn task _)).trans (ih _)
      · exact .refl r

theorem round_goesOn (r : Rehearsal) : GoesOn retention [] r [] r.round := by
  refine (serve_goesOn roundSize r).trans (.of_perm rfl rfl ?_)
  change ((serve roundSize r).ready ++ (serve roundSize r).deferred ++ [] ++ _).Perm _
  rw [List.append_nil]
  exact .refl _

theorem settleWithin_goesOn (fuel : Nat) (r : Rehearsal) : GoesOn retention [] r [] (settleWithin fuel r) := by
  fun_induction settleWithin fuel r with
  | case1 | case2 => exact .refl _
  | case3 fuel r busy ih => exact (round_goesOn r).trans ih

theorem settle_goesOn (r : Rehearsal) : GoesOn retention [] r [] r.settle :=
  (settleWithin_goesOn r.effort r).trans (.of_perm rfl rfl (.refl _))

/-- Jobs that waited stand in line again. -/
theorem release_goesOn (holds : Waiting → Bool) (r : Rehearsal) : GoesOn retention [] r [] (r.release holds) := by
  refine .of_perm rfl rfl ?_
  let script (w : Waiting) : Task := .work w.job w.script
  change (r.ready ++ (r.waiting.filter holds).map script ++ r.deferred ++
    (r.waiting.filter fun w => !holds w).map script).Perm (r.ready ++ r.deferred ++ r.waiting.map script)
  have all : ((r.waiting.filter holds).map script ++ (r.waiting.filter fun w => !holds w).map script).Perm
      (r.waiting.map script) := by
    rw [← List.map_append]
    exact (List.filter_append_perm holds r.waiting).map script
  simp only [List.append_assoc]
  refine .append_left r.ready ?_
  rw [← List.append_assoc]
  exact (List.perm_append_comm.append_right _).trans (by rw [List.append_assoc]; exact all.append_left _)

theorem advance_goesOn (moment : Nat) (r : Rehearsal) : GoesOn retention [] r [] (r.advance moment) := by
  have later : GoesOn retention [] r [] { r with now := moment } := .of_perm rfl rfl (.refl _)
  exact later.trans (release_goesOn _ _)

theorem passWithin_goesOn (deadline : Nat) (stop : Rehearsal → Bool) (fuel : Nat) (r : Rehearsal) :
    GoesOn retention [] r [] (passWithin deadline stop fuel r).2 := by
  have timed (moment credit : Nat) (r : Rehearsal) : GoesOn retention [] r [] { r.advance moment with credit } :=
    (advance_goesOn moment r).trans (.of_perm rfl rfl (.refl _))
  fun_induction passWithin deadline stop fuel r with
  | case1 r => exact .refl r
  | case2 fuel r after stops => exact (round_goesOn r).trans (.of_perm rfl rfl (.refl _))
  | case3 fuel r after goes busy ih => exact (round_goesOn r).trans ih
  | case4 fuel r after goes idle due next early ih =>
      exact ((round_goesOn r).trans (advance_goesOn due after)).trans ih
  | case5 fuel r after goes idle due next late => exact (round_goesOn r).trans (timed deadline _ after)
  | case6 fuel r after goes idle never => exact (round_goesOn r).trans (timed deadline _ after)

end Rehearsal

end Gradebook.Jobs
