import Gradebook.Proofs.Refresh
import Gradebook.Proofs.Sync.Reconciliation

/-! Where a refresh stops. A run goes through its pupils one turn after the other, with a pause in between. Whatever
the portal answers, whatever goes wrong in the store and whenever a cancellation fires, it stops between two pupils:
the store and the reports tell of the same pupils, the first ones, and of each of them in full. -/

namespace Gradebook.Sync

open Portal Attempt

variable {s : Service} {purge : Bool} {pid : PupilId} {w v u : World}

/-! ### A store that breaks down -/

/-- The error, if any, with which the store ends the transaction about the pupil at a place. -/
abbrev Mishaps := Nat → Option Store.Error

/-- A transaction that may meet with a mishap, which undoes it. -/
def transactAmid {α : Type} (mishap : Option Store.Error) (a : Store.Action α) : Session α :=
  match mishap with
  | none => transact a
  | some e => .fail e.fault

namespace Service

def reconcileAmid (s : Service) (mishap : Option Store.Error) (purge : Bool) (pid : PupilId) :
    Session Reconciliation := do
  match ← (fetchStudent s.portal s.settings.currentAcademicYear pid).outcome with
  | .ok student => transactAmid mishap (reconcileWith pid purge (some student))
  | .error e =>
    if e.isNotFound then transactAmid mishap (reconcileWith pid purge none)
    else .fail (e.fault.within ("refresh student " ++ pid.text))

def refreshFromAmid (s : Service) (mishaps : Mishaps) (purge : Bool) (pupils : PupilRange)
    (cancellation : Cancellation) (done : Nat) (summary : Summary) : Nat → Session Summary
  | 0 => pure summary
  | remaining + 1 => do
    checkpoint "refresh students" cancellation done
    let pid := pupils.get done
    let action ← s.reconcileAmid (mishaps done) purge pid
    note (.reported ("pid " ++ pid.text ++ ": " ++ action.word))
    refreshFromAmid s mishaps purge pupils cancellation (done + 1) (action.count summary) remaining

/-- A refresh over a store that may break down at any pupil. -/
def refreshStudentsAmid (s : Service) (mishaps : Mishaps) (request : RefreshStudents)
    (cancellation : Cancellation) : Session Summary :=
  match request.pupils with
  | .ok pupils => s.refreshFromAmid mishaps request.purge pupils cancellation 0 {} pupils.count
  | .error fault => .fail fault

end Service

theorem reconcileAmid_none (s : Service) : s.reconcileAmid none = s.reconcile := rfl

theorem refreshFromAmid_none (s : Service) (purge : Bool) (pupils : PupilRange) (cancellation : Cancellation)
    (remaining done : Nat) (summary : Summary) :
    s.refreshFromAmid (fun _ => none) purge pupils cancellation done summary remaining =
      s.refreshFrom purge pupils cancellation done summary remaining := by
  induction remaining generalizing done summary with
  | zero => rfl
  | succ remaining ih =>
      unfold Service.refreshFromAmid Service.refreshFrom
      simp only [ih, reconcileAmid_none]

/-- Where nothing goes wrong in the store, the run is the refresh itself. -/
theorem refreshStudentsAmid_none (s : Service) (request : RefreshStudents) (cancellation : Cancellation) :
    s.refreshStudentsAmid (fun _ => none) request cancellation = s.refreshStudents request cancellation := by
  unfold Service.refreshStudentsAmid Service.refreshStudents
  cases request.pupils with
  | ok pupils => exact refreshFromAmid_none s request.purge pupils cancellation pupils.count 0 {}
  | error fault => rfl

/-! ### Faults that no cancellation makes -/

/-- The fault with which a cancellation ends a refresh. -/
abbrev stopped : Fault := .cancelled "refresh students"

theorem head?_append {start rest : String} {c : Char} (h : start.toList.head? = some c) :
    (start ++ rest).toList.head? = some c := by
  rw [String.toList_append, List.head?_append, h, Option.some_or]

/-- What the store says begins with a capital. -/
theorem message_starts (e : Store.Error) : ∃ c, e.message.toList.head? = some c ∧ c.isUpper = true := by
  cases e with
  | notFound what => exact ⟨'N', head?_append rfl, rfl⟩
  | conflict message => exact ⟨'C', head?_append rfl, rfl⟩
  | validation message => exact ⟨'V', head?_append rfl, rfl⟩
  | connection reason => exact ⟨'D', head?_append rfl, rfl⟩
  | migration reason => exact ⟨'M', head?_append rfl, rfl⟩
  | query reason => exact ⟨'Q', head?_append rfl, rfl⟩

theorem fault_ne_stopped (e : Store.Error) : e.fault ≠ stopped := by
  intro same
  obtain ⟨c, starts, upper⟩ := message_starts e
  have told : stopped.message.toList.head? = some c := by
    rw [← congrArg Fault.message same]
    exact starts
  have small : stopped.message.toList.head? = some 'r' := rfl
  rw [small] at told
  cases told
  cases upper

theorem within_ne_stopped (f : Fault) : f.within ("refresh student " ++ pid.text) ≠ stopped := by
  intro same
  -- a blank in the one message stands where the other has an s
  have told := congrArg (fun fault => fault.message.toList[15]?) same
  simp only [Fault.within, stopped, Fault.cancelled, Fault.internal] at told
  simp at told

/-! ### One turn -/

theorem transactAmid_cases {α : Type} (mishap : Option Store.Error) (a : Store.Action α) (w : World) :
    (∃ e : Store.Error, transactAmid mishap a w = (.error e.fault, w)) ∨
      ∃ x store, transact a w = (.ok x, { w with store }) ∧ transactAmid mishap a w = (.ok x, { w with store }) := by
  cases mishap with
  | some e => exact Or.inl ⟨e, rfl⟩
  | none =>
      rcases transact_cases a w with ⟨fault, fails⟩ | ⟨x, store, -, succeeds⟩
      · left
        rcases transact_fails (congrArg Prod.fst fails) with ⟨e, -, -, rfl⟩ | ⟨-, rfl⟩
        · exact ⟨e, fails⟩
        · exact ⟨_, fails⟩
      · exact Or.inr ⟨x, store, succeeds, succeeds⟩

/-- Whatever goes wrong, a pupil is reconciled in full, or else nothing happens but calls about the pupil. -/
theorem reconcileAmid_cases (s : Service) (mishap : Option Store.Error) (purge : Bool) (pid : PupilId) (w : World) :
    ∃ calls, (∀ call ∈ calls, call.pid = pid) ∧
      ((∃ fault ≠ stopped, s.reconcileAmid mishap purge pid w = (.error fault, w.having calls)) ∨
        ∃ action store, s.reconcile purge pid w = (.ok action, { w.having calls with store }) ∧
          s.reconcileAmid mishap purge pid w = (.ok action, { w.having calls with store })) := by
  obtain ⟨calls, hv, about⟩ := fetchStudent_asks s.portal s.settings.currentAcademicYear pid w
  refine ⟨calls, about, ?_⟩
  unfold Service.reconcileAmid Service.reconcile
  rw [bind_apply, bind_apply, outcome_apply, hv]
  have transacts (known : Option Student) := transactAmid_cases mishap (reconcileWith pid purge known) (w.having calls)
  cases (fetchStudent s.portal s.settings.currentAcademicYear pid w).1 with
  | ok student =>
      rcases transacts (some student) with ⟨e, fails⟩ | ⟨action, store, plain, succeeds⟩
      · exact Or.inl ⟨e.fault, fault_ne_stopped e, fails⟩
      · exact Or.inr ⟨action, store, plain, succeeds⟩
  | error e =>
      by_cases missing : e.isNotFound = true
      · simp only [if_pos missing]
        rcases transacts none with ⟨e, fails⟩ | ⟨action, store, plain, succeeds⟩
        · exact Or.inl ⟨e.fault, fault_ne_stopped e, fails⟩
        · exact Or.inr ⟨action, store, plain, succeeds⟩
      · simp only [if_neg missing]
        exact Or.inl ⟨_, within_ne_stopped e.fault, rfl⟩

/-- A pupil's turn in a run: the calls about the pupil and what was done. -/
structure Turn where
  pid : PupilId
  calls : List Call
  action : Reconciliation
  about : ∀ call ∈ calls, call.pid = pid

namespace Turn

/-- The line that tells of the turn. -/
def report (t : Turn) : String := "pid " ++ t.pid.text ++ ": " ++ t.action.word

def events (t : Turn) : List Event := t.calls.map .called ++ [.reported t.report]

end Turn

/-- What turns from a place on leave in the trace. -/
def traceFrom (done : Nat) : List Turn → List Event
  | [] => []
  | turn :: rest => pauseBefore done ++ turn.events ++ traceFrom (done + 1) rest

theorem traceFrom_cons (done : Nat) (turn : Turn) (rest : List Turn) :
    traceFrom done (turn :: rest) = pauseBefore done ++ [.paused].intercalate ((turn :: rest).map Turn.events) := by
  induction rest generalizing done turn with
  | nil => simp [traceFrom]
  | cons next rest ih =>
      rw [traceFrom, ih]
      simp only [List.map_cons, List.intercalate_cons_cons, List.append_assoc]
      rfl

/-- The turns of a whole run are one pause apart. -/
theorem traceFrom_zero (turns : List Turn) : traceFrom 0 turns = [.paused].intercalate (turns.map Turn.events) := by
  cases turns with
  | nil => rfl
  | cons turn rest => exact traceFrom_cons 0 turn rest

theorem calls_traceFrom (done : Nat) (turns : List Turn) :
    (traceFrom done turns).filterMap Event.call? = turns.flatMap Turn.calls := by
  induction turns generalizing done with
  | nil => rfl
  | cons turn rest ih =>
      simp only [traceFrom, Turn.events, List.filterMap_append, ih, calls_pauseBefore, calls_called, List.flatMap_cons]
      simp [Event.call?]

theorem reports_traceFrom (done : Nat) (turns : List Turn) :
    (traceFrom done turns).filterMap Event.report? = turns.map Turn.report := by
  induction turns generalizing done with
  | nil => rfl
  | cons turn rest ih =>
      simp only [traceFrom, Turn.events, List.filterMap_append, ih, reports_pauseBefore, reports_called, List.map_cons]
      rfl

/-! ### A run -/

/-- How a run ends where it comes to a place with so many pupils left: what comes of it, and what it does last. -/
inductive Ending (pupils : PupilRange) (cancellation : Cancellation) (total : Summary) (k : Nat) :
    Nat → Except Fault Summary → List Event → Prop where
  | complete : Ending pupils cancellation total k 0 (.ok total) []
  | cancelled {left : Nat} (fires : cancellation k = true) :
      Ending pupils cancellation total k (left + 1) (.error stopped) []
  | broken {left : Nat} {fault : Fault} {calls : List Call} (goesOn : cancellation k = false)
      (other : fault ≠ stopped) (about : ∀ call ∈ calls, call.pid = pupils.get k) :
      Ending pupils cancellation total k (left + 1) (.error fault) (pauseBefore k ++ calls.map .called)

/-- Turns of a run from a place on: they reconcile their pupils as if nothing else happened, and then the run ends. -/
structure Runs (s : Service) (purge : Bool) (pupils : PupilRange) (cancellation : Cancellation) (done remaining : Nat)
    (summary : Summary) (w : World) (run : Except Fault Summary × World) (turns : List Turn) (last : List Event) :
    Prop where
  few : turns.length ≤ remaining
  pids : turns.map Turn.pid = (List.range' done turns.length).map pupils.get
  reconciles : ∃ u, Attempt.forEachGive (s.reconcile purge) (turns.map Turn.pid) w = (.ok (turns.map Turn.action), u) ∧
    run.2.store = u.store
  trace : run.2.trace = w.trace ++ traceFrom done turns ++ last
  ends : Ending pupils cancellation ((turns.map Turn.action).foldl Reconciliation.count summary) (done + turns.length)
    (remaining - turns.length) run.1 last

/-- The world after events that a session may add to the trace. -/
def World.after (events : List Event) (w : World) : World := { w with trace := w.trace ++ events }

theorem World.after_alike {events : List Event} (silent : events.filterMap Event.call? = []) (w : World) :
    (w.after events).Alike w := by
  refine ⟨rfl, rfl, ?_⟩
  unfold World.calls World.after
  rw [List.filterMap_append, silent, List.append_nil]

variable {pupils : PupilRange} {cancellation : Cancellation} {done remaining : Nat} {summary : Summary}
variable {run : Except Fault Summary × World} {turns : List Turn} {last : List Event}

/-- A turn in front of a run. -/
theorem Runs.turn (turn : Turn) (here : turn.pid = pupils.get done) {store : Store}
    (reconciles : s.reconcile purge turn.pid (w.after (pauseBefore done)) =
      (.ok turn.action, { (w.after (pauseBefore done)).having turn.calls with store }))
    (rest : Runs s purge pupils cancellation (done + 1) remaining (turn.action.count summary)
      (World.after [.reported turn.report] { (w.after (pauseBefore done)).having turn.calls with store }) run turns last) :
    Runs s purge pupils cancellation done (remaining + 1) summary w run (turn :: turns) last := by
  refine ⟨Nat.succ_le_succ rest.few, ?_, ?_, ?_, ?_⟩
  · rw [List.map_cons, rest.pids, here, List.length_cons, List.range'_succ, List.map_cons]
  · obtain ⟨u, gives, left⟩ := rest.reconciles
    -- without pause and report each pupil is reconciled just so
    obtain ⟨x, plain, alike⟩ := (reconcile_uniform s purge turn.pid).ok
      (w.after_alike (calls_pauseBefore done)) reconciles
    have reported (x : World) : (x.after [.reported turn.report]).Alike x := x.after_alike rfl
    obtain ⟨y, goesOn, same⟩ := (Uniform.forEachGive (reconcile_uniform s purge) (turns.map Turn.pid)).ok
      ((reported _).trans alike) gives
    refine ⟨y, ?_, left.trans same.store⟩
    rw [List.map_cons, forEachGive_cons, bind_of_ok plain, bind_of_ok goesOn]
    rfl
  · rw [rest.trace]
    simp [World.after, World.having, traceFrom, Turn.events]
  · have ends := rest.ends
    rwa [Nat.add_assoc, Nat.add_comm 1, ← Nat.add_sub_add_right _ 1] at ends

theorem refreshFromAmid_runs (s : Service) (mishaps : Mishaps) (purge : Bool) (pupils : PupilRange)
    (cancellation : Cancellation) (remaining done : Nat) (summary : Summary) (w : World) :
    ∃ turns last, Runs s purge pupils cancellation done remaining summary w
      (s.refreshFromAmid mishaps purge pupils cancellation done summary remaining w) turns last := by
  induction remaining generalizing done summary w with
  | zero =>
      refine ⟨[], [], Nat.le_refl 0, rfl, ⟨w, rfl, rfl⟩, ?_, .complete⟩
      simp [traceFrom, Service.refreshFromAmid]
  | succ remaining ih =>
      unfold Service.refreshFromAmid
      cases fires : cancellation done with
      | true =>
          rw [bind_of_error (by rw [checkpoint_apply, if_pos fires])]
          refine ⟨[], [], Nat.zero_le _, rfl, ⟨w, rfl, rfl⟩, ?_, .cancelled fires⟩
          simp [traceFrom]
      | false =>
          have passes : checkpoint "refresh students" cancellation done w = (.ok (), w.after (pauseBefore done)) := by
            rw [checkpoint_apply, fires]
            rfl
          rw [bind_of_ok passes]
          obtain ⟨calls, about, ⟨fault, other, fails⟩ | ⟨action, store, plain, succeeds⟩⟩ :=
            reconcileAmid_cases s (mishaps done) purge (pupils.get done) (w.after (pauseBefore done))
          · simp only [bind_of_error fails]
            refine ⟨[], _, Nat.zero_le _, rfl, ⟨w, rfl, rfl⟩, ?_, .broken fires other about⟩
            simp [traceFrom, World.after, World.having]
          · simp only [bind_of_ok succeeds]
            rw [bind_of_ok (note_apply _ _)]
            obtain ⟨turns, last, rest⟩ := ih (done + 1) (action.count summary) _
            exact ⟨⟨pupils.get done, calls, action, about⟩ :: turns, last, rest.turn _ rfl plain⟩

/-! ### A whole refresh -/

/-- What a run has done when it ends: the first `k` pupils have had their turn in full, and no other. -/
structure StopsAfter (service : Service) (request : RefreshStudents) (cancellation : Cancellation) (w : World)
    (run : Except Fault Summary × World) (k : Nat) (turns : List Turn) : Prop where
  within : k ≤ request.range.count
  pids : turns.map Turn.pid = request.range.take k
  /-- The store is that of reconciling just those pupils in order. -/
  store : ∃ u, Attempt.forEachGive (service.reconcile request.purge) (request.range.take k) w =
    (.ok (turns.map Turn.action), u) ∧ run.2.store = u.store
  reports : run.2.reports = w.reports ++ turns.map Turn.report
  /-- One pause stands between a turn and the next, also one that breaks off. -/
  trace : ∃ last, run.2.trace = w.trace ++ [.paused].intercalate (turns.map Turn.events) ++ last ∧
    (last ≠ [] → (∃ fault ≠ stopped, run.1 = .error fault) ∧ ∃ calls : List Call,
      last = pauseBefore k ++ calls.map .called ∧ ∀ call ∈ calls, call.pid = request.range.get k)
  complete : (∃ total, run.1 = .ok total) ↔ k = request.range.count
  cancelled : run.1 = .error stopped ↔ k < request.range.count ∧ cancellation k = true
  unasked : run.1 = .error stopped → ∃ made, run.2.calls = w.calls ++ made ∧
    ∀ call ∈ made, ∀ i, k ≤ i → i < request.range.count → call.pid ≠ request.range.get i

variable {service : Service} {request : RefreshStudents} {total : Summary} {k left : Nat} {outcome : Except Fault Summary}

namespace Ending

theorem complete_iff (ends : Ending pupils cancellation total k left outcome last) :
    (∃ given, outcome = .ok given) ↔ left = 0 := by
  cases ends <;> simp

theorem total_of_ok {given : Summary} (ends : Ending pupils cancellation total k left (.ok given) last) :
    left = 0 ∧ given = total := by
  cases ends
  exact ⟨rfl, rfl⟩

theorem cancelled_iff (ends : Ending pupils cancellation total k left outcome last) :
    outcome = .error stopped ↔ 0 < left ∧ cancellation k = true := by
  cases ends with
  | complete => simp
  | cancelled fires => simp [fires]
  | broken goesOn other => simp [goesOn, other]

theorem silent (ends : Ending pupils cancellation total k left (.error stopped) last) : last = [] := by
  generalize hfault : stopped = fault at ends
  cases ends with
  | cancelled => rfl
  | broken goesOn other => exact absurd hfault.symm other

theorem last_cases (ends : Ending pupils cancellation total k left outcome last) (some : last ≠ []) :
    (∃ fault ≠ stopped, outcome = .error fault) ∧ ∃ calls : List Call,
      last = pauseBefore k ++ calls.map .called ∧ ∀ call ∈ calls, call.pid = pupils.get k := by
  cases ends with
  | complete => exact absurd rfl some
  | cancelled => exact absurd rfl some
  | broken goesOn other about => exact ⟨⟨_, other, rfl⟩, _, rfl, about⟩

theorem reports (ends : Ending pupils cancellation total k left outcome last) :
    last.filterMap Event.report? = [] := by
  cases ends with
  | complete => rfl
  | cancelled => rfl
  | broken => rw [List.filterMap_append, reports_pauseBefore, reports_called, List.append_nil]

end Ending

theorem Runs.stopsAfter (fits : request.range.Fits)
    (runs : Runs service request.purge request.range cancellation 0 request.range.count {} w run turns last) :
    StopsAfter service request cancellation w run turns.length turns := by
  have pids : turns.map Turn.pid = request.range.take turns.length := by
    rw [PupilRange.take_of_le runs.few]
    exact runs.pids
  have ends := runs.ends
  rw [Nat.zero_add] at ends
  have trace := runs.trace
  have few := runs.few
  refine ⟨few, pids, ?_, ?_, ⟨last, ?_, ends.last_cases⟩, ?_, ?_, ?_⟩
  · rw [← pids]
    exact runs.reconciles
  · rw [World.reports, trace, List.filterMap_append, List.filterMap_append, reports_traceFrom, ends.reports,
      List.append_nil, World.reports]
  · rw [trace, traceFrom_zero]
  · rw [ends.complete_iff]
    omega
  · rw [ends.cancelled_iff, Nat.sub_pos_iff_lt]
  · intro stops
    rw [stops] at ends
    refine ⟨turns.flatMap Turn.calls, ?_, ?_⟩
    · rw [World.calls, trace, ends.silent, List.append_nil, List.filterMap_append, calls_traceFrom, World.calls]
    · intro call hcall i later inside same
      obtain ⟨turn, hturn, asked⟩ := List.mem_flatMap.mp hcall
      have here : turn.pid ∈ request.range.take turns.length := pids ▸ List.mem_map_of_mem hturn
      rw [PupilRange.take_of_le few] at here
      obtain ⟨j, hj, hget⟩ := List.mem_map.mp here
      have before : j < turns.length := by simpa using hj
      rw [turn.about call asked, ← hget] at same
      have := PupilRange.get_injective fits (by omega) inside same
      omega

/-- **A refresh stops between pupils.** Whatever is stored and answered, whenever a cancellation fires and whatever
goes wrong in the store, there is a number of pupils that the store, the reports, the pauses and the outcome all agree
on: these have been reconciled as if there was nobody else, each is reported, and the run succeeds just when they are
all. A cancellation leaves everybody after them unasked. A request that runs past the largest number does nothing. -/
theorem refreshStudents_stops_between_pupils (service : Service) (request : RefreshStudents)
    (cancellation : Cancellation) :
    service.refreshStudentsAmid (fun _ => none) request cancellation = service.refreshStudents request cancellation ∧
    ∀ (mishaps : Mishaps) (w : World),
      let run := service.refreshStudentsAmid mishaps request cancellation w
      (request.range.Fits → ∃ k turns, StopsAfter service request cancellation w run k turns) ∧
      (¬request.range.Fits → run = (.error request.tooFar, w) ∧ request.tooFar.kind = .invalid) := by
  refine ⟨refreshStudentsAmid_none service request cancellation, fun mishaps w => ⟨?_, ?_⟩⟩
  · intro fits
    obtain ⟨turns, last, runs⟩ := refreshFromAmid_runs service mishaps request.purge request.range cancellation
      request.range.count 0 {} w
    refine ⟨turns.length, turns, ?_⟩
    unfold Service.refreshStudentsAmid
    rw [RefreshStudents.pupils_of_fits fits]
    exact runs.stopsAfter fits
  · intro beyond
    unfold Service.refreshStudentsAmid
    rw [RefreshStudents.pupils_of_not_fits beyond]
    exact ⟨rfl, rfl⟩

/-- The store breaks down at the third of three pupils. -/
def thirdLost : Mishaps := fun place => if place = 2 then some .workerCrashed else none

/-- Two pupils are stored and reported, the third is not, although the portal was asked. -/
theorem refreshStudents_stops_between_pupils_third_lost :
    let run := (sampleService 2024).refreshStudentsAmid thirdLost ⟨7, 3, false⟩ .never {}
    (∃ turns, StopsAfter (sampleService 2024) ⟨7, 3, false⟩ .never {} run 2 turns) ∧
    run.2.reports = ["pid 7: created", "pid 8: created"] ∧ run.2.calls.length = 15 ∧
    run.2.trace.count .paused = 2 := by
  intro run
  have fits : (⟨7, 3, false⟩ : RefreshStudents).range.Fits := by
    unfold PupilRange.Fits
    decide
  have told : run.2.reports = ["pid 7: created", "pid 8: created"] := by decide +kernel
  obtain ⟨k, turns, stops⟩ :=
    ((refreshStudents_stops_between_pupils (sampleService 2024) ⟨7, 3, false⟩ .never).2 thirdLost {}).1 fits
  have two : k = 2 := by
    have lines := congrArg List.length (stops.reports.symm.trans told)
    have places := congrArg List.length stops.pids
    rw [List.length_map, PupilRange.length_take_of_le stops.within] at places
    rw [← places]
    simpa [World.reports] using lines
  exact ⟨⟨turns, two ▸ stops⟩, told, by decide +kernel, by decide +kernel⟩

end Gradebook.Sync
