import Gradebook.Proofs.Sync.Fetch
import Gradebook.Sync.Marks

/-! Sessions in steps. A session that has the world to itself is one run; where others work on the same world, it goes
step by step, and each reading of the store, each call of the portal, each transaction and each note is one step. A
plan is a session cut into these steps: with nobody in between it does what the session does. A plan ensures a rule
when each of its steps keeps it, whatever others did before as long as they kept it too. -/

namespace Gradebook.Sync

open Portal Attempt

/-- Work on a world in steps. What follows a step is chosen by the world before it. -/
inductive Plan (ε α : Type) where
  | ended (outcome : Except ε α)
  | step (act : World → World) (next : World → Plan ε α)

namespace Plan

variable {ε ε' α β : Type}

/-- All the steps of a plan with nobody in between. -/
def run : Plan ε α → Attempt World ε α
  | .ended outcome => fun w => (outcome, w)
  | .step act next => fun w => (next w).run (act w)

/-- An attempt as a single step. -/
def atom (a : Attempt World ε α) : Plan ε α := .step (fun w => (a w).2) fun w => .ended (a w).1

/-- One plan after another; an error ends both. -/
protected def bind : Plan ε α → (α → Plan ε β) → Plan ε β
  | .ended (.ok x), f => f x
  | .ended (.error e), _ => .ended (.error e)
  | .step act next, f => .step act fun w => (next w).bind f

instance : Monad (Plan ε) where
  pure x := .ended (.ok x)
  bind := Plan.bind

/-- The outcome of a plan, its error included, as a value. -/
def outcome : Plan ε α → Plan ε' (Except ε α)
  | .ended r => .ended (.ok r)
  | .step act next => .step act fun w => (next w).outcome

theorem run_atom (a : Attempt World ε α) : (atom a).run = a := rfl

theorem run_bind (p : Plan ε α) (f : α → Plan ε β) : (p >>= f).run = p.run >>= fun x => (f x).run := by
  show (p.bind f).run = _
  funext w
  induction p generalizing w with
  | ended r => cases r <;> rfl
  | step act next ih => exact ih w (act w)

theorem run_bind_of {p : Plan ε α} {f : α → Plan ε β} {a : Attempt World ε α} {g : α → Attempt World ε β}
    (first : p.run = a) (rest : ∀ x, (f x).run = g x) : (p >>= f).run = a >>= g := by
  rw [run_bind, first, funext rest]

theorem run_outcome (p : Plan ε α) : (p.outcome : Plan ε' (Except ε α)).run = p.run.outcome := by
  funext w
  induction p generalizing w with
  | ended r => rfl
  | step act next ih => exact ih w (act w)

/-! ### Rules -/

/-- Every step of the plan keeps the rule, from any world that keeps it, and a value at its end has the property. -/
inductive Ensures (P : World → Prop) (Q : α → Prop) : Plan ε α → Prop where
  | value {x : α} (holds : Q x) : Ensures P Q (.ended (.ok x))
  | error (e : ε) : Ensures P Q (.ended (.error e))
  | step {act : World → World} {next : World → Plan ε α} (keeps : ∀ w, P w → P (act w))
      (rest : ∀ w, P w → Ensures P Q (next w)) : Ensures P Q (.step act next)

namespace Ensures

variable {P : World → Prop} {Q : α → Prop} {R : β → Prop} {p : Plan ε α} {f : α → Plan ε β}

theorem bind (first : p.Ensures P Q) (rest : ∀ x, Q x → (f x).Ensures P R) : (p >>= f).Ensures P R := by
  show (p.bind f).Ensures P R
  induction first with
  | value holds => exact rest _ holds
  | error e => exact .error e
  | step keeps _ ih => exact .step keeps ih

theorem atom {a : Attempt World ε α} (keeps : ∀ w, P w → P (a w).2)
    (holds : ∀ w x, P w → (a w).1 = .ok x → Q x) : (Plan.atom a).Ensures P Q := by
  refine .step keeps fun w hw => ?_
  cases ended : (a w).1 with
  | ok x => exact .value (holds w x hw ended)
  | error e => exact .error e

theorem ofExcept {r : Except ε α} (holds : ∀ x, r = .ok x → Q x) : (Plan.ended r).Ensures P Q := by
  cases r with
  | ok x => exact .value (holds x rfl)
  | error e => exact .error e

theorem mono {Q' : α → Prop} (ensures : p.Ensures P Q) (imp : ∀ x, Q x → Q' x) : p.Ensures P Q' := by
  induction ensures with
  | value holds => exact .value (imp _ holds)
  | error e => exact .error e
  | step keeps _ ih => exact .step keeps ih

theorem outcome (ensures : p.Ensures P Q) :
    (p.outcome : Plan ε' (Except ε α)).Ensures P fun r => ∀ x, r = .ok x → Q x := by
  induction ensures with
  | value holds =>
      refine .value ?_
      rintro _ ⟨⟩
      exact holds
  | error _ => exact .value nofun
  | step keeps _ ih => exact .step keeps ih

end Ensures

/-! ### The plans of the services -/

variable (service : Service)

def fetchStudent (portal : Responder) (current : Year) (pid : PupilId) : Plan Portal.Error Student := do
  let years ← atom (ask (.academicYears pid) fun earlier => portal.academicYears earlier pid)
  let periods ← atom (ask (.reportingPeriods pid years) fun earlier => portal.reportingPeriods earlier pid years)
  let subjects ← atom (ask (.reportingSubjects pid years periods) fun earlier =>
    portal.reportingSubjects earlier pid years periods)
  let columns ← atom (ask (.columnsForSubjects pid years periods subjects) fun earlier =>
    portal.columnsForSubjects earlier pid years periods subjects)
  let query : MarksheetQuery := { years, periods, columns, subjects }
  let sheet ← atom (ask (.marksheet pid query) fun earlier => portal.marksheet earlier pid query)
  .ended (Answers.student current pid ⟨years, periods, subjects, columns, sheet⟩)

def reconcile (purge : Bool) (pid : PupilId) : Plan Fault Reconciliation := do
  match ← (fetchStudent service.portal service.settings.currentAcademicYear pid).outcome with
  | .ok student => atom (transact (reconcileWith pid purge (some student)))
  | .error e =>
    if e.isNotFound then atom (transact (reconcileWith pid purge none))
    else .ended (.error (e.fault.within ("refresh student " ++ pid.text)))

def refreshFrom (purge : Bool) (pupils : PupilRange) (cancellation : Cancellation) (done : Nat)
    (summary : Summary) : Nat → Plan Fault Summary
  | 0 => pure summary
  | remaining + 1 => do
    atom (checkpoint "refresh students" cancellation done)
    let pid := pupils.get done
    let action ← reconcile service purge pid
    atom (note (.reported ("pid " ++ pid.text ++ ": " ++ action.word)))
    refreshFrom purge pupils cancellation (done + 1) (action.count summary) remaining

def refreshStudents (request : RefreshStudents) (cancellation : Cancellation) : Plan Fault Summary :=
  match request.pupils with
  | .ok pupils => refreshFrom service request.purge pupils cancellation 0 {} pupils.count
  | .error fault => .ended (.error fault)

def withMarks (student : Student) : Plan Fault Student := do
  let marks ← atom (within "attach student marks" (consult (Store.findMarks (.byPid student.pid))))
  pure { student with marks }

def findStudent (pid : PupilId) : Plan Fault Student := do
  match ← atom (consult (Store.findStudent? pid)) with
  | some student => withMarks student
  | none =>
    match ← (fetchStudent service.portal service.settings.currentAcademicYear pid).outcome with
    | .error e => .ended (.error (e.fault.within ("find student " ++ pid.text)))
    | .ok student =>
      if service.settings.studentFallback then atom (transact (Store.createStudent student))
      else pure student

def gatherPeriod (pid : PupilId) (period : Period) : Plan Fault UInt32 := do
  let shown ← atom (fetchMarks service.portal pid period)
  atom (within ("store " ++ marksIn pid period) (transact (appendMarks pid period shown)))

def storedMarks (pid : PupilId) (periods : List Period) : Plan Fault (List Mark) := do
  let _ ← atom (consult (Store.findStudent pid))
  if periods.isEmpty then pure []
  else atom (consult (Store.findMarks { MarksFilter.byPid pid with periods }))

def findMarksInPeriod (pid : PupilId) (period : Period) : Plan Fault (List Mark) :=
  if period.isFull then do
    if service.settings.markFallback then do
      let _ ← atom (consult (Store.findStudent pid))
      let _ ← gatherPeriod service pid period
    storedMarks pid [period]
  else do
    let marks ← storedMarks pid (service.settings.calendar.build period.academicYear period.term)
    pure (marks.filter fun mark => period.contains mark.period)

def refreshPeriods (pid : PupilId) (cancellation : Cancellation) (done : Nat) (summary : Summary) :
    List Period → Plan Fault Summary
  | [] => pure summary
  | period :: rest => do
    atom (checkpoint "refresh marks" cancellation done)
    let created ← gatherPeriod service pid period
    let unchanged := if created = 0 then summary.unchanged + 1 else summary.unchanged
    atom (note (.reported (period.text ++ ": " ++ toString created.toNat ++ " new marks")))
    refreshPeriods pid cancellation (done + 1)
      { summary with created := summary.created + created, unchanged } rest

def refreshMarks (request : RefreshMarks) (cancellation : Cancellation) : Plan Fault Summary := do
  let _ ← atom (within "refresh marks" (consult (Store.findStudent request.pid)))
  let periods ← .ended
    ((service.settings.calendar.range request.first request.last).mapError Calendar.Defect.fault)
  refreshPeriods service request.pid cancellation 0 {} periods

/-! ### Plans do what the services do -/

/-- What the last answers tell takes no step of its own. -/
theorem run_student (current : Year) (pid : PupilId) (a : Answers) :
    (Plan.ended (a.student current pid)).run = (do
      let (name, _) ← fromMarksheet (Marksheet.name a.sheet)
      if a.years.contains current then do
        let (year, _) ← fromMarksheet (Marksheet.currentYear a.sheet)
        pure { pid, name, currentYear := some year, attends := true, subjects := a.subjects }
      else pure { pid, name, subjects := a.subjects }) := by
  funext w
  unfold run Answers.student
  rw [bind_apply, fromMarksheet_apply]
  cases Marksheet.name a.sheet with
  | error e => rfl
  | ok found =>
      by_cases attends : a.years.contains current = true
      · simp only [attends, Except.mapError, if_true, bind_apply, fromMarksheet_apply]
        cases Marksheet.currentYear a.sheet <;> rfl
      · simp only [attends, Except.mapError]
        rfl

theorem run_fetchStudent (portal : Responder) (current : Year) (pid : PupilId) :
    (fetchStudent portal current pid).run = Sync.fetchStudent portal current pid := by
  unfold fetchStudent Sync.fetchStudent
  refine run_bind_of (run_atom _) fun years => ?_
  refine run_bind_of (run_atom _) fun periods => ?_
  refine run_bind_of (run_atom _) fun subjects => ?_
  refine run_bind_of (run_atom _) fun columns => ?_
  refine run_bind_of (run_atom _) fun sheet => ?_
  exact run_student current pid ⟨years, periods, subjects, columns, sheet⟩

theorem run_fetched (portal : Responder) (current : Year) (pid : PupilId) :
    ((fetchStudent portal current pid).outcome : Plan ε (Except Portal.Error Student)).run =
      (Sync.fetchStudent portal current pid).outcome := by
  rw [run_outcome, run_fetchStudent]

theorem run_reconcile (purge : Bool) (pid : PupilId) :
    (reconcile service purge pid).run = service.reconcile purge pid := by
  unfold reconcile Service.reconcile
  refine run_bind_of (run_fetched _ _ pid) fun answer => ?_
  cases answer with
  | ok student => rfl
  | error e =>
      simp only
      split <;> rfl

theorem run_refreshFrom (purge : Bool) (pupils : PupilRange) (cancellation : Cancellation) (remaining done : Nat)
    (summary : Summary) : (refreshFrom service purge pupils cancellation done summary remaining).run =
      service.refreshFrom purge pupils cancellation done summary remaining := by
  induction remaining generalizing done summary with
  | zero => rfl
  | succ remaining ih =>
      unfold refreshFrom Service.refreshFrom
      refine run_bind_of (run_atom _) fun _ => ?_
      refine run_bind_of (run_reconcile service purge _) fun action => ?_
      refine run_bind_of (run_atom _) fun _ => ?_
      exact ih (done + 1) (action.count summary)

theorem run_refreshStudents (request : RefreshStudents) (cancellation : Cancellation) :
    (refreshStudents service request cancellation).run = service.refreshStudents request cancellation := by
  unfold refreshStudents Service.refreshStudents
  cases request.pupils with
  | ok pupils => exact run_refreshFrom service request.purge pupils cancellation pupils.count 0 {}
  | error fault => rfl

theorem run_findStudent (pid : PupilId) : (findStudent service pid).run = service.findStudent pid := by
  unfold findStudent Service.findStudent
  refine run_bind_of (run_atom _) fun stored => ?_
  cases stored with
  | some student => exact run_bind_of (run_atom _) fun _ => rfl
  | none =>
      refine run_bind_of (run_fetched _ _ pid) fun answer => ?_
      cases answer with
      | error e => rfl
      | ok student =>
          simp only
          split <;> rfl

theorem run_gatherPeriod (pid : PupilId) (period : Period) :
    (gatherPeriod service pid period).run = service.gatherPeriod pid period :=
  run_bind_of (run_atom _) fun _ => run_atom _

theorem run_storedMarks (pid : PupilId) (periods : List Period) :
    (storedMarks pid periods).run = Sync.storedMarks pid periods := by
  unfold storedMarks Sync.storedMarks
  refine run_bind_of (run_atom _) fun _ => ?_
  split <;> rfl

theorem run_findMarksInPeriod (pid : PupilId) (period : Period) :
    (findMarksInPeriod service pid period).run = service.findMarksInPeriod pid period := by
  unfold findMarksInPeriod Service.findMarksInPeriod
  split
  · split
    · refine run_bind_of (run_atom _) fun _ => ?_
      refine run_bind_of (run_gatherPeriod service pid period) fun _ => ?_
      exact run_storedMarks pid [period]
    · exact run_storedMarks pid [period]
  · exact run_bind_of (run_storedMarks pid _) fun _ => rfl

theorem run_refreshPeriods (pid : PupilId) (cancellation : Cancellation) (periods : List Period) (done : Nat)
    (summary : Summary) : (refreshPeriods service pid cancellation done summary periods).run =
      service.refreshPeriods pid cancellation done summary periods := by
  induction periods generalizing done summary with
  | nil => rfl
  | cons period rest ih =>
      unfold refreshPeriods Service.refreshPeriods
      refine run_bind_of (run_atom _) fun _ => ?_
      refine run_bind_of (run_gatherPeriod service pid period) fun created => ?_
      refine run_bind_of (run_atom _) fun _ => ?_
      exact ih _ _

theorem run_refreshMarks (request : RefreshMarks) (cancellation : Cancellation) :
    (refreshMarks service request cancellation).run = service.refreshMarks request cancellation := by
  unfold refreshMarks Service.refreshMarks
  refine run_bind_of (run_atom _) fun _ => ?_
  refine run_bind_of ?_ fun periods => run_refreshPeriods service _ _ _ _ _
  cases service.settings.calendar.range request.first request.last <;> rfl

end Plan

/-! ### Errands -/

/-- What may be asked of the services that write. -/
inductive Errand where
  | findStudent (pid : PupilId)
  | refreshStudents (request : RefreshStudents) (cancellation : Cancellation)
  | refreshMarks (request : RefreshMarks) (cancellation : Cancellation)
  | findMarksInPeriod (pid : PupilId) (period : Period)
  | deleteStudent (pid : PupilId)
  | deleteMark (id : Int)

namespace Errand

def Reply : Errand → Type
  | .findStudent _ => Student
  | .refreshStudents _ _ => Summary
  | .refreshMarks _ _ => Summary
  | .findMarksInPeriod _ _ => List Mark
  | .deleteStudent _ => Unit
  | .deleteMark _ => Unit

def session (service : Service) : (errand : Errand) → Session errand.Reply
  | .findStudent pid => service.findStudent pid
  | .refreshStudents request cancellation => service.refreshStudents request cancellation
  | .refreshMarks request cancellation => service.refreshMarks request cancellation
  | .findMarksInPeriod pid period => service.findMarksInPeriod pid period
  | .deleteStudent pid => Service.deleteStudent pid
  | .deleteMark id => Service.deleteMark id

def plan (service : Service) : (errand : Errand) → Plan Fault errand.Reply
  | .findStudent pid => Plan.findStudent service pid
  | .refreshStudents request cancellation => Plan.refreshStudents service request cancellation
  | .refreshMarks request cancellation => Plan.refreshMarks service request cancellation
  | .findMarksInPeriod pid period => Plan.findMarksInPeriod service pid period
  | .deleteStudent pid => .atom (Service.deleteStudent pid)
  | .deleteMark id => .atom (Service.deleteMark id)

/-- The plan of an errand with nobody in between is the session. -/
theorem run_plan (service : Service) (errand : Errand) : (errand.plan service).run = errand.session service := by
  cases errand with
  | findStudent pid => exact Plan.run_findStudent service pid
  | refreshStudents request cancellation => exact Plan.run_refreshStudents service request cancellation
  | refreshMarks request cancellation => exact Plan.run_refreshMarks service request cancellation
  | findMarksInPeriod pid period => exact Plan.run_findMarksInPeriod service pid period
  | deleteStudent pid => rfl
  | deleteMark id => rfl

end Errand

end Gradebook.Sync
