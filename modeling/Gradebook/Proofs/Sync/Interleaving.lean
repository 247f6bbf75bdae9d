import Gradebook.Proofs.Sync.Marks
import Gradebook.Proofs.Sync.Plan
import Gradebook.Proofs.Sync.Students

/-! Errands that run side by side. An office has one world and any number of errands on their way, each with its own
portal and settings and each at some step of its plan; whichever goes on does one step. What every transaction that
succeeds keeps holds of the store in every office that can be reached, for nothing else changes the store. -/

namespace Gradebook.Sync

open Portal Attempt

/-- An errand on its way: what is left of its plan. -/
structure Running where
  errand : Errand
  plan : Plan Fault errand.Reply

/-- One world and the errands that work on it. -/
structure Office where
  world : World := {}
  running : List Running := []

namespace Office

/-- A further errand is on its way. -/
def assign (o : Office) (service : Service) (errand : Errand) : Office :=
  { o with running := o.running ++ [⟨errand, errand.plan service⟩] }

/-- The errand at a place goes on by one step, if it has one left. -/
def advance (o : Office) (place : Nat) : Office :=
  match o.running[place]? with
  | some ⟨errand, .step act next⟩ => ⟨act o.world, o.running.set place ⟨errand, next o.world⟩⟩
  | _ => o

/-- Errands take turns. -/
def turns (o : Office) (places : List Nat) : Office := places.foldl advance o

/-- One step of an office: an errand begins, goes on or is given up, or the clock is set. -/
inductive Step (o : Office) : Office → Prop where
  | begins (service : Service) (errand : Errand) : Step o (o.assign service errand)
  | proceeds (place : Nat) : Step o (o.advance place)
  | givesUp (place : Nat) : Step o { o with running := o.running.eraseIdx place }
  | ticks (clock : Timestamp) :
      Step o { o with world := { o.world with store := { o.world.store with clock } } }

/-- The offices that can be reached from an empty store. -/
inductive Reached : Office → Prop where
  | opens (clock : Timestamp) (readOnly : Bool) (trace : List Event) :
      Reached { world := { store := { clock }, readOnly, trace } }
  | next {o p : Office} (before : Reached o) (step : o.Step p) : Reached p

theorem Reached.assign {o : Office} (reached : o.Reached) (service : Service) (errand : Errand) :
    (o.assign service errand).Reached := reached.next (.begins service errand)

/-- Errands may take turns as they like. -/
theorem Reached.turns {o : Office} (reached : o.Reached) (places : List Nat) : (o.turns places).Reached := by
  induction places generalizing o with
  | nil => exact reached
  | cons place rest ih => exact ih (reached.next (.proceeds place))

end Office

/-! ### What every transaction keeps -/

/-- A rule about stores that every transaction of the services keeps when it succeeds, and that the clock does not
matter for. -/
structure Kept (Inv : Store → Prop) : Prop where
  empty : ∀ clock, Inv { clock }
  tick : ∀ s clock, Inv s → Inv { s with clock }
  reconcile : ∀ pid purge known s action t, Inv s → reconcileWith pid purge known s = (.ok action, t) → Inv t
  create : ∀ student s given t, Inv s → Store.createStudent student s = (.ok given, t) → Inv t
  append : ∀ pid p shown s created t, (∀ mark ∈ shown, mark.pid = pid ∧ mark.period = p) → Inv s →
    appendMarks pid p shown s = (.ok created, t) → Inv t
  deleteStudent : ∀ pid s t, Inv s → Store.deleteStudent pid s = (.ok (), t) → Inv t
  deleteMark : ∀ id s t, Inv s → Store.deleteMark id s = (.ok (), t) → Inv t

namespace Plan

variable {ε α β : Type} {P : World → Prop} {Inv : Store → Prop} {service : Service} {pid : PupilId}

/-! ### Plans of students -/

/-- A rule that asks about the store and whether it can be written, not about what was done outside it. -/
def Quiet (P : World → Prop) : Prop := ∀ w v, v.store = w.store → v.readOnly = w.readOnly → P w → P v

theorem consult_world (f : Store → Except Store.Error α) (w : World) : (consult f w).2 = w := by
  unfold consult
  cases f w.store <;> rfl

theorem consult_of_ok {f : Store → Except Store.Error α} {x : α} {w : World} (told : f w.store = .ok x) :
    consult f w = (.ok x, w) := by
  unfold consult
  rw [told]

theorem consult_of_error {f : Store → Except Store.Error α} {e : Store.Error} {w : World}
    (fails : f w.store = .error e) : consult f w = (.error e.fault, w) := by
  unfold consult
  rw [fails]

theorem within_consult_world (context : String) (f : Store → Except Store.Error α) (w : World) :
    (within context (consult f) w).2 = w := by
  rw [within_apply]
  exact consult_world f w

theorem Quiet.atom {a : Attempt World ε α} (quiet : Quiet P)
    (same : ∀ w, (a w).2.store = w.store ∧ (a w).2.readOnly = w.readOnly) :
    (Plan.atom a).Ensures P fun _ => True :=
  .atom (fun w hw => quiet w _ (same w).1 (same w).2 hw) fun _ _ _ _ => trivial

theorem Quiet.checkpoint (quiet : Quiet P) (what : String) (cancellation : Cancellation) (done : Nat) :
    (Plan.atom (Sync.checkpoint what cancellation done)).Ensures P fun _ => True := by
  refine quiet.atom fun w => ?_
  rw [checkpoint_apply]
  split <;> exact ⟨rfl, rfl⟩

/-- Whoever is fetched is the pupil that was asked for, whatever the portal answers. -/
theorem fetchStudent_ensures (quiet : Quiet P) (portal : Responder) (current : Year) (pid : PupilId) :
    (fetchStudent portal current pid).Ensures P fun student => student.pid = pid := by
  unfold fetchStudent
  refine .bind (quiet.atom fun _ => ⟨rfl, rfl⟩) fun years _ => ?_
  refine .bind (quiet.atom fun _ => ⟨rfl, rfl⟩) fun periods _ => ?_
  refine .bind (quiet.atom fun _ => ⟨rfl, rfl⟩) fun subjects _ => ?_
  refine .bind (quiet.atom fun _ => ⟨rfl, rfl⟩) fun columns _ => ?_
  refine .bind (quiet.atom fun _ => ⟨rfl, rfl⟩) fun sheet _ => ?_
  exact .ofExcept fun student reads => (Answers.student_ok reads).1

/-- Reconciling keeps what its transaction keeps, which is about the pupil that was fetched. -/
theorem reconcile_ensures {Q : Student → Prop} {purge : Bool}
    (fetches : (fetchStudent service.portal service.settings.currentAcademicYear pid).Ensures P Q)
    (transacts : ∀ known : Option Student, (∀ student ∈ known, Q student) →
      (atom (transact (reconcileWith pid purge known))).Ensures P fun _ => True) :
    (reconcile service purge pid).Ensures P fun _ => True := by
  unfold reconcile
  refine .bind (.outcome fetches) fun answer told => ?_
  cases answer with
  | ok student =>
      refine transacts (some student) ?_
      rintro _ ⟨⟩
      exact told student rfl
  | error e =>
      simp only
      split
      · exact transacts none nofun
      · exact .error _

theorem refreshFrom_ensures (quiet : Quiet P) {purge : Bool}
    (reconciles : ∀ pid, (reconcile service purge pid).Ensures P fun _ => True) (pupils : PupilRange)
    (cancellation : Cancellation) (remaining done : Nat) (summary : Summary) :
    (refreshFrom service purge pupils cancellation done summary remaining).Ensures P fun _ => True := by
  induction remaining generalizing done summary with
  | zero => exact .value trivial
  | succ remaining ih =>
      unfold refreshFrom
      refine .bind (quiet.checkpoint _ cancellation done) fun _ _ => ?_
      refine .bind (reconciles _) fun action _ => ?_
      refine .bind (quiet.atom fun _ => ⟨rfl, rfl⟩) fun _ _ => ?_
      exact ih (done + 1) (action.count summary)

theorem refreshStudents_ensures (quiet : Quiet P) {request : RefreshStudents}
    (reconciles : ∀ pid, (reconcile service request.purge pid).Ensures P fun _ => True)
    (cancellation : Cancellation) : (refreshStudents service request cancellation).Ensures P fun _ => True := by
  unfold refreshStudents
  split
  · exact refreshFrom_ensures quiet reconciles _ cancellation _ 0 {}
  · exact .error _

/-- A lookup keeps what its transaction keeps, which is about the pupil that was fetched. -/
theorem findStudent_ensures (quiet : Quiet P) {Q : Student → Prop}
    (fetches : (fetchStudent service.portal service.settings.currentAcademicYear pid).Ensures P Q)
    (creates : ∀ student, Q student → (atom (transact (Store.createStudent student))).Ensures P fun _ => True) :
    (findStudent service pid).Ensures P fun _ => True := by
  unfold findStudent
  refine .bind (quiet.atom fun w => by rw [consult_world]; exact ⟨rfl, rfl⟩) fun stored _ => ?_
  cases stored with
  | some student =>
      refine .bind (quiet.atom fun w => ?_) fun _ _ => .value trivial
      rw [within_consult_world]
      exact ⟨rfl, rfl⟩
  | none =>
      refine .bind (.outcome fetches) fun answer told => ?_
      cases answer with
      | error e => exact .error _
      | ok student =>
          simp only
          split
          · exact creates student (told student rfl)
          · exact .value trivial

/-! ### Rules about the store -/

/-- Every step of the plan keeps a rule about the store. -/
abbrev Respects (Inv : Store → Prop) (plan : Plan ε α) : Prop := plan.Ensures (fun w => Inv w.store) fun _ => True

theorem quiet_store (Inv : Store → Prop) : Quiet fun w => Inv w.store := by
  intro w v same _ hw
  rwa [same]

theorem respects_atom {a : Attempt World ε α} (keeps : ∀ w, Inv w.store → Inv (a w).2.store) :
    (atom a).Respects Inv :=
  .atom keeps fun _ _ _ _ => trivial

/-- Most steps leave the store alone. -/
theorem respects_of_same {a : Attempt World ε α} (same : ∀ w, (a w).2.store = w.store) : (atom a).Respects Inv :=
  respects_atom fun w hw => by rwa [same w]

theorem consult_store (f : Store → Except Store.Error α) (w : World) : (consult f w).2.store = w.store :=
  congrArg World.store (consult_world f w)

theorem within_consult_store (context : String) (f : Store → Except Store.Error α) (w : World) :
    (within context (consult f) w).2.store = w.store :=
  congrArg World.store (within_consult_world context f w)

theorem transact_keeps {a : Store.Action α} (keeps : ∀ s x t, Inv s → a s = (.ok x, t) → Inv t) (w : World)
    (hw : Inv w.store) : Inv (transact a w).2.store := by
  rcases transact_cases a w with ⟨fault, fails⟩ | ⟨x, store, does, succeeds⟩
  · rw [fails]
    exact hw
  · rw [succeeds]
    exact keeps w.store x store hw does

theorem erase_keeps {a : Store.Action Unit} (keeps : ∀ s x t, Inv s → a s = (.ok x, t) → Inv t) (w : World)
    (hw : Inv w.store) : Inv (erase a w).2.store := by
  unfold erase
  split
  · exact hw
  · exact transact_keeps keeps w hw

theorem storedMarks_respects (pid : PupilId) (periods : List Period) : (storedMarks pid periods).Respects Inv := by
  unfold storedMarks
  refine .bind (respects_of_same (consult_store _)) fun _ _ => ?_
  split
  · exact .value trivial
  · exact respects_of_same (consult_store _)

variable (kept : Kept Inv)
include kept

theorem reconcile_respects (service : Service) (purge : Bool) (pid : PupilId) :
    (reconcile service purge pid).Respects Inv :=
  reconcile_ensures (fetchStudent_ensures (quiet_store Inv) _ _ pid) fun known _ =>
    respects_atom (transact_keeps (kept.reconcile pid purge known))

theorem findStudent_respects (service : Service) (pid : PupilId) : (findStudent service pid).Respects Inv :=
  findStudent_ensures (quiet_store Inv) (fetchStudent_ensures (quiet_store Inv) _ _ pid) fun student _ =>
    respects_atom (transact_keeps (kept.create student))

/-- The marks that are added are of the pupil and the period that were asked for, however long ago that was. -/
theorem gatherPeriod_respects (service : Service) (pid : PupilId) (p : Period) :
    (gatherPeriod service pid p).Respects Inv := by
  have fetches : (atom (fetchMarks service.portal pid p)).Ensures (fun w => Inv w.store)
      fun shown => ∀ mark ∈ shown, mark.pid = pid ∧ mark.period = p := by
    refine .atom ?_ ?_
    · intro w hw
      rw [fetchMarks_apply]
      exact hw
    · intro w shown _ shows
      rw [fetchMarks_apply] at shows
      exact shownMarks_own shows
  refine .bind fetches fun shown own => respects_atom ?_
  intro w hw
  rw [within_apply]
  exact transact_keeps (fun s created t => kept.append pid p shown s created t own) w hw

theorem findMarksInPeriod_respects (service : Service) (pid : PupilId) (p : Period) :
    (findMarksInPeriod service pid p).Respects Inv := by
  unfold findMarksInPeriod
  split
  · split
    · refine .bind (respects_of_same (consult_store _)) fun _ _ => ?_
      refine .bind (gatherPeriod_respects kept service pid p) fun _ _ => ?_
      exact storedMarks_respects pid [p]
    · exact storedMarks_respects pid [p]
  · exact .bind (storedMarks_respects pid _) fun _ _ => .value trivial

theorem refreshPeriods_respects (service : Service) (pid : PupilId) (cancellation : Cancellation)
    (periods : List Period) (done : Nat) (summary : Summary) :
    (refreshPeriods service pid cancellation done summary periods).Respects Inv := by
  induction periods generalizing done summary with
  | nil => exact .value trivial
  | cons p rest ih =>
      unfold refreshPeriods
      refine .bind (respects_of_same fun w => (checkpoint_world _ cancellation done w).1) fun _ _ => ?_
      refine .bind (gatherPeriod_respects kept service pid p) fun created _ => ?_
      refine .bind (respects_of_same fun _ => rfl) fun _ _ => ?_
      exact ih (done + 1) _

/-- Every plan of an errand keeps what the transactions keep. -/
theorem respects_of_errand (service : Service) (errand : Errand) : (errand.plan service).Respects Inv := by
  cases errand with
  | findStudent pid => exact findStudent_respects kept service pid
  | refreshStudents request cancellation =>
      exact refreshStudents_ensures (quiet_store Inv) (reconcile_respects kept service request.purge) cancellation
  | refreshMarks request cancellation =>
      refine .bind (respects_of_same (within_consult_store _ _)) fun _ _ => ?_
      refine .bind (.ofExcept fun _ _ => trivial) fun periods _ => ?_
      exact refreshPeriods_respects kept service request.pid cancellation periods 0 {}
  | findMarksInPeriod pid p => exact findMarksInPeriod_respects kept service pid p
  | deleteStudent pid => exact respects_atom (erase_keeps fun s _ => kept.deleteStudent pid s)
  | deleteMark id => exact respects_atom (erase_keeps fun s _ => kept.deleteMark id s)

end Plan

/-! ### Every office -/

namespace Office

variable {Inv : Store → Prop} {P : World → Prop} {o p : Office}

/-- The world keeps a rule, and whatever is on its way will. -/
structure Holds (P : World → Prop) (o : Office) : Prop where
  world : P o.world
  running : ∀ r ∈ o.running, r.plan.Ensures P fun _ => True

/-- Whichever errand goes on, the rule is kept. -/
theorem Holds.advance (h : o.Holds P) (place : Nat) : (o.advance place).Holds P := by
  unfold Office.advance
  split
  · next here =>
    obtain - | - | ⟨keeps, rest⟩ := h.running _ (List.mem_of_getElem? here)
    refine ⟨keeps o.world h.world, ?_⟩
    intro r hr
    rcases List.mem_or_eq_of_mem_set hr with hr | rfl
    · exact h.running r hr
    · exact rest o.world h.world
  · exact h

/-- The store keeps the rule, and whatever is on its way will. -/
structure InLine (Inv : Store → Prop) (o : Office) : Prop where
  store : Inv o.world.store
  running : ∀ r ∈ o.running, r.plan.Respects Inv

theorem InLine.step (kept : Kept Inv) (h : o.InLine Inv) (step : o.Step p) : p.InLine Inv := by
  cases step with
  | begins service errand =>
      refine ⟨h.store, ?_⟩
      intro r hr
      rcases List.mem_append.mp hr with hr | hr
      · exact h.running r hr
      · obtain rfl := List.mem_singleton.mp hr
        exact Plan.respects_of_errand kept service errand
  | proceeds place =>
      have holds : o.Holds fun w => Inv w.store := ⟨h.store, h.running⟩
      exact ⟨(holds.advance place).world, (holds.advance place).running⟩
  | givesUp place => exact ⟨h.store, fun r hr => h.running r (List.mem_of_mem_eraseIdx hr)⟩
  | ticks clock => exact ⟨kept.tick _ clock h.store, h.running⟩

/-- **What every transaction keeps holds of every store that can be reached**, however the errands are interleaved. -/
theorem Reached.inLine (kept : Kept Inv) (reached : o.Reached) : o.InLine Inv := by
  induction reached with
  | opens clock readOnly trace => exact ⟨kept.empty clock, nofun⟩
  | next _ step ih => exact ih.step kept step

end Office

end Gradebook.Sync
