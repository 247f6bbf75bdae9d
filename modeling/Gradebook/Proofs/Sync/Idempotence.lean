import Gradebook.Proofs.Refresh
import Gradebook.Proofs.Store.Coverage
import Gradebook.Proofs.Sync.Reconciliation

/-! Refreshing twice. Once a pupil was reconciled, the store rests: as long as the portal keeps to its answers,
reconciling the pupil again writes nothing, whatever became of other pupils in between. A refresh that succeeds
therefore leaves nothing to do for the same refresh, which only counts differently. -/

namespace Gradebook.Portal

/-- A portal that keeps to its answers: what was asked before makes no difference. -/
structure Responder.Steady (portal : Responder) : Prop where
  academicYears : ∀ earlier later pid, portal.academicYears earlier pid = portal.academicYears later pid
  reportingPeriods : ∀ earlier later pid years,
    portal.reportingPeriods earlier pid years = portal.reportingPeriods later pid years
  reportingSubjects : ∀ earlier later pid years periods,
    portal.reportingSubjects earlier pid years periods = portal.reportingSubjects later pid years periods
  columnsForSubjects : ∀ earlier later pid years periods subjects,
    portal.columnsForSubjects earlier pid years periods subjects =
      portal.columnsForSubjects later pid years periods subjects
  marksheet : ∀ earlier later pid query, portal.marksheet earlier pid query = portal.marksheet later pid query

end Gradebook.Portal

namespace Gradebook.Sync

open Portal Attempt
open Store (Frame Covers Untouched)

variable {service : Service} {purge : Bool} {pid other : PupilId} {known stored : Option Student}
variable {action : Reconciliation} {actions : List Reconciliation} {s t : Store} {w v : World}

/-! ### A portal that keeps to its answers -/

theorem ask_constant {α : Type} (call : Call) {answer : List Call → Except Portal.Error α}
    (steady : ∀ earlier later, answer earlier = answer later) : (ask call answer).Constant :=
  fun w v => steady w.calls v.calls

theorem fromMarksheet_constant {α : Type} (r : Except Marksheet.Error α) : (fromMarksheet r).Constant := by
  intro w v
  rw [fromMarksheet_apply, fromMarksheet_apply]

theorem fetchStudent_constant {portal : Responder} (steady : portal.Steady) (current : Year) (pid : PupilId) :
    (fetchStudent portal current pid).Constant := by
  unfold fetchStudent
  refine .bind (ask_constant _ fun _ _ => steady.academicYears _ _ _) fun years => ?_
  refine .bind (ask_constant _ fun _ _ => steady.reportingPeriods _ _ _ _) fun periods => ?_
  refine .bind (ask_constant _ fun _ _ => steady.reportingSubjects _ _ _ _ _) fun subjects => ?_
  refine .bind (ask_constant _ fun _ _ => steady.columnsForSubjects _ _ _ _ _ _) fun columns => ?_
  refine .bind (ask_constant _ fun _ _ => steady.marksheet _ _ _ _) fun sheet => ?_
  refine .bind (fromMarksheet_constant _) ?_
  rintro ⟨name, after⟩
  by_cases attends : years.contains current = true
  · simp only [if_pos attends]
    exact .bind (fromMarksheet_constant _) fun year => .pure _
  · simp only [if_neg attends]
    exact .pure _

/-! ### One pupil -/

/-- What a further reconciliation does after one: whoever was written is unchanged, and whoever was dropped is
skipped. -/
def Reconciliation.again : Reconciliation → Reconciliation
  | .absent => .absent
  | .kept => .kept
  | .created => .unchanged
  | .updated => .unchanged
  | .unchanged => .unchanged
  | .skipped => .skipped
  | .deleted => .skipped

/-- What is known of a pupil and what is stored leave nothing to write. -/
inductive Settled (purge : Bool) : Option Student → Option Student → Reconciliation → Prop where
  | absent : Settled purge none none .absent
  | kept {stored : Student} : Settled purge none (some stored) .kept
  | skipped {student : Student} (leaves : Leaves purge student) : Settled purge (some student) none .skipped
  | unchanged {student stored : Student} (stays : ¬Leaves purge student) (valid : student.validate = .ok ())
      (covers : Covers stored student) : Settled purge (some student) (some stored) .unchanged

/-- Where nothing is left to write, nothing is written. -/
theorem Settled.reconcileWith_eq (settled : Settled purge known stored action)
    (found : Store.findStudent? pid s = .ok stored) : reconcileWith pid purge known s = (.ok action, s) := by
  unfold reconcileWith
  rw [bind_of_ok (by rw [reading_apply, found])]
  cases settled with
  | absent => rfl
  | kept => rfl
  | skipped leaves => simp only [if_pos (leaves_iff.mpr leaves), pure_apply]
  | unchanged stays valid covers =>
      simp only [if_neg (mt leaves_iff.mp stays)]
      exact bind_of_ok (Store.updateStudent_of_covers valid covers)

/-- A reconciliation that succeeds leaves nothing to write. -/
theorem settled_of_reconcileWith (own : ∀ student ∈ known, student.pid = pid)
    (reconciles : reconcileWith pid purge known s = (.ok action, t)) :
    ∃ stored, Store.findStudent? pid t = .ok stored ∧ Settled purge known stored action.again := by
  cases performs_of_ok reconciles with
  | absent new => exact ⟨none, new, .absent⟩
  | kept found => exact ⟨some _, found, .kept⟩
  | skipped leaves new => exact ⟨none, new, .skipped leaves⟩
  | deleted leaves _ deletes => exact ⟨none, Store.deleteStudent_absent deletes, .skipped leaves⟩
  | created stays _ creates =>
      obtain ⟨valid, told, covers⟩ := Store.createStudent_covers creates
      rw [own _ rfl] at told
      exact ⟨some _, told, .unchanged stays valid covers⟩
  | updated stays found updates =>
      obtain ⟨valid, stored, told, covers⟩ := Store.updateStudent_covers found updates
      exact ⟨some stored, told, .unchanged stays valid covers⟩
  | unchanged stays found updates =>
      obtain ⟨valid, stored, told, covers⟩ := Store.updateStudent_covers found updates
      exact ⟨some stored, told, .unchanged stays valid covers⟩

/-- Reconciling a pupil would do just this, and write nothing. -/
def AtRest (service : Service) (purge : Bool) (pid : PupilId) (action : Reconciliation) (s : Store) : Prop :=
  ∃ known stored, (∀ w, heard (fetchStudent service.portal service.settings.currentAcademicYear pid w).1 = some known) ∧
    Store.findStudent? pid s = .ok stored ∧ Settled purge known stored action

/-- No work about somebody else disturbs the rest. -/
theorem AtRest.of_untouched (rest : AtRest service purge pid action s) (h : Untouched pid s t) :
    AtRest service purge pid action t := by
  obtain ⟨known, stored, knows, found, settled⟩ := rest
  have rows := Store.findStudent?_of_rowsOf h.rows
  rw [found] at rows
  cases settled with
  | absent => exact ⟨none, none, knows, rows, .absent⟩
  | kept => exact ⟨none, _, knows, rows, .kept⟩
  | skipped leaves => exact ⟨_, none, knows, rows, .skipped leaves⟩
  | unchanged stays valid covers =>
      obtain ⟨still, found, covers⟩ := h.covers found covers
      exact ⟨_, some still, knows, found, .unchanged stays valid covers⟩

/-- A reconciliation that succeeds leaves the pupil at rest. -/
theorem atRest_of_reconcile (steady : service.portal.Steady)
    (reconciles : service.reconcile purge pid w = (.ok action, v)) :
    AtRest service purge pid action.again v.store := by
  obtain ⟨known, hheard, own, does⟩ := reconcile_eq_ok reconciles
  obtain ⟨stored, found, settled⟩ := settled_of_reconcileWith own does
  refine ⟨known, stored, fun u => ?_, found, settled⟩
  rw [fetchStudent_constant steady _ pid u w, hheard]

/-- Reconciling a pupil at rest writes nothing. -/
theorem AtRest.reconcile_eq (rest : AtRest service purge pid action w.store) :
    ∃ v, service.reconcile purge pid w = (.ok action, v) ∧ v.store = w.store := by
  obtain ⟨known, stored, knows, found, settled⟩ := rest
  obtain ⟨calls, hv, -⟩ :=
    fetchStudent_asks service.portal service.settings.currentAcademicYear pid w
  refine ⟨w.having calls, ?_, rfl⟩
  rw [reconcile_of_heard purge (knows w), hv]
  exact transact_of_idle (settled.reconcileWith_eq found)

/-! ### A run -/

/-- The store goes from one to another, whatever else happens. -/
def OnStore (R : Store → Store → Prop) (w v : World) : Prop := R w.store v.store

instance (R : Store → Store → Prop) [IsPreorder Store R] : IsPreorder World (OnStore R) where
  refl w := refl_of R w.store
  trans _ _ _ := trans_of R

theorem reconcile_untouched (service : Service) (purge : Bool) (hne : pid ≠ other) :
    (service.reconcile purge other).Moves (OnStore (Untouched pid)) := by
  apply reconcile_moves
  · rintro w v ⟨calls, rfl, -⟩
    exact refl_of (Untouched pid) w.store
  · intro known own w
    have frame : (reconcileWith other purge known).Moves (Frame other) := reconcileWith_frame own
    exact transact_store (frame.mono fun _ _ h => h.untouched hne) w

/-- A run over other pupils does not touch a pupil. -/
theorem refreshFrom_untouched (service : Service) (purge : Bool) (pupils : PupilRange)
    (cancellation : Cancellation) (remaining done : Nat) (summary : Summary)
    (absent : ∀ i, done ≤ i → i < done + remaining → pid ≠ pupils.get i) :
    (service.refreshFrom purge pupils cancellation done summary remaining).Moves (OnStore (Untouched pid)) := by
  apply refreshFrom_moves
  · intro made w
    unfold OnStore
    rw [(checkpoint_world "refresh students" cancellation made w).1]
    exact refl_of (Untouched pid) w.store
  · intro detail w
    exact refl_of (Untouched pid) w.store
  · intro i low high
    exact reconcile_untouched service purge (absent i low high)

/-- A run that succeeds leaves each of its pupils at rest and has counted what it did. -/
theorem atRest_of_refreshFrom (steady : service.portal.Steady) {pupils : PupilRange} (fits : pupils.Fits)
    (cancellation : Cancellation) {remaining done : Nat} {summary total : Summary}
    (within : done + remaining ≤ pupils.count)
    (runs : service.refreshFrom purge pupils cancellation done summary remaining w = (.ok total, v)) :
    ∃ actions, List.Forall₂ (fun i action => AtRest service purge (pupils.get i) (Reconciliation.again action) v.store)
        (List.range' done remaining) actions ∧ total = actions.foldl Reconciliation.count summary := by
  induction remaining generalizing done summary w with
  | zero =>
      cases runs
      exact ⟨[], .nil, rfl⟩
  | succ remaining ih =>
      unfold Service.refreshFrom at runs
      obtain ⟨_, w₁, _, runs⟩ := bind_eq_ok.mp runs
      obtain ⟨action, w₂, reconciles, runs⟩ := bind_eq_ok.mp runs
      obtain ⟨_, w₃, reports, runs⟩ := bind_eq_ok.mp runs
      obtain ⟨actions, rest, total⟩ := ih (by omega) runs
      refine ⟨action :: actions, ?_, total⟩
      rw [List.range'_succ]
      refine .cons ?_ rest
      -- nobody after this place has this number
      have moves : (service.refreshFrom purge pupils cancellation (done + 1) (action.count summary)
          remaining).Moves (OnStore (Untouched (pupils.get done))) := by
        apply refreshFrom_untouched
        intro i low high same
        have := PupilRange.get_injective fits (by omega) (by omega) same
        omega
      have untouched := moves w₃
      rw [runs] at untouched
      cases reports
      exact (atRest_of_reconcile steady reconciles).of_untouched untouched

/-- A run over pupils at rest succeeds and writes nothing. -/
theorem refreshFrom_of_atRest {pupils : PupilRange} {remaining done : Nat} (summary : Summary)
    (atRest : List.Forall₂ (fun i action => AtRest service purge (pupils.get i) action w.store)
      (List.range' done remaining) actions) :
    ∃ v, service.refreshFrom purge pupils .never done summary remaining w =
      (.ok (actions.foldl Reconciliation.count summary), v) ∧ v.store = w.store := by
  induction remaining generalizing done summary w actions with
  | zero =>
      cases atRest
      exact ⟨w, rfl, rfl⟩
  | succ remaining ih =>
      rw [List.range'_succ] at atRest
      obtain ⟨action, actions, here, rest, rfl⟩ := List.forall₂_cons_left_iff.mp atRest
      obtain ⟨w₁, passes, hw₁, -⟩ := checkpoint_never "refresh students" done w
      rw [← hw₁] at here
      obtain ⟨w₂, reconciles, hw₂⟩ := here.reconcile_eq
      rw [← hw₁, ← hw₂] at rest
      let detail := "pid " ++ (pupils.get done).text ++ ": " ++ action.word
      let w₃ : World := { w₂ with trace := w₂.trace ++ [.reported detail] }
      obtain ⟨v, runs, hv⟩ := ih (w := w₃) (action.count summary) rest
      refine ⟨v, ?_, hv.trans (hw₂.trans hw₁)⟩
      unfold Service.refreshFrom
      rw [bind_of_ok passes, bind_of_ok reconciles, bind_of_ok (note_apply _ w₂)]
      exact runs

/-! ### What two runs count -/

/-- The counts of a run over some pupils and of a further run: nothing is written any more, who was dropped is
skipped, and everybody else is unchanged. -/
structure Recounts (pupils : Nat) (first second : Summary) : Prop where
  created : second.created = 0
  updated : second.updated = 0
  deleted : second.deleted = 0
  skipped : second.skipped.toNat = first.skipped.toNat + first.deleted.toNat
  unchanged : second.unchanged.toNat = first.created.toNat + first.updated.toNat + first.unchanged.toNat
  all : first.created.toNat + first.updated.toNat + first.deleted.toNat + first.skipped.toNat +
    first.unchanged.toNat = pupils

theorem count_again (actions : List Reconciliation) :
    (actions.map Reconciliation.again).count .created = 0 ∧
    (actions.map Reconciliation.again).count .updated = 0 ∧
    (actions.map Reconciliation.again).count .deleted = 0 ∧
    (actions.map Reconciliation.again).count .skipped = actions.count .skipped + actions.count .deleted := by
  induction actions with
  | nil => exact ⟨rfl, rfl, rfl, rfl⟩
  | cons action rest ih =>
      obtain ⟨created, updated, deleted, skipped⟩ := ih
      cases action <;> simp [Reconciliation.again, *] <;> omega

theorem recounts_foldl (actions : List Reconciliation) (few : actions.length < UInt32.size) :
    Recounts actions.length (actions.foldl Reconciliation.count {})
      ((actions.map Reconciliation.again).foldl Reconciliation.count {}) := by
  have first := Tally.ofRun few
  have second : Tally (actions.map Reconciliation.again) _ := .ofRun (by rwa [List.length_map])
  obtain ⟨created, updated, deleted, skipped⟩ := count_again actions
  have all := count_kinds actions
  have allAgain := count_kinds (actions.map Reconciliation.again)
  rw [List.length_map] at allAgain
  refine ⟨?_, ?_, ?_, ?_, ?_, ?_⟩
  · exact UInt32.toNat_inj.mp (second.created.trans created)
  · exact UInt32.toNat_inj.mp (second.updated.trans updated)
  · exact UInt32.toNat_inj.mp (second.deleted.trans deleted)
  · rw [second.skipped, skipped, first.skipped, first.deleted]
  · rw [second.unchanged, first.created, first.updated, first.unchanged]
    omega
  · rw [first.created, first.updated, first.deleted, first.skipped, first.unchanged]
    exact all

/-- **Refreshing is idempotent.** Whatever is stored and requested, and whatever the portal answers as long as it
keeps to its answers: after a refresh that succeeds, the same refresh at any later moment succeeds, and leaves every
table and every counter as they are. It writes nobody, skips whom the first one skipped or deleted, and finds
everybody else unchanged. -/
theorem refreshStudents_idempotent (service : Service) (steady : service.portal.Steady) (request : RefreshStudents)
    (cancellation : Cancellation) {w after : World} {first : Summary}
    (succeeds : service.refreshStudents request cancellation w = (.ok first, after)) (later : Timestamp) :
    ∃ second v, service.refreshStudents request .never { after with store := { after.store with clock := later } } =
        (.ok second, v) ∧ v.store = { after.store with clock := later } ∧
      second.created = 0 ∧ second.updated = 0 ∧ second.deleted = 0 ∧
      second.skipped.toNat = first.skipped.toNat + first.deleted.toNat ∧
      second.unchanged.toNat = first.created.toNat + first.updated.toNat + first.unchanged.toNat := by
  unfold Service.refreshStudents at succeeds ⊢
  cases hpupils : request.pupils with
  | error fault =>
      rw [hpupils] at succeeds
      cases succeeds
  | ok pupils =>
      rw [hpupils] at succeeds
      have fits := RefreshStudents.fits_of_pupils hpupils
      obtain ⟨actions, rest, total⟩ := atRest_of_refreshFrom steady fits cancellation (by omega) succeeds
      -- the clock moves between the runs, which no pupil notices
      have waited : List.Forall₂ (fun i action => AtRest service request.purge (pupils.get i) action
          { after.store with clock := later }) (List.range' 0 pupils.count) (actions.map Reconciliation.again) := by
        rw [List.forall₂_map_right_iff]
        exact rest.imp fun i action atRest => atRest.of_untouched ⟨rfl, List.Subset.refl _⟩
      obtain ⟨v, runs, hv⟩ :=
        refreshFrom_of_atRest (w := { after with store := { after.store with clock := later } }) {} waited
      have few : actions.length < UInt32.size := by
        rw [← rest.length_eq, List.length_range', RefreshStudents.count_of_pupils hpupils]
        exact request.count.toNat_lt
      obtain ⟨created, updated, deleted, skipped, unchanged, -⟩ := recounts_foldl actions few
      rw [← total] at skipped unchanged
      exact ⟨_, v, runs, hv, created, updated, deleted, skipped, unchanged⟩

/-- A portal where two pupils attend and everybody else has left. -/
def turnoverPortal : Responder :=
  { samplePortal 2024 with academicYears := fun _ pid => .ok [if pid = 7 ∨ pid = 9 then 2024 else 2023] }

def turnoverService : Service := ⟨turnoverPortal, { currentAcademicYear := 2024 }⟩

/-- A store with a pupil who moved up and one who left. -/
def turnoverWorld : World :=
  { store := Store.Operation.perform sampleStore (.createStudent { sampleStudent with pid := 8 }) }

/-- A purge that skips, updates, deletes and creates a pupil each has nothing left to write. -/
theorem refreshStudents_idempotent_turnover : turnoverPortal.Steady ∧ ∃ after second v,
    turnoverService.refreshStudents ⟨6, 4, true⟩ .never turnoverWorld =
      (.ok { created := 1, updated := 1, deleted := 1, skipped := 1 }, after) ∧
    turnoverService.refreshStudents ⟨6, 4, true⟩ .never
      { after with store := { after.store with clock := .epoch } } = (.ok second, v) ∧
    v.store = { after.store with clock := .epoch } ∧
    second.created = 0 ∧ second.updated = 0 ∧ second.deleted = 0 ∧ second.skipped.toNat = 2 ∧
    second.unchanged.toNat = 2 := by
  have steady : turnoverPortal.Steady := by constructor <;> intros <;> rfl
  have first : (turnoverService.refreshStudents ⟨6, 4, true⟩ .never turnoverWorld).1 =
      .ok { created := 1, updated := 1, deleted := 1, skipped := 1 } := by decide +kernel
  rcases succeeds : turnoverService.refreshStudents ⟨6, 4, true⟩ .never turnoverWorld with ⟨outcome, after⟩
  rw [succeeds] at first
  obtain rfl : outcome = _ := first
  obtain ⟨second, v, again⟩ :=
    refreshStudents_idempotent turnoverService steady ⟨6, 4, true⟩ .never succeeds .epoch
  exact ⟨steady, after, second, v, rfl, again⟩

end Gradebook.Sync
