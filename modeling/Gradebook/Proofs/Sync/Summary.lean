import Gradebook.Proofs.Store.Profile
import Gradebook.Proofs.Sync.Idempotence
import Gradebook.Proofs.Sync.Turns

/-! What a refresh counts. Each action says something about the profile of its pupil before and after it, and nobody
else's profile moves. The summary of a run that succeeds therefore tells how the store after it differs from the store
before it, pupil by pupil. -/

namespace Gradebook.Sync

open Portal Attempt
open Store (Frame References profile?)

variable {service : Service} {purge : Bool} {pid other : PupilId} {known : Option Student} {action : Reconciliation}
variable {actions : List Reconciliation} {pids : List PupilId} {s t : Store} {w v : World}

/-! ### One pupil -/

/-- What an action says about the profiles before and after it. -/
inductive Accounts : Reconciliation → Option Profile → Option Profile → Prop where
  | absent : Accounts .absent none none
  | kept (stored : Profile) : Accounts .kept (some stored) (some stored)
  | created (given : Profile) : Accounts .created none (some given)
  | updated {before after : Profile} (differs : before ≠ after) : Accounts .updated (some before) (some after)
  | unchanged (stored : Profile) : Accounts .unchanged (some stored) (some stored)
  | skipped : Accounts .skipped none none
  | deleted (lost : Profile) : Accounts .deleted (some lost) none

theorem Performs.accounts (performs : Performs purge pid s known action t)
    (own : ∀ student ∈ known, student.pid = pid) : Accounts action (profile? pid s) (profile? pid t) := by
  cases performs with
  | absent new =>
      rw [Store.profile?_of_found new]
      exact .absent
  | kept found =>
      rw [Store.profile?_of_found found]
      exact .kept _
  | skipped leaves new =>
      rw [Store.profile?_of_found new]
      exact .skipped
  | deleted leaves found deletes =>
      rw [Store.profile?_of_found found, Store.profile?_of_found (Store.deleteStudent_absent deletes)]
      exact .deleted _
  | created stays new creates =>
      obtain ⟨-, told, -⟩ := Store.createStudent_covers creates
      rw [own _ rfl] at told
      rw [Store.profile?_of_found new, Store.profile?_of_found told]
      exact .created _
  | updated stays found updates =>
      obtain ⟨stored, told, differs⟩ := Store.updateStudent_differs found updates
      rw [Store.profile?_of_found found, Store.profile?_of_found told]
      exact .updated differs
  | unchanged stays found updates =>
      rw [Store.updateStudent_unchanged updates, Store.profile?_of_found found]
      exact .unchanged _

/-- Reconciling a pupil accounts for that pupil's profile and leaves every other. -/
theorem reconcile_profiles (references : w.store.References)
    (reconciles : service.reconcile purge pid w = (.ok action, v)) :
    v.store.References ∧ Accounts action (profile? pid w.store) (profile? pid v.store) ∧
      ∀ other ≠ pid, profile? other v.store = profile? other w.store := by
  obtain ⟨known, -, own, does⟩ := reconcile_eq_ok reconciles
  have kept : v.store.References := (reconcileWith_moves purge pid known Store.createStudent_references
    Store.updateStudent_references (Store.deleteStudent_references pid)).leads does references
  have frame : Frame pid w.store v.store := (reconcileWith_frame own).leads does
  refine ⟨kept, (performs_of_ok does).accounts own, ?_⟩
  intro other hne
  exact frame.profile?_eq hne references kept.subjects

/-! ### Pupil after pupil -/

/-- A run of reconciliations accounts for the profiles of its pupils and leaves every other. -/
theorem reconcileEach_profiles {before : PupilId → Option Profile} (references : w.store.References)
    (once : pids.Nodup) (shown : ∀ pid ∈ pids, profile? pid w.store = before pid)
    (reconciles : forEachGive (service.reconcile purge) pids w = (.ok actions, v)) :
    List.Forall₂ (fun pid action => Accounts action (before pid) (profile? pid v.store)) pids actions ∧
      ∀ other ∉ pids, profile? other v.store = profile? other w.store := by
  induction pids generalizing w actions with
  | nil =>
      cases reconciles
      exact ⟨.nil, fun _ _ => rfl⟩
  | cons pid rest ih =>
      obtain ⟨new, once⟩ := List.nodup_cons.mp once
      rw [forEachGive_cons] at reconciles
      obtain ⟨action, u, first, reconciles⟩ := bind_eq_ok.mp reconciles
      obtain ⟨actions, x, others, ends⟩ := bind_eq_ok.mp reconciles
      cases ends
      obtain ⟨kept, accounts, spared⟩ := reconcile_profiles references first
      have still : ∀ other ∈ rest, profile? other u.store = before other := by
        intro other hother
        rw [spared other fun same => new (same ▸ hother), shown other (List.mem_cons_of_mem pid hother)]
      obtain ⟨all, untouched⟩ := ih kept once still others
      refine ⟨.cons ?_ all, ?_⟩
      · rwa [untouched pid new, ← shown pid List.mem_cons_self]
      · intro other hother
        rw [List.mem_cons, not_or] at hother
        rw [untouched other hother.2, spared other hother.1]

/-- A run that succeeds has reconciled every pupil of its request and counted what it did. -/
theorem refreshStudents_ok {request : RefreshStudents} {cancellation : Cancellation} {total : Summary}
    (succeeds : service.refreshStudents request cancellation w = (.ok total, v)) :
    request.range.Fits ∧ ∃ actions u,
      forEachGive (service.reconcile request.purge) request.range.toList w = (.ok actions, u) ∧ v.store = u.store ∧
      total = actions.foldl Reconciliation.count {} := by
  rw [← refreshStudentsAmid_none, Service.refreshStudentsAmid] at succeeds
  by_cases fits : request.range.Fits
  · rw [RefreshStudents.pupils_of_fits fits] at succeeds
    simp only at succeeds
    obtain ⟨turns, last, runs⟩ := refreshFromAmid_runs service (fun _ => none) request.purge request.range cancellation
      request.range.count 0 {} w
    rw [succeeds] at runs
    obtain ⟨none, counted⟩ := runs.ends.total_of_ok
    have all : turns.length = request.range.count := by
      have few := runs.few
      omega
    obtain ⟨u, gives, left⟩ := runs.reconciles
    rw [runs.pids, all, ← PupilRange.toList_eq] at gives
    exact ⟨fits, turns.map Turn.action, u, gives, left, counted⟩
  · rw [RefreshStudents.pupils_of_not_fits fits] at succeeds
    cases succeeds

/-! ### What the counts tell -/

/-- Actions of a kind are as many as the pupils whose profiles tell of it. -/
theorem count_of_accounts {before after : PupilId → Option Profile} {kind : Reconciliation} {tells : PupilId → Bool}
    (all : List.Forall₂ (fun pid action => Accounts action (before pid) (after pid)) pids actions)
    (tellsKind : ∀ {pid action}, Accounts action (before pid) (after pid) → (tells pid = true ↔ action = kind)) :
    actions.count kind = pids.countP tells := by
  induction all with
  | nil => rfl
  | cons accounts _ ih =>
      rw [List.count_cons, List.countP_cons, ih]
      simp only [tellsKind accounts, beq_iff_eq]

theorem created_iff (accounts : Accounts action (profile? pid s) (profile? pid t)) :
    (!s.hasStudent pid && t.hasStudent pid) = true ↔ action = .created := by
  rw [← Store.isSome_profile?, ← Store.isSome_profile?]
  revert accounts
  generalize profile? pid s = before, profile? pid t = after
  rintro (_ | _ | _) <;> simp

theorem deleted_iff (accounts : Accounts action (profile? pid s) (profile? pid t)) :
    (s.hasStudent pid && !t.hasStudent pid) = true ↔ action = .deleted := by
  rw [← Store.isSome_profile?, ← Store.isSome_profile?]
  revert accounts
  generalize profile? pid s = before, profile? pid t = after
  rintro (_ | _ | _) <;> simp

theorem updated_iff (accounts : Accounts action (profile? pid s) (profile? pid t)) :
    (s.hasStudent pid && t.hasStudent pid && profile? pid s != profile? pid t) = true ↔ action = .updated := by
  rw [← Store.isSome_profile?, ← Store.isSome_profile?]
  revert accounts
  generalize profile? pid s = before, profile? pid t = after
  rintro (_ | _ | _ | differs | _) <;> simp [*]

/-- **The summary tells the truth.** Whatever the portal answers, if a refresh succeeds, then the pupils it says it
created, deleted and updated are as many as those of its range that were not stored before and are now, were and are
not, and were and are with another year, attendance or list of subjects. The five counts make up the range, and
neither they nor the number of writes are cut off at 32 bits. -/
theorem refreshStudents_summary_true (service : Service) (request : RefreshStudents) (cancellation : Cancellation)
    {w v : World} {total : Summary} (references : w.store.References)
    (succeeds : service.refreshStudents request cancellation w = (.ok total, v)) :
    let pids := request.range.toList
    pids.Nodup ∧ pids.length = request.count.toNat ∧
    total.created.toNat = pids.countP (fun pid => !w.store.hasStudent pid && v.store.hasStudent pid) ∧
    total.deleted.toNat = pids.countP (fun pid => w.store.hasStudent pid && !v.store.hasStudent pid) ∧
    total.updated.toNat = pids.countP (fun pid => w.store.hasStudent pid && v.store.hasStudent pid &&
      profile? pid w.store != profile? pid v.store) ∧
    total.created.toNat + total.updated.toNat + total.deleted.toNat + total.skipped.toNat + total.unchanged.toNat =
      request.count.toNat ∧
    total.writes.toNat = total.created.toNat + total.updated.toNat + total.deleted.toNat := by
  intro pids
  obtain ⟨fits, actions, u, gives, left, counted⟩ := refreshStudents_ok succeeds
  have once : pids.Nodup := PupilRange.toList_nodup fits
  have number : pids.length = request.count.toNat := PupilRange.length_take_of_le (Nat.le_refl request.range.count)
  have all := (reconcileEach_profiles references once (fun _ _ => rfl) gives).1
  rw [← left] at all
  have length : actions.length = request.count.toNat := all.length_eq.symm.trans number
  have few : actions.length < UInt32.size := by
    rw [length]
    exact request.count.toNat_lt
  have tally : Tally actions total := counted ▸ .ofRun few
  have kinds := count_kinds actions
  rw [← tally.created, ← tally.updated, ← tally.deleted, ← tally.skipped, ← tally.unchanged, length] at kinds
  refine ⟨once, number, ?_, ?_, ?_, kinds, ?_⟩
  · rw [tally.created]
    exact count_of_accounts all created_iff
  · rw [tally.deleted]
    exact count_of_accounts all deleted_iff
  · rw [tally.updated]
    exact count_of_accounts all updated_iff
  · have bound := request.count.toNat_lt
    rw [Summary.writes, UInt32.toNat_add, UInt32.toNat_add]
    omega

/-- Of four pupils one came, one left, one moved up and one was nobody all along. -/
theorem refreshStudents_summary_true_turnover : turnoverWorld.store.References ∧ ∃ v,
    turnoverService.refreshStudents ⟨6, 4, true⟩ .never turnoverWorld =
      (.ok { created := 1, updated := 1, deleted := 1, skipped := 1 }, v) ∧
    [6, 7, 8, 9].countP (fun pid => !turnoverWorld.store.hasStudent pid && v.store.hasStudent pid) = 1 ∧
    [6, 7, 8, 9].countP (fun pid => turnoverWorld.store.hasStudent pid && !v.store.hasStudent pid) = 1 ∧
    [6, 7, 8, 9].countP (fun pid => turnoverWorld.store.hasStudent pid && v.store.hasStudent pid &&
      profile? pid turnoverWorld.store != profile? pid v.store) = 1 := by
  have built : Store.Built turnoverWorld.store :=
    .perform (.createStudent _) (.perform (.createStudent sampleStudent) (.empty .epoch))
  have run : (turnoverService.refreshStudents ⟨6, 4, true⟩ .never turnoverWorld).1 =
      .ok { created := 1, updated := 1, deleted := 1, skipped := 1 } := by decide +kernel
  have range : (⟨6, 4, true⟩ : RefreshStudents).range.toList = [6, 7, 8, 9] := by decide +kernel
  rcases succeeds : turnoverService.refreshStudents ⟨6, 4, true⟩ .never turnoverWorld with ⟨outcome, v⟩
  rw [succeeds] at run
  obtain rfl : outcome = _ := run
  obtain ⟨-, -, created, deleted, updated, -⟩ :=
    refreshStudents_summary_true turnoverService ⟨6, 4, true⟩ .never built.sound.references succeeds
  rw [range] at created deleted updated
  exact ⟨built.sound.references, v, rfl, created.symm, deleted.symm, updated.symm⟩

end Gradebook.Sync
