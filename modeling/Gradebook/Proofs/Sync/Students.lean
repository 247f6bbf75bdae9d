import Gradebook.Proofs.Store.Students
import Gradebook.Proofs.Sync.Fetch
import Gradebook.Sync.Students

/-! What reconciling one pupil can do to a store, whatever the store. It touches nobody else, and unless the pupil
left and the request purges, it takes nothing away. -/

namespace Gradebook.Sync

open Portal Attempt
open Store (Frame Keeps Enrolls)

variable {s : Service} {purge : Bool} {pid other : PupilId} {known : Option Student} {w : World}

theorem reconcileWith_frame (own : ∀ student ∈ known, student.pid = pid) :
    (reconcileWith pid purge known).Moves (Frame pid) := by
  unfold reconcileWith
  refine .bind_of (.reading _) ?_
  intro s stored t found
  rw [reading_apply, Prod.mk.injEq] at found
  obtain ⟨found, rfl⟩ := found
  cases known with
  | none => cases stored <;> exact refl_of (Frame pid) s
  | some student =>
      have hpid : student.pid = pid := own student rfl
      cases stored with
      | none =>
          simp only
          split
          · exact refl_of (Frame pid) s
          · rw [← hpid]
            exact Moves.bind (Store.createStudent_frame student) (fun _ => .pure _) s
      | some stored =>
          have hstored : stored.pid = pid := Store.findStudent?_pid found
          simp only
          split
          · exact Moves.bind (Store.deleteStudent_frame pid) (fun _ => .pure _) s
          · rw [← hstored]
            exact Moves.bind (Store.updateStudent_frame stored student) (fun _ => .pure _) s

/-- Only who is known to have left can lose anything, and only to a purge. -/
theorem reconcileWith_keeps (stays : ∀ student ∈ known, (purge && !student.attends) = false) :
    (reconcileWith pid purge known).Moves (Keeps other) := by
  unfold reconcileWith
  refine .bind (.reading _) fun stored => ?_
  cases known with
  | none => cases stored <;> exact .pure _
  | some student =>
      have hstays : ¬(purge && !student.attends) = true := by
        rw [stays student rfl]
        exact Bool.false_ne_true
      cases stored with
      | none =>
          simp only [if_neg hstays]
          exact .bind (Store.createStudent_keeps student) fun _ => .pure _
      | some stored =>
          simp only [if_neg hstays]
          exact .bind (Store.updateStudent_keeps stored student) fun _ => .pure _

/-- Reconciling leads where its writes lead. -/
theorem reconcileWith_moves {R : Store → Store → Prop} [IsPreorder Store R] (purge : Bool) (pid : PupilId)
    (known : Option Student) (creates : ∀ student, (Store.createStudent student).Moves R)
    (updates : ∀ prev next, (Store.updateStudent prev next).Moves R)
    (deletes : (Store.deleteStudent pid).Moves R) : (reconcileWith pid purge known).Moves R := by
  unfold reconcileWith
  refine .bind (.reading _) fun stored => ?_
  cases known with
  | none => cases stored <;> exact .pure _
  | some student =>
      cases stored with
      | none =>
          simp only
          split
          · exact .pure _
          · exact .bind (creates student) fun _ => .pure _
      | some stored =>
          simp only
          split
          · exact .bind deletes fun _ => .pure _
          · exact .bind (updates stored student) fun _ => .pure _

theorem reconcileWith_sound (pid : PupilId) (purge : Bool) (known : Option Student) :
    (reconcileWith pid purge known).Moves (Upholds Store.Sound) :=
  reconcileWith_moves purge pid known Store.createStudent_sound Store.updateStudent_sound
    (Store.deleteStudent_sound pid)

/-! ### With what the portal says -/

/-- What the portal is taken to know: a student or nobody. An error of another kind says nothing. -/
def heard : Except Portal.Error Student → Option (Option Student)
  | .ok student => some (some student)
  | .error e => if e.isNotFound then some none else none

theorem fetched_of_heard {r : Except Portal.Error Student} {student : Student}
    (h : heard r = some (some student)) : r = .ok student := by
  cases r with
  | ok fetched =>
      simp only [heard, Option.some.injEq] at h
      rw [h]
  | error e =>
      simp only [heard] at h
      split at h <;> cases h

theorem own_of_heard {portal : Responder} {current : Year}
    (h : heard (fetchStudent portal current pid w).1 = some known) : ∀ student ∈ known, student.pid = pid := by
  intro student hstudent
  obtain rfl : known = some student := hstudent
  obtain ⟨a, -, reads, -⟩ := fetchStudent_ok (Prod.ext (fetched_of_heard h) rfl)
  exact (Answers.student_ok reads).1

/-- One transaction follows an answer that says something. -/
theorem reconcile_of_heard (purge : Bool)
    (h : heard (fetchStudent s.portal s.settings.currentAcademicYear pid w).1 = some known) :
    s.reconcile purge pid w = transact (reconcileWith pid purge known)
      (fetchStudent s.portal s.settings.currentAcademicYear pid w).2 := by
  unfold Service.reconcile
  rw [bind_apply, outcome_apply]
  cases hfetch : (fetchStudent s.portal s.settings.currentAcademicYear pid w).1 with
  | ok student =>
      rw [hfetch] at h
      cases h
      rfl
  | error e =>
      rw [hfetch] at h
      simp only [heard] at h
      split at h
      · next missing =>
        cases h
        simp only [if_pos missing]
      · cases h

/-- Nothing follows an answer that says nothing. -/
theorem reconcile_of_unheard (purge : Bool)
    (h : heard (fetchStudent s.portal s.settings.currentAcademicYear pid w).1 = none) :
    ∃ fault, s.reconcile purge pid w =
      (.error fault, (fetchStudent s.portal s.settings.currentAcademicYear pid w).2) := by
  unfold Service.reconcile
  rw [bind_apply, outcome_apply]
  cases hfetch : (fetchStudent s.portal s.settings.currentAcademicYear pid w).1 with
  | ok student =>
      rw [hfetch] at h
      cases h
  | error e =>
      rw [hfetch] at h
      simp only [heard] at h
      split at h
      · cases h
      · next other =>
        simp only [if_neg other]
        exact ⟨_, rfl⟩

/-- Reconciling a pupil makes calls about the pupil, and then one transaction if they say something. -/
theorem reconcile_cases (s : Service) (purge : Bool) (pid : PupilId) (w : World) :
    ∃ calls, (∀ call ∈ calls, call.pid = pid) ∧
      (fetchStudent s.portal s.settings.currentAcademicYear pid w).2 = w.having calls ∧
      ((heard (fetchStudent s.portal s.settings.currentAcademicYear pid w).1 = none ∧
          ∃ fault, s.reconcile purge pid w = (.error fault, w.having calls)) ∨
        ∃ known, heard (fetchStudent s.portal s.settings.currentAcademicYear pid w).1 = some known ∧
          (∀ student ∈ known, student.pid = pid) ∧
          s.reconcile purge pid w = transact (reconcileWith pid purge known) (w.having calls)) := by
  obtain ⟨calls, hv, about⟩ := fetchStudent_asks s.portal s.settings.currentAcademicYear pid w
  refine ⟨calls, about, hv, ?_⟩
  cases hheard : heard (fetchStudent s.portal s.settings.currentAcademicYear pid w).1 with
  | none =>
      obtain ⟨fault, fails⟩ := reconcile_of_unheard purge hheard
      exact Or.inl ⟨rfl, fault, hv ▸ fails⟩
  | some known => exact Or.inr ⟨known, rfl, own_of_heard hheard, hv ▸ reconcile_of_heard purge hheard⟩

/-- A reconciliation that succeeds heard something, and did to the store what its action does. -/
theorem reconcile_eq_ok {action : Reconciliation} {v : World} (reconciles : s.reconcile purge pid w = (.ok action, v)) :
    ∃ known, heard (fetchStudent s.portal s.settings.currentAcademicYear pid w).1 = some known ∧
      (∀ student ∈ known, student.pid = pid) ∧ reconcileWith pid purge known w.store = (.ok action, v.store) := by
  obtain ⟨calls, -, -, ⟨-, fault, fails⟩ | ⟨known, hheard, own, transacts⟩⟩ := reconcile_cases s purge pid w
  · rw [fails] at reconciles
    cases reconciles
  · rw [transacts] at reconciles
    have does := transact_of_ok (congrArg Prod.fst reconciles)
    rw [reconciles] at does
    exact ⟨known, hheard, own, does⟩

/-- Reconciling leads where calls about the pupil and the transaction lead. -/
theorem reconcile_moves {R : World → World → Prop} [IsPreorder World R] (s : Service) (purge : Bool)
    (asks : ∀ w v, Asks pid w v → R w v)
    (transacts : ∀ known : Option Student, (∀ student ∈ known, student.pid = pid) →
      (transact (reconcileWith pid purge known)).Moves R) : (s.reconcile purge pid).Moves R := by
  intro w
  obtain ⟨calls, about, -, ⟨-, fault, fails⟩ | ⟨known, -, own, does⟩⟩ := reconcile_cases s purge pid w
  · rw [fails]
    exact asks w _ ⟨calls, rfl, about⟩
  · rw [does]
    exact trans_of R (asks w _ ⟨calls, rfl, about⟩) (transacts known own _)

/-- Reconciling a pupil depends on nothing that only pauses and reports could change. -/
theorem reconcile_uniform (s : Service) (purge : Bool) (pid : PupilId) :
    (s.reconcile purge pid).Uniform World.Alike := by
  unfold Service.reconcile
  refine .bind (.outcome (fetchStudent_uniform _ _ pid)) fun answer => ?_
  cases answer with
  | ok student => exact transact_uniform _
  | error e =>
      simp only
      split
      · exact transact_uniform _
      · exact .fail _

/-! ### Pupil after pupil -/

/-- A run leads where its checkpoints, its reports and its reconciliations lead. -/
theorem refreshFrom_moves {R : World → World → Prop} [IsPreorder World R] {pupils : PupilRange}
    {cancellation : Cancellation}
    (checkpoints : ∀ done, (checkpoint "refresh students" cancellation done).Moves R)
    (reports : ∀ detail, (note (.reported detail) : Session Unit).Moves R) (remaining done : Nat)
    (summary : Summary)
    (reconciles : ∀ i, done ≤ i → i < done + remaining → (s.reconcile purge (pupils.get i)).Moves R) :
    (s.refreshFrom purge pupils cancellation done summary remaining).Moves R := by
  induction remaining generalizing done summary with
  | zero => exact .pure summary
  | succ remaining ih =>
      unfold Service.refreshFrom
      refine .bind (checkpoints done) fun _ => ?_
      refine .bind (reconciles done (Nat.le_refl done) (by omega)) fun action => ?_
      refine .bind (reports _) fun _ => ?_
      apply ih
      intro i low high
      exact reconciles i (by omega) (by omega)

/-! ### What a run counts -/

/-- A summary that counts actions, each kind by itself, with none lost to its 32 bits. -/
structure Tally (actions : List Reconciliation) (summary : Summary) : Prop where
  created : summary.created.toNat = actions.count .created
  updated : summary.updated.toNat = actions.count .updated
  deleted : summary.deleted.toNat = actions.count .deleted
  skipped : summary.skipped.toNat = actions.count .skipped
  unchanged : summary.unchanged.toNat = actions.count .absent + actions.count .kept + actions.count .unchanged

/-- Every action is counted under one kind. -/
theorem count_kinds (actions : List Reconciliation) :
    actions.count .created + actions.count .updated + actions.count .deleted + actions.count .skipped +
      (actions.count .absent + actions.count .kept + actions.count .unchanged) = actions.length := by
  induction actions with
  | nil => rfl
  | cons action rest ih =>
      rw [List.length_cons, ← ih]
      cases action <;> simp <;> omega

namespace Tally

variable {actions : List Reconciliation} {summary : Summary}

theorem none : Tally [] {} := by constructor <;> rfl

theorem count (h : Tally actions summary) (few : actions.length + 1 < UInt32.size) (action : Reconciliation) :
    Tally (actions ++ [action]) (action.count summary) := by
  obtain ⟨created, updated, deleted, skipped, unchanged⟩ := h
  have kinds := count_kinds actions
  unfold UInt32.size at few
  -- an action moves the counter of its own kind by one, which fits, and no other
  constructor <;> cases action <;> simp [Reconciliation.count, *] <;> omega

theorem foldl (h : Tally actions summary) (more : List Reconciliation)
    (few : actions.length + more.length < UInt32.size) :
    Tally (actions ++ more) (more.foldl Reconciliation.count summary) := by
  induction more generalizing actions summary with
  | nil => rwa [List.append_nil]
  | cons action rest ih =>
      rw [List.length_cons] at few
      have next := ih (h.count (by omega) action) (by rw [List.length_append, List.length_singleton]; omega)
      rwa [List.append_assoc] at next

/-- A run counts its actions exactly. -/
theorem ofRun (few : actions.length < UInt32.size) : Tally actions (actions.foldl Reconciliation.count {}) :=
  none.foldl actions (by rwa [List.length_nil, Nat.zero_add])

end Tally

end Gradebook.Sync
