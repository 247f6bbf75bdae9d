import Gradebook.Proofs.Store.Share
import Gradebook.Proofs.Sync.Interleaving
import Gradebook.Proofs.Sync.Reconciliation

/-! Pupils reconciled in whatever order. What reconciling a pupil comes to depends on nothing but the pupil's share of
the store, which nobody else touches. So it comes to what it would have come to at the start, and a store in which some
pupils were reconciled is known but for stamps, ids and the names of new codes: whoever was reconciled has the share
that was made alone, everybody else has the old one, and a code is known if it was or if it came with somebody. -/

namespace Gradebook.Store

open Attempt

/-- A store without some of the marks of an earlier one, and otherwise with the same marks. -/
def Culls (s t : Store) : Prop := t.marks = s.marks.filter (· ∈ t.marks)

variable {s t : Store} {pid : PupilId}

theorem culls_of_marks (same : t.marks = s.marks) : Culls s t := by
  unfold Culls
  rw [same, List.filter_eq_self.mpr]
  simp

instance : IsPreorder Store Culls where
  refl s := culls_of_marks rfl
  trans s t u h k := by
    unfold Culls at h k ⊢
    have inside (mark : StoredMark) (there : mark ∈ u.marks) : mark ∈ t.marks := by
      rw [k] at there
      exact (List.mem_filter.mp there).1
    conv_lhs => rw [k, h]
    rw [List.filter_filter]
    apply List.filter_congr
    intro mark _
    by_cases there : mark ∈ u.marks
    · simp [there, inside mark there]
    · simp [there]

theorem enrollEach_culls (pid : PupilId) (subjects : List Subject) : (forEach (enroll pid) subjects).Moves Culls :=
  (enrollEach_enrolls pid subjects).mono fun _ _ h => culls_of_marks h.marks

theorem createStudent_culls (student : Student) : (createStudent student).Moves Culls := by
  refine createStudent_moves (fun name year attends s => culls_of_marks ?_) (enrollEach_culls student.pid _)
  unfold insertStudent
  split
  · rfl
  · split <;> rfl

theorem updateStudent_culls (prev next : Student) : (updateStudent prev next).Moves Culls :=
  updateStudent_moves (enrollEach_culls prev.pid) fun _ _ _ => culls_of_marks rfl

theorem deleteStudent_culls (pid : PupilId) : (deleteStudent pid).Moves Culls := by
  intro s
  unfold deleteStudent
  split
  · apply List.filter_congr
    intro mark hmark
    by_cases own : mark.pid = pid
    · simp [List.mem_filter, own]
    · simp [List.mem_filter, hmark, own]
  · exact refl_of Culls s

end Gradebook.Store

namespace Gradebook.Sync

open Portal Attempt
open Store (Alike SameShare References Culls Frame)

variable {purge : Bool} {pid : PupilId} {known : Option Student} {action : Reconciliation} {s t : Store}
variable {start w v : World} {solo : PupilId → Store} {done : List PupilId}

/-! ### One pupil -/

/-- Reconciling a pupil depends on the pupil's share alone. -/
theorem reconcileWith_uniform (own : ∀ student ∈ known, student.pid = pid) :
    (reconcileWith pid purge known).Uniform (Alike pid) := by
  intro s t alike
  have found := alike.share.findStudent?
  unfold reconcileWith
  rw [bind_apply, bind_apply, reading_apply, reading_apply]
  generalize told : Store.findStudent? pid s = r at found ⊢
  generalize Store.findStudent? pid t = q at found ⊢
  cases found with
  | error e => exact ⟨rfl, alike⟩
  | missing =>
      cases known with
      | none => exact ⟨rfl, alike⟩
      | some student =>
          by_cases leaves : (purge && !student.attends) = true
          · simp only [if_pos leaves]
            exact ⟨rfl, alike⟩
          · obtain rfl := own student rfl
            simp only [if_neg leaves]
            exact Store.createStudent_uniform student Reconciliation.created s t alike
  | @found a b like =>
      cases known with
      | none => exact ⟨rfl, alike⟩
      | some student =>
          by_cases leaves : (purge && !student.attends) = true
          · simp only [if_pos leaves]
            exact (Store.deleteStudent_uniform pid).bind (fun _ => .pure _) s t alike
          · simp only [if_neg leaves, ← Store.updateStudent_congr like]
            have stored : Store.Stored a.pid s t := by
              rw [Store.findStudent?_pid told]
              exact ⟨alike, Store.hasStudent_of_found told⟩
            have uniform := (Store.updateStudent_uniform a student).bind
              (fun changed => .pure (if changed then Reconciliation.updated else .unchanged)) s t stored
            rw [Store.findStudent?_pid told] at uniform
            exact uniform.imp_right Store.Stored.toAlike

theorem reconcileWith_culls (pid : PupilId) (purge : Bool) (known : Option Student) :
    (reconcileWith pid purge known).Moves Culls :=
  reconcileWith_moves purge pid known Store.createStudent_culls Store.updateStudent_culls
    (Store.deleteStudent_culls pid)

/-! ### Some pupils -/

/-- What is left of a store in which some pupils were reconciled, in whatever order: each of them has the share that
was made alone, everybody else has the old one, and a code is known if it was before or came with one of them. -/
structure Reconciled (start : Store) (solo : PupilId → Store) (done : List PupilId) (s : Store) : Prop where
  references : s.References
  grows : start.subjects <+: s.subjects
  here : ∀ pid ∈ done, SameShare pid (solo pid) s
  others : ∀ pid ∉ done, SameShare pid start s
  codes : ∀ code, code ∈ s.storedCodes ↔ code ∈ start.storedCodes ∨ ∃ pid ∈ done, code ∈ (solo pid).storedCodes
  marks : Culls start s

namespace Reconciled

variable {begun : Store} {more : List PupilId}

theorem none (references : s.References) (solo : PupilId → Store) : Reconciled s solo [] s where
  references := references
  grows := List.prefix_rfl
  here := nofun
  others pid _ := .refl pid s
  codes := by simp
  marks := refl_of Culls s

/-- Only who was reconciled matters, not in which order. -/
theorem congr (h : Reconciled begun solo done s) (same : ∀ pid, pid ∈ done ↔ pid ∈ more) :
    Reconciled begun solo more s where
  references := h.references
  grows := h.grows
  here pid hpid := h.here pid ((same pid).mpr hpid)
  others pid hpid := h.others pid (mt (same pid).mp hpid)
  codes code := by simp only [h.codes, same]
  marks := h.marks

/-- A further pupil comes to what the pupil would have come to alone. -/
theorem next (h : Reconciled begun solo done s) (references : begun.References) (new : pid ∉ done)
    (own : ∀ student ∈ known, student.pid = pid)
    (alone : reconcileWith pid purge known begun = (.ok action, solo pid)) :
    ∃ t, reconcileWith pid purge known s = (.ok action, t) ∧ Reconciled begun solo (pid :: done) t := by
  have alike : Alike pid begun s := ⟨h.others pid new, references, h.references⟩
  obtain ⟨t, does, after⟩ := (reconcileWith_uniform own).ok alike alone
  have frame : Frame pid s t := (reconcileWith_frame own).leads does
  have culls : Culls s t := (reconcileWith_culls pid purge known).leads does
  have apart {other : PupilId} (hne : other ≠ pid) : SameShare other s t :=
    frame.sameShare hne h.references after.right.subjects
  refine ⟨t, does, after.right, h.grows.trans frame.subjects, ?_, ?_, ?_, trans_of Culls h.marks culls⟩
  · intro other hother
    rcases List.mem_cons.mp hother with rfl | hother
    · exact after.share
    · exact (h.here other hother).trans (apart fun same => new (same ▸ hother))
  · intro other hother
    rw [List.mem_cons, not_or] at hother
    exact (h.others other hother.2).trans (apart hother.1)
  · intro code
    rw [(reconcileWith_learns does).mem_storedCodes, h.codes]
    simp only [List.mem_cons, exists_eq_or_imp, (reconcileWith_learns alone).mem_storedCodes]
    grind

/-- Whoever leaves no trace alone can be left out. -/
theorem skip (h : Reconciled begun solo done s) (new : pid ∉ done) (idle : solo pid = begun) :
    Reconciled begun solo (pid :: done) s where
  references := h.references
  grows := h.grows
  here other hother := by
    rcases List.mem_cons.mp hother with rfl | hother
    · rw [idle]
      exact h.others other new
    · exact h.here other hother
  others other hother := h.others other fun there => hother (List.mem_cons_of_mem pid there)
  codes code := by
    rw [h.codes]
    simp only [List.mem_cons, exists_eq_or_imp, idle]
    grind
  marks := h.marks

end Reconciled

/-- Two stores that grew from one and hold the same but for stamps, the ids of subjects, and the names of subjects whose
codes were new: the same students, who look the same and take subjects of the same codes, the same known codes, the old
ones under their old names, and the same marks. -/
structure Match (begun s t : Store) : Prop where
  faces : ∀ pid, (Store.rowsOf pid s).map (·.face) = (Store.rowsOf pid t).map (·.face)
  taken : ∀ pid code, code ∈ Store.codesOf pid s ↔ code ∈ Store.codesOf pid t
  codes : ∀ code, code ∈ s.storedCodes ↔ code ∈ t.storedCodes
  names : ∀ code ∈ begun.storedCodes, Store.subjectByCode code s = Store.subjectByCode code t
  marks : s.marks = t.marks

theorem subjectByCode_of_grows {begun : Store} (grows : begun.subjects <+: s.subjects) {code : String}
    (old : code ∈ begun.storedCodes) : Store.subjectByCode code s = Store.subjectByCode code begun := by
  unfold Store.subjectByCode
  cases found : begun.subjects.find? (·.code == code) with
  | some row => rw [grows.find?_eq_some found]
  | none =>
      obtain ⟨row, hrow, hcode⟩ := List.mem_map.mp old
      rw [List.find?_eq_none] at found
      exact absurd (beq_iff_eq.mpr hcode) (found row hrow)

/-- Stores in which the same pupils were reconciled match. -/
theorem Reconciled.same {begun : Store} (h : Reconciled begun solo done s) (k : Reconciled begun solo done t) :
    Match begun s t := by
  have share (pid : PupilId) : SameShare pid s t := by
    by_cases here : pid ∈ done
    · exact (h.here pid here).symm.trans (k.here pid here)
    · exact (h.others pid here).symm.trans (k.others pid here)
  refine ⟨fun pid => (share pid).faces, fun pid => (share pid).codes, ?_, ?_, ?_⟩
  · intro code
    rw [h.codes, k.codes]
  · intro code old
    rw [subjectByCode_of_grows h.grows old, subjectByCode_of_grows k.grows old]
  · have left : s.marks = begun.marks.filter (· ∈ s.marks) := h.marks
    have right : t.marks = begun.marks.filter (· ∈ t.marks) := k.marks
    rw [left, right]
    apply List.filter_congr
    intro mark _
    have own (marks : List StoredMark) : mark ∈ marks ↔ mark ∈ marks.filter (·.pid == mark.pid) := by
      simp [List.mem_filter]
    rw [decide_eq_decide, own s.marks, (share mark.pid).marks, ← own]

/-! ### In one transaction -/

/-- A world in which some pupils were reconciled since the start. A store that can only be read stays as it was. -/
structure Halfway (start : World) (solo : PupilId → Store) (done : List PupilId) (w : World) : Prop where
  readOnly : w.readOnly = start.readOnly
  still : start.readOnly = true → w.store = start.store
  store : Reconciled start.store solo done w.store

theorem Halfway.none (references : start.store.References) (solo : PupilId → Store) : Halfway start solo [] start :=
  ⟨rfl, fun _ => rfl, .none references solo⟩

theorem Halfway.congr {more : List PupilId} (h : Halfway start solo done w) (same : ∀ pid, pid ∈ done ↔ pid ∈ more) :
    Halfway start solo more w :=
  ⟨h.readOnly, h.still, h.store.congr same⟩

theorem Halfway.quiet (start : World) (solo : PupilId → Store) (done : List PupilId) :
    Plan.Quiet (Halfway start solo done) := by
  intro w v store readOnly h
  exact ⟨readOnly.trans h.readOnly, fun only => store.trans (h.still only), store ▸ h.store⟩

/-- Where nothing can be written, a further pupil is reconciled when there was nothing to write. -/
theorem Halfway.transact_of_readOnly (h : Halfway start solo done w) (only : start.readOnly = true) (new : pid ∉ done)
    (alone : solo pid = (transact (reconcileWith pid purge known) start).2.store) :
    (Sync.transact (reconcileWith pid purge known) w).1 = (Sync.transact (reconcileWith pid purge known) start).1 ∧
      Halfway start solo (pid :: done) (Sync.transact (reconcileWith pid purge known) w).2 := by
  have idle : solo pid = start.store := alone.trans (transact_store_of_readOnly _ only)
  have kept := transact_store_of_readOnly (reconcileWith pid purge known) (h.readOnly.trans only)
  refine ⟨(transact_congr _ (h.still only) h.readOnly).1, ?_, fun _ => kept.trans (h.still only), ?_⟩
  · exact (transact_readOnly _ w).trans h.readOnly
  · rw [kept]
    exact h.store.skip new idle

/-- Where there may be writes, a further pupil who can be reconciled at the start can be reconciled now. -/
theorem Halfway.transact_of_writable (h : Halfway start solo done w) (writable : start.readOnly = false)
    (references : start.store.References) (new : pid ∉ done) (own : ∀ student ∈ known, student.pid = pid)
    (alone : solo pid = (transact (reconcileWith pid purge known) start).2.store) :
    (Sync.transact (reconcileWith pid purge known) w).1 = (Sync.transact (reconcileWith pid purge known) start).1 ∧
      ∀ action, (Sync.transact (reconcileWith pid purge known) w).1 = .ok action →
        Halfway start solo (pid :: done) (Sync.transact (reconcileWith pid purge known) w).2 := by
  have alike : Alike pid start.store w.store := ⟨h.store.others pid new, references, h.store.references⟩
  have same : (Sync.transact (reconcileWith pid purge known) w).1 =
      (Sync.transact (reconcileWith pid purge known) start).1 := by
    rw [transact_outcome _ writable, transact_outcome _ (h.readOnly.trans writable)]
    rw [(reconcileWith_uniform own start.store w.store alike).1]
  refine ⟨same, fun action succeeds => ⟨(transact_readOnly _ w).trans h.readOnly, ?_, ?_⟩⟩
  · intro readOnly
    rw [writable] at readOnly
    cases readOnly
  · have does := transact_of_ok (same.symm.trans succeeds)
    rw [← alone] at does
    obtain ⟨t, doesHere, next⟩ := h.store.next references new own does
    have left := transact_of_ok succeeds
    rw [doesHere] at left
    cases left
    exact next

/-- Reconciling a further pupil in one transaction comes to what it would have come to at the start. -/
theorem Halfway.transact (h : Halfway start solo done w) (references : start.store.References) (new : pid ∉ done)
    (own : ∀ student ∈ known, student.pid = pid)
    (alone : solo pid = (transact (reconcileWith pid purge known) start).2.store) :
    let after := Sync.transact (reconcileWith pid purge known) w
    after.1 = (Sync.transact (reconcileWith pid purge known) start).1 ∧
      (∀ action, after.1 = .ok action → Halfway start solo (pid :: done) after.2) ∧
      (∀ fault, after.1 = .error fault → Halfway start solo done after.2) := by
  intro after
  have failing (fault : Fault) (fails : after.1 = .error fault) : Halfway start solo done after.2 := by
    rw [transact_of_error fails]
    exact h
  cases only : start.readOnly with
  | true =>
      obtain ⟨same, next⟩ := h.transact_of_readOnly only new alone
      exact ⟨same, fun _ _ => next, failing⟩
  | false =>
      obtain ⟨same, next⟩ := h.transact_of_writable only references new own alone
      exact ⟨same, next, failing⟩

end Gradebook.Sync
