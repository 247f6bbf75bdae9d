import Gradebook.Proofs.Portal.Client
import Gradebook.Proofs.Refresh
import Gradebook.Proofs.Sync.Students

/-! A purge destroys nothing without evidence. However the network replies, a refresh takes something away from a
pupil only after five successes that tell something, of which the first lists academic years without the current
one and the last shows the pupil's name. Everything else, errors and silence included, keeps the pupil. -/

namespace Gradebook.Sync

open Portal Attempt
open Store (Frame Keeps)

variable {c : Client} {network : Network} {settings : Settings} {purge : Bool} {pid other : PupilId}
variable {current : Year} {earlier : List Call} {a : Answers} {w v u : World}

/-- The network's replies to the five calls about a pupil show that the pupil has left: each reply tells something,
every year in the first is read and is not the current one, and the last has the pupil's name. -/
structure ShowLeft (c : Client) (network : Network) (current : Year) (pid : PupilId) (earlier : List Call)
    (a : Answers) : Prop where
  years : ∃ items, (c.send network earlier (.academicYears pid)).Tells Item.ofJson items ∧
    List.Forall₂ (fun item year => Text.readInt32 (Text.trim item.value) = .ok year) items a.years
  periods : ∃ items, (c.send network (earlier ++ (a.calls pid).take 1)
    (.reportingPeriods pid a.years)).Tells Item.ofJson items
  subjects : ∃ items, (c.send network (earlier ++ (a.calls pid).take 2)
    (.reportingSubjects pid a.years a.periods)).Tells Item.ofJson items
  columns : ∃ items, (c.send network (earlier ++ (a.calls pid).take 3)
    (.columnsForSubjects pid a.years a.periods a.subjects)).Tells Item.ofJson items
  sheet : ∃ fragments, (c.send network (earlier ++ (a.calls pid).take 4)
    (.marksheet pid a.query)).Tells Json.toText fragments ∧ a.sheet = String.join fragments
  left : current ∉ a.years
  named : ∃ name after, Marksheet.name a.sheet = .ok (name, after)

/-- Work that makes no call about a pupil and takes nothing from that pupil. -/
structure Spares (pid : PupilId) (w v : World) : Prop where
  calls : ∃ made, v.calls = w.calls ++ made ∧ ∀ call ∈ made, call.pid ≠ pid
  store : Keeps pid w.store v.store

/-- Work that takes nothing from a pupil, or purges one about whom it made five calls that show that the pupil
has left, and no other call. -/
def Weighs (c : Client) (network : Network) (current : Year) (purge : Bool) (pid : PupilId)
    (w v : World) : Prop :=
  Keeps pid w.store v.store ∨
    purge = true ∧ ∃ before a after, v.calls = w.calls ++ before ++ a.calls pid ++ after ∧
      (∀ call ∈ before ++ after, call.pid ≠ pid) ∧ ShowLeft c network current pid (w.calls ++ before) a

instance (pid : PupilId) : IsPreorder World (Spares pid) where
  refl w := ⟨⟨[], (List.append_nil _).symm, by simp⟩, refl_of (Keeps pid) w.store⟩
  trans w v u h k := by
    obtain ⟨made, hmade, hother⟩ := h.calls
    obtain ⟨more, hmore, hmoreOther⟩ := k.calls
    refine ⟨⟨made ++ more, ?_, ?_⟩, trans_of (Keeps pid) h.store k.store⟩
    · rw [hmore, hmade, List.append_assoc]
    · intro call hcall
      rcases List.mem_append.mp hcall with hcall | hcall
      · exact hother call hcall
      · exact hmoreOther call hcall

theorem Spares.then_weighs (h : Spares pid w v) (k : Weighs c network current purge pid v u) :
    Weighs c network current purge pid w u := by
  obtain ⟨made, hmade, hother⟩ := h.calls
  rcases k with hkeeps | ⟨purges, before, a, after, hcalls, hothers, shows⟩
  · exact Or.inl (trans_of (Keeps pid) h.store hkeeps)
  · refine Or.inr ⟨purges, made ++ before, a, after, ?_, ?_, ?_⟩
    · rw [hcalls, hmade]
      simp only [List.append_assoc]
    · intro call hcall
      rw [List.append_assoc] at hcall
      rcases List.mem_append.mp hcall with hcall | hcall
      · exact hother call hcall
      · exact hothers call hcall
    · rwa [← List.append_assoc, ← hmade]

theorem Weighs.then_spares (h : Weighs c network current purge pid w v) (k : Spares pid v u) :
    Weighs c network current purge pid w u := by
  obtain ⟨more, hmore, hother⟩ := k.calls
  rcases h with hkeeps | ⟨purges, before, a, after, hcalls, hothers, shows⟩
  · exact Or.inl (trans_of (Keeps pid) hkeeps k.store)
  · refine Or.inr ⟨purges, before, a, after ++ more, ?_, ?_, shows⟩
    · rw [hmore, hcalls]
      simp only [List.append_assoc]
    · intro call hcall
      rw [← List.append_assoc] at hcall
      rcases List.mem_append.mp hcall with hcall | hcall
      · exact hothers call hcall
      · exact hother call hcall

/-! ### One pupil -/

/-- Five answers of a client over a network, for a pupil who does not attend, show that the pupil has left. -/
theorem ShowLeft.of_given {student : Student} (given : a.Given (c.responder network) pid earlier)
    (reads : a.student current pid = .ok student) (left : student.attends = false) :
    ShowLeft c network current pid earlier a := by
  obtain ⟨-, hattends, -, after, hname⟩ := Answers.student_ok reads
  obtain ⟨items, hitems, hyears⟩ := Client.academicYears_eq_ok.mp given.years
  refine ⟨⟨items, hitems, ?_⟩, Client.reportingPeriods_ok given.periods,
    Client.reportingSubjects_ok given.subjects, Client.columnsForSubjects_ok given.columns,
    Client.marksheet_ok given.sheet, ?_, student.name, after, hname⟩
  · exact hyears.imp fun item year hyear => Client.yearOf_eq_ok.mp hyear
  · rw [left] at hattends
    simpa using hattends.symm

theorem Asks.spares (h : Asks pid w v) (hne : other ≠ pid) : Spares other w v := by
  obtain ⟨calls, rfl, about⟩ := h
  refine ⟨⟨calls, World.calls_having calls w, ?_⟩, refl_of (Keeps other) w.store⟩
  intro call hcall
  rw [about call hcall]
  exact hne.symm

theorem transact_spares {α : Type} {action : Store.Action α} (h : action.Moves (Keeps pid)) :
    (transact action).Moves (Spares pid) := by
  intro w
  exact ⟨⟨[], by rw [transact_calls, List.append_nil], by simp⟩, transact_store h w⟩

/-- Reconciling one pupil spares every other. -/
theorem reconcile_spares (s : Service) (purge : Bool) (hne : other ≠ pid) :
    (s.reconcile purge pid).Moves (Spares other) := by
  refine reconcile_moves s purge (fun w v asks => asks.spares hne) fun known own => ?_
  have frame : (reconcileWith pid purge known).Moves (Frame pid) := reconcileWith_frame own
  exact transact_spares (frame.mono fun _ _ h => h.keeps_other hne)

/-- Reconciling a pupil weighs what the network says about that pupil. -/
theorem reconcile_weighs (c : Client) (network : Network) (settings : Settings) (purge : Bool)
    (pid : PupilId) :
    (Service.reconcile ⟨c.responder network, settings⟩ purge pid).Moves
      (Weighs c network settings.currentAcademicYear purge pid) := by
  intro w
  obtain ⟨calls, -, hv, ⟨-, fault, fails⟩ | ⟨known, hheard, -, transacts⟩⟩ :=
    reconcile_cases ⟨c.responder network, settings⟩ purge pid w
  · rw [fails]
    exact Or.inl (refl_of (Keeps pid) w.store)
  · rw [transacts]
    by_cases stays : ∀ student ∈ known, (purge && !student.attends) = false
    · exact Or.inl (transact_store (reconcileWith_keeps stays) (w.having calls))
    · simp only [not_forall, Bool.not_eq_false, Bool.and_eq_true, Bool.not_eq_true'] at stays
      obtain ⟨student, hstudent, purges, left⟩ := stays
      obtain rfl : known = some student := hstudent
      have fetched : fetchStudent (c.responder network) settings.currentAcademicYear pid w =
          (.ok student, w.having calls) := Prod.ext (fetched_of_heard hheard) hv
      obtain ⟨a, given, reads, asked⟩ := fetchStudent_ok fetched
      rw [asked]
      refine Or.inr ⟨purges, [], a, [], ?_, by simp, ?_⟩
      · rw [transact_calls, World.calls_having, List.append_nil, List.append_nil]
      · rw [List.append_nil]
        exact ShowLeft.of_given given reads left

/-! ### All pupils of a request -/

theorem checkpoint_spares (what : String) (cancellation : Cancellation) (done : Nat) :
    (checkpoint what cancellation done).Moves (Spares pid) := by
  intro w
  obtain ⟨hstore, hcalls⟩ := checkpoint_world what cancellation done w
  refine ⟨⟨[], by rw [hcalls, List.append_nil], by simp⟩, ?_⟩
  rw [hstore]
  exact refl_of (Keeps pid) w.store

theorem report_spares (detail : String) : (note (.reported detail) : Session Unit).Moves (Spares pid) := by
  intro w
  exact ⟨⟨[], by rw [note_reported_calls, List.append_nil], by simp⟩, refl_of (Keeps pid) w.store⟩

/-- Whoever is not among the pupils that remain is spared. -/
theorem refreshFrom_spares (s : Service) (purge : Bool) (pupils : PupilRange) (cancellation : Cancellation)
    (remaining done : Nat) (summary : Summary)
    (absent : ∀ i, done ≤ i → i < done + remaining → pid ≠ pupils.get i) :
    (s.refreshFrom purge pupils cancellation done summary remaining).Moves (Spares pid) := by
  apply refreshFrom_moves (checkpoint_spares _ _) report_spares
  intro i low high
  exact reconcile_spares s purge (absent i low high)

/-- Each pupil comes at most once, so the run weighs what that one reconciliation weighs. -/
theorem refreshFrom_weighs (c : Client) (network : Network) (settings : Settings) (purge : Bool)
    {pupils : PupilRange} (fits : pupils.Fits) (cancellation : Cancellation) (remaining done : Nat)
    (summary : Summary) (within : done + remaining = pupils.count) :
    (Service.refreshFrom ⟨c.responder network, settings⟩ purge pupils cancellation done summary remaining).Moves
      (Weighs c network settings.currentAcademicYear purge pid) := by
  induction remaining generalizing done summary with
  | zero =>
      intro w
      exact Or.inl (refl_of (Keeps pid) w.store)
  | succ remaining ih =>
      unfold Service.refreshFrom
      have stop (w v : World) (h : Spares pid w v) :
          Weighs c network settings.currentAcademicYear purge pid w v := Or.inl h.store
      refine .chain (checkpoint_spares _ _ _) (fun _ => ?_) stop fun w v u => Spares.then_weighs
      by_cases here : pid = pupils.get done
      · subst here
        -- nobody after this place has this number
        have rest (next : Summary) : (Service.refreshFrom ⟨c.responder network, settings⟩ purge pupils
            cancellation (done + 1) next remaining).Moves (Spares (pupils.get done)) := by
          apply refreshFrom_spares
          intro i low high same
          have := PupilRange.get_injective fits (by omega) (by omega) same
          omega
        refine .chain (reconcile_weighs c network settings purge _) (fun action => ?_) (fun _ _ h => h)
          fun w v u => Weighs.then_spares
        exact .bind (report_spares _) fun _ => rest _
      · refine .chain (reconcile_spares _ purge here) (fun action => ?_) stop fun w v u => Spares.then_weighs
        refine .chain (report_spares _) (fun _ => ?_) stop fun w v u => Spares.then_weighs
        exact ih (done + 1) _ (by omega)

/-- **Nothing is purged without evidence.** Whatever is stored, requested and replied, and wherever a refresh is
cancelled, afterwards a pupil still has row, links and marks, or else the request purges and the run made exactly
five calls about the pupil, whose replies show that the pupil has left. -/
theorem purge_needs_evidence (c : Client) (network : Network) (settings : Settings) (request : RefreshStudents)
    (cancellation : Cancellation) (w : World) (pid : PupilId) :
    let after := (Service.refreshStudents ⟨c.responder network, settings⟩ request cancellation w).2
    Keeps pid w.store after.store ∨
      request.purge = true ∧ ∃ before a rest,
        after.calls = w.calls ++ before ++ Answers.calls pid a ++ rest ∧
        (∀ call ∈ before ++ rest, call.pid ≠ pid) ∧
        ShowLeft c network settings.currentAcademicYear pid (w.calls ++ before) a := by
  unfold Service.refreshStudents
  cases hpupils : request.pupils with
  | error fault => exact Or.inl (refl_of (Keeps pid) w.store)
  | ok pupils =>
      have fits := RefreshStudents.fits_of_pupils hpupils
      exact refreshFrom_weighs c network settings request.purge fits cancellation pupils.count 0 {}
        (Nat.zero_add _) w

end Gradebook.Sync
