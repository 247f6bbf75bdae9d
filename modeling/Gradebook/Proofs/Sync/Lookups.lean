import Gradebook.Proofs.Store.Coverage
import Gradebook.Proofs.Store.Marks
import Gradebook.Proofs.Store.Share
import Gradebook.Proofs.Sync.Reconciliation
import Gradebook.Proofs.Sync.Schedule

/-! Lookups side by side. A lookup reads the store, asks the portal about a pupil who is not there, and stores what it
was told. Others may store the same pupil in between, and then the lookup ends in a conflict, though the pupil is known
to the portal and stored as the portal knows it. Apart from that a lookup of a valid pupil goes wrong only for a subject
without a code. -/

namespace Gradebook

namespace Store

open Attempt

variable {s t : Store} {pid other : PupilId} {row : StoredStudent} {student found stored : Student}

/-- What a store tells of a student, if anything, is like the student. -/
def Tells (student : Student) (s : Store) : Prop :=
  ∀ found, findStudent? student.pid s = .ok (some found) → found.Like student

theorem Tells.frame (tells : Tells student s) (frame : Frame other s t) (hne : student.pid ≠ other)
    (references : s.References) (ordered : t.subjects.Pairwise fun a b => a.id < b.id) : Tells student t := by
  intro found finds
  rw [frame.findStudent?_eq hne references ordered] at finds
  exact tells found finds

theorem tells_of_absent (absent : s.hasStudent student.pid = false) : Tells student s := by
  intro found finds
  rw [findStudent?_of_absent absent] at finds
  cases finds

/-- A row with the student's data and links to the student's codes tell of the student. -/
theorem tells_of_newRow {clock : Timestamp} (h : s.Sound) (one : rowsOf student.pid s = [newRow student clock])
    (codes : ∀ code, code ∈ codesOf student.pid s ↔ code ∈ student.subjects.map (·.code)) : Tells student s := by
  intro found finds
  have hrow : newRow student clock ∈ s.students := (List.mem_filter.mp (one ▸ List.mem_cons_self)).1
  obtain ⟨told, tells, shows⟩ := findStudent?_ok (h.studentRows _ hrow) one
  rw [finds] at tells
  cases tells
  refine ⟨shows.pid, shows.name, ?_, shows.attends.symm, ?_⟩
  · exact Option.map_injective (fun _ _ => Int32.toInt_inj.mp) shows.currentYear.symm
  · intro code
    rw [shows.subjects]
    exact codes code

/-- What becomes of a valid student who is to be created in a sound store. -/
theorem createStudent_cases (h : s.Sound) (valid : student.validate = .ok ()) :
    (s.hasStudent student.pid = true ∧ createStudent student s = (.error .pupilExists, s)) ∨
    (s.hasStudent student.pid = false ∧ (∃ subject ∈ student.subjects, subject.code = "") ∧
      ∃ message t, createStudent student s = (.error (.validation message), t)) ∨
    (s.hasStudent student.pid = false ∧ (∀ subject ∈ student.subjects, subject.code ≠ "") ∧
      ∃ stored t, createStudent student s = (.ok stored, t) ∧ stored.Like student ∧ Tells student t) := by
  cases known : s.hasStudent student.pid with
  | true => exact .inl ⟨rfl, createStudent_of_stored valid known⟩
  | false =>
      by_cases coded : ∀ subject ∈ student.subjects, subject.code ≠ ""
      · obtain ⟨stored, t, creates, one, codes, -⟩ := createStudent_ok h known ⟨valid, coded⟩
        have sound : t.Sound := (createStudent_sound student).leads creates h
        have tells : Tells student t := tells_of_newRow sound one codes
        obtain ⟨-, found, -⟩ := createStudent_covers creates
        exact .inr (.inr ⟨rfl, coded, stored, t, creates, tells stored found, tells⟩)
      · have uncoded : ∃ subject ∈ student.subjects, subject.code = "" := by simpa using coded
        exact .inr (.inl ⟨rfl, uncoded, createStudent_refused h.references valid known uncoded⟩)

end Store

end Gradebook

namespace Gradebook.Sync

open Portal Attempt
open Store (Sound Frame Tells)

variable {service : Service} {student known : Student} {pid : PupilId} {s t : Store} {w v : World} {assumed : Prop}

/-! ### What lookups and refreshes keep -/

/-- A world whose store can be written, is sound and, under an assumption, tells of a student as known. -/
structure Calm (assumed : Prop) (student : Student) (w : World) : Prop where
  writable : w.readOnly = false
  sound : w.store.Sound
  tells : assumed → Tells student w.store

theorem quiet_calm (assumed : Prop) (student : Student) : Plan.Quiet (Calm assumed student) := by
  intro w v same writable calm
  refine ⟨writable.trans calm.writable, ?_, ?_⟩
  · rw [same]
    exact calm.sound
  · rw [same]
    exact calm.tells

/-- Work about one pupil keeps the world calm when it succeeds as long as it does so for this student. -/
theorem Calm.transact {α : Type} {a : Store.Action α} {about : PupilId} (calm : Calm assumed student w)
    (sounds : a.Moves (Upholds Sound)) (frames : a.Moves (Frame about))
    (own : student.pid = about → ∀ s x t, s.Sound → Tells student s → a s = (.ok x, t) → Tells student t) :
    Calm assumed student (Sync.transact a w).2 := by
  rcases transact_cases a w with ⟨fault, fails⟩ | ⟨x, store, does, succeeds⟩
  · rw [fails]
    exact calm
  · have sound : store.Sound := sounds.leads does calm.sound
    have frame : Frame about w.store store := frames.leads does
    rw [succeeds]
    refine ⟨calm.writable, sound, fun holds => ?_⟩
    by_cases about : student.pid = about
    · exact own about w.store x store calm.sound (calm.tells holds) does
    · exact (calm.tells holds).frame frame about calm.sound.references sound.subjects

theorem tells_of_createStudent {stored : Student} (valid : student.validate = .ok ()) (sound : s.Sound)
    (creates : Store.createStudent student s = (.ok stored, t)) : Tells student t := by
  obtain ⟨-, fails⟩ | ⟨-, -, message, u, fails⟩ | ⟨-, -, stored', u, succeeds, -, tells⟩ :=
    Store.createStudent_cases sound valid
  · rw [fails] at creates
    cases creates
  · rw [fails] at creates
    cases creates
  · rw [succeeds] at creates
    cases creates
    exact tells

/-- Reconciling a student who is stored as known, if at all, leaves the student so. -/
theorem tells_of_reconcileWith {purge : Bool} {action : Reconciliation} {heard : Option Student} (sound : s.Sound)
    (tells : Tells student s) (told : ∀ known ∈ heard, known = student)
    (reconciles : reconcileWith student.pid purge heard s = (.ok action, t)) : Tells student t := by
  have own : ∀ known ∈ heard, known.pid = student.pid := fun known hknown => congrArg Student.pid (told known hknown)
  have soundAfter : t.Sound := (reconcileWith_sound student.pid purge heard).leads reconciles sound
  cases follows_of_ok sound own reconciles with
  | absent new => exact tells
  | kept stored => exact tells
  | skipped leaves new => exact tells
  | unchanged stays stored agrees => exact tells
  | deleted leaves stored => exact Store.tells_of_absent (by simp [Store.hasStudent, without])
  | created stays new row codes marks =>
      obtain rfl := told _ rfl
      exact Store.tells_of_newRow soundAfter row codes
  | @updated _ row _ stays stored differs inLine codes marks =>
      -- who is stored as known has nothing to learn
      obtain rfl := told _ rfl
      have hrow : row ∈ s.students := (List.mem_filter.mp (stored ▸ List.mem_cons_self)).1
      obtain ⟨prev, found, shows⟩ := Store.findStudent?_ok (sound.studentRows row hrow) stored
      have like := tells prev found
      refine absurd (shows.covers_iff.mp ⟨like.currentYear, like.attends, fun subject hsubject => ?_⟩) differs
      exact (like.codes subject.code).mpr (List.mem_map_of_mem hsubject)

/-! ### The last step of a lookup -/

/-- What becomes of a lookup, as the worlds at its first and its last step have it. -/
inductive Looks (student : Student) (first last : World) : Except Fault Student → Prop where
  | found {found stored : Student} (here : first.store.hasStudent student.pid = true)
      (told : Store.findStudent? student.pid first.store = .ok (some stored)) (like : found.Like stored) :
      Looks student first last (.ok found)
  | created {found : Student} (absent : first.store.hasStudent student.pid = false)
      (new : last.store.hasStudent student.pid = false) (coded : ∀ subject ∈ student.subjects, subject.code ≠ "")
      (like : found.Like student) : Looks student first last (.ok found)
  | refused (absent : first.store.hasStudent student.pid = false) (new : last.store.hasStudent student.pid = false)
      (uncoded : ∃ subject ∈ student.subjects, subject.code = "") (message : String) :
      Looks student first last (.error (.invalid message))
  | conflict (absent : first.store.hasStudent student.pid = false) (stored : last.store.hasStudent student.pid = true) :
      Looks student first last (.error Store.Error.pupilExists.fault)

/-- A lookup that missed the pupil ends with the transaction that stores the pupil. -/
theorem looks_of_transact (valid : student.validate = .ok ()) {first last : World}
    (absent : first.store.hasStudent student.pid = false) (calm : Calm assumed student last) :
    Looks student first last (transact (Store.createStudent student) last).1 := by
  rw [transact_outcome _ calm.writable]
  obtain ⟨stored, does⟩ | ⟨new, uncoded, message, t, does⟩ | ⟨new, coded, given, t, does, like, -⟩ :=
    Store.createStudent_cases calm.sound valid
  · rw [does]
    exact .conflict absent stored
  · rw [does]
    exact .refused absent new uncoded _
  · rw [does]
    exact .created absent new coded like

/-- The marks of a student can be read from every sound store. -/
theorem withMarks_ok (pid : PupilId) {w : World} (sound : w.store.Sound) :
    ∃ marks, within "attach student marks" (consult (Store.findMarks (.byPid pid))) w = (.ok marks, w) := by
  obtain ⟨marks, shown⟩ := sound.findMarks_ok (MarksFilter.isTooDeep_eq_false (.byPid pid) (Nat.zero_le _))
  refine ⟨marks, ?_⟩
  rw [within_apply, Plan.consult_of_ok shown]
  rfl

theorem pupilExists_ne_invalid (message : String) : Store.Error.pupilExists.fault ≠ .invalid message :=
  fun same => nomatch congrArg Fault.kind same

/-! ### Lookups and refreshes of students -/

/-- A lookup or a refresh. -/
def Errand.OfStudents : Errand → Prop
  | .findStudent _ => True
  | .refreshStudents _ _ => True
  | _ => False

section
variable (steady : service.portal.SteadyAbout student.pid)
  (knows : (fetchStudent service.portal service.settings.currentAcademicYear student.pid {}).1 = .ok student)
include steady knows

theorem fetchStudent_told :
    (Plan.fetchStudent service.portal service.settings.currentAcademicYear student.pid).Comes (.ok student) :=
  knows ▸ Plan.fetchStudent_comes steady _ {}

/-- Whoever is fetched is the pupil that was asked for, and this student only as known. -/
theorem fetchStudent_calm (pid : PupilId) :
    (Plan.fetchStudent service.portal service.settings.currentAcademicYear pid).Ensures (Calm assumed student)
      fun fetched => fetched.pid = pid ∧ (fetched.pid = student.pid → fetched = student) := by
  have quiet := quiet_calm assumed student
  by_cases about : pid = student.pid
  · subst about
    refine ((fetchStudent_told steady knows).ensures quiet).mono fun fetched told => ?_
    cases told
    exact ⟨rfl, fun _ => rfl⟩
  · exact (Plan.fetchStudent_ensures quiet _ _ pid).mono fun fetched own =>
      ⟨own, fun same => absurd (own.symm.trans same) about⟩

theorem reconcile_calm (purge : Bool) (pid : PupilId) :
    (Plan.reconcile service purge pid).Ensures (Calm assumed student) fun _ => True := by
  refine Plan.reconcile_ensures (fetchStudent_calm steady knows pid) fun heard told => ?_
  refine .atom (fun w calm => ?_) fun _ _ _ _ => trivial
  refine calm.transact (reconcileWith_sound pid purge heard)
    (reconcileWith_frame fun known hknown => (told known hknown).1) ?_
  rintro rfl s action t sound tells reconciles
  exact tells_of_reconcileWith sound tells (fun known hknown => (told known hknown).2 (told known hknown).1) reconciles

theorem findStudent_calm (valid : student.validate = .ok ()) (pid : PupilId) :
    (Plan.findStudent service pid).Ensures (Calm assumed student) fun _ => True := by
  refine Plan.findStudent_ensures (quiet_calm assumed student) (fetchStudent_calm steady knows pid)
    fun fetched told => ?_
  refine .atom (fun w calm => ?_) fun _ _ _ _ => trivial
  refine calm.transact (Store.createStudent_sound fetched) (Store.createStudent_frame fetched) ?_
  intro about s stored t sound _ creates
  obtain rfl := told.2 about.symm
  exact tells_of_createStudent valid sound creates

theorem calm_of_errand (valid : student.validate = .ok ()) {errand : Errand} (students : errand.OfStudents) :
    (errand.plan service).Ensures (Calm assumed student) fun _ => True := by
  cases errand with
  | findStudent pid => exact findStudent_calm steady knows valid pid
  | refreshStudents request cancellation =>
      exact Plan.refreshStudents_ensures (quiet_calm assumed student) (reconcile_calm steady knows request.purge)
        cancellation
  | refreshMarks _ _ => cases students
  | findMarksInPeriod _ _ => cases students
  | deleteStudent _ => cases students
  | deleteMark _ => cases students

/-! ### What a lookup comes to -/

theorem looks_of_among (fallback : service.settings.studentFallback = true) (valid : student.validate = .ok ())
    {ws : List World} {outcome : Except Fault Student}
    (among : (Plan.findStudent service student.pid).Among ws outcome)
    (calm : ∀ w ∈ ws, Calm assumed student w) :
    ∃ first last, ws.head? = some first ∧ ws.getLast? = some last ∧ Looks student first last outcome := by
  unfold Plan.findStudent at among
  obtain ⟨e, fails, rfl⟩ | ⟨stored?, before, after, rfl, reads, rest⟩ := Plan.among_bind among
  · -- a sound store is read without fail
    obtain ⟨first, rfl, told⟩ := Plan.among_atom fails
    obtain ⟨-, missing⟩ | ⟨-, stored, found⟩ :=
      (calm first List.mem_cons_self).sound.findStudent?_cases student.pid
    · rw [Plan.consult_of_ok missing] at told
      cases told
    · rw [Plan.consult_of_ok found] at told
      cases told
  obtain ⟨first, rfl, told⟩ := Plan.among_atom reads
  obtain ⟨absent, missing⟩ | ⟨here, stored, found⟩ :=
    (calm first (by simp)).sound.findStudent?_cases student.pid
  · rw [Plan.consult_of_ok missing] at told
    cases told
    obtain ⟨e, fails, -⟩ | ⟨answer, asked, later, rfl, fetched, writes⟩ := Plan.among_bind rest
    · cases (fetchStudent_told steady knows).outcome.among fails
    · cases (fetchStudent_told steady knows).outcome.among fetched
      simp only [fallback, if_true] at writes
      obtain ⟨last, rfl, rfl⟩ := Plan.among_atom writes
      refine ⟨first, last, rfl, by rw [← List.append_assoc, List.getLast?_concat], ?_⟩
      exact looks_of_transact valid absent (calm last (by simp))
  · rw [Plan.consult_of_ok found] at told
    cases told
    obtain ⟨e, fails, -⟩ | ⟨marks, read, later, rfl, shown, ends⟩ := Plan.among_bind rest
    · obtain ⟨last, rfl, told⟩ := Plan.among_atom fails
      obtain ⟨marks, shows⟩ := withMarks_ok stored.pid (calm last (by simp)).sound
      rw [shows] at told
      cases told
    · obtain ⟨last, rfl, -⟩ := Plan.among_atom shown
      cases ends
      exact ⟨first, last, rfl, rfl, .found here found ⟨rfl, rfl, rfl, rfl, fun _ => Iff.rfl⟩⟩

/-- **What a lookup comes to.** Side by side with any lookups and refreshes of whatever pupils, and however their steps
are interleaved: a lookup of a pupil whom the portal keeps describing as one valid student ends. It ends in a conflict
just where it missed the pupil at its first step and somebody else had stored the pupil by its last. It is refused
otherwise just where the pupil was missing at both and has a subject without a code, which the store does not take.
In every other case it gives the pupil, and gives the student that the portal describes if that is what the store told
of the pupil, if anything, to begin with. -/
theorem lookup_outcome (fallback : service.settings.studentFallback = true) (valid : student.validate = .ok ())
    {o : Office} (writable : o.world.readOnly = false) (sound : o.world.store.Sound)
    (begun : ∀ r ∈ o.running, ∃ errand : Errand, errand.OfStudents ∧ r = ⟨errand, errand.plan service⟩)
    {place : Nat} (asked : o.running[place]? = some ⟨.findStudent student.pid, Plan.findStudent service student.pid⟩)
    (places : List Nat) :
    (7 ≤ places.count place →
      ∃ outcome, (o.turns places).running[place]? = some ⟨.findStudent student.pid, .ended outcome⟩) ∧
    ∀ outcome, (o.turns places).running[place]? = some ⟨.findStudent student.pid, .ended outcome⟩ →
      ∃ first last, (o.seen place places).head? = some first ∧ (o.seen place places).getLast? = some last ∧
        (outcome = .error Store.Error.pupilExists.fault ↔
          first.store.hasStudent student.pid = false ∧ last.store.hasStudent student.pid = true) ∧
        ((∃ message, outcome = .error (.invalid message)) ↔
          first.store.hasStudent student.pid = false ∧ last.store.hasStudent student.pid = false ∧
            ∃ subject ∈ student.subjects, subject.code = "") ∧
        (∀ fault, outcome = .error fault →
          fault = Store.Error.pupilExists.fault ∨ ∃ message, fault = .invalid message) ∧
        (∀ found, outcome = .ok found →
          found.pid = student.pid ∧ (Tells student o.world.store → found.Like student)) := by
  have calm : o.Holds (Calm (Tells student o.world.store) student) := by
    refine ⟨⟨writable, sound, id⟩, fun r hr => ?_⟩
    obtain ⟨errand, students, rfl⟩ := begun r hr
    exact calm_of_errand steady knows valid students
  refine ⟨fun enough => Office.ends_of_turns (Plan.findStudent_within service _) asked enough, ?_⟩
  intro outcome ended
  have among := Office.among_seen asked ended
  obtain ⟨first, last, hfirst, hlast, looks⟩ :=
    looks_of_among steady knows fallback valid among fun w hw => calm.of_mem_seen hw
  refine ⟨first, last, hfirst, hlast, ?_⟩
  cases looks with
  | found here told like =>
      have calmFirst : Calm (Tells student o.world.store) student first :=
        calm.of_mem_seen (List.mem_of_mem_head? (by rw [hfirst]; rfl))
      refine ⟨by simp [here], by simp [here], nofun, ?_⟩
      rintro _ ⟨⟩
      exact ⟨like.pid.trans (Store.findStudent?_pid told), fun holds => like.trans (calmFirst.tells holds _ told)⟩
  | created absent new coded like =>
      refine ⟨by simp [new], ?_, nofun, ?_⟩
      · simp only [reduceCtorEq, exists_false, false_iff, not_and, not_exists]
        exact fun _ _ subject hsubject => coded subject hsubject
      · rintro _ ⟨⟩
        exact ⟨like.pid, fun _ => like⟩
  | refused absent new uncoded message =>
      refine ⟨?_, ?_, ?_, nofun⟩
      · rw [new]
        exact ⟨fun same => absurd (Except.error.inj same).symm (pupilExists_ne_invalid message), nofun⟩
      · exact ⟨fun _ => ⟨absent, new, uncoded⟩, fun _ => ⟨message, rfl⟩⟩
      · rintro _ ⟨⟩
        exact .inr ⟨message, rfl⟩
  | conflict absent stored =>
      refine ⟨⟨fun _ => ⟨absent, stored⟩, fun _ => rfl⟩, ?_, ?_, nofun⟩
      · rw [stored]
        exact ⟨fun ⟨message, same⟩ => absurd (Except.error.inj same) (pupilExists_ne_invalid message), nofun⟩
      · rintro _ ⟨⟩
        exact .inl rfl

end

/-- The pupil that the sample portal describes. -/
def shownStudent : Student :=
  { pid := 7, name := "Ada", currentYear := some 7, attends := true, subjects := [{ code := "MA", name := "Maths" }] }

/-- Two lookups of one pupil, and the turns that they take alternately. -/
def twoLookups : Office :=
  (Office.assign {} (sampleService 2024) (.findStudent 7)).assign (sampleService 2024) (.findStudent 7)

def alternately : List Nat := [0, 1, 0, 1, 0, 1, 0, 1, 0, 1, 0, 1, 0, 1]

/-- The fault that an errand ended with, if it did. -/
def Running.fault? (r : Running) : Option Fault :=
  match r.plan with
  | .ended (.error fault) => some fault
  | _ => none

theorem samplePortal_steadyAbout (year : Year) (pid : PupilId) : (samplePortal year).SteadyAbout pid := by
  constructor <;> intros <;> rfl

theorem shownStudent_known :
    (fetchStudent (sampleService 2024).portal (sampleService 2024).settings.currentAcademicYear 7 {}).1 =
      .ok shownStudent := by
  decide +kernel

theorem twoLookups_fault : ((twoLookups.turns alternately).running[1]?.bind Running.fault?) =
    some Store.Error.pupilExists.fault := by
  decide +kernel

theorem error_of_fault? {errand : Errand} {outcome : Except Fault errand.Reply} {fault : Fault}
    (failed : Running.fault? ⟨errand, .ended outcome⟩ = some fault) : outcome = .error fault := by
  cases outcome with
  | ok reply => cases failed
  | error e =>
      cases failed
      rfl

/-- The second lookup misses the pupil, as the first one did, and both ask the portal; the first one stores the pupil
in between. -/
theorem lookup_outcome_alternately : ∃ first last : World,
    (twoLookups.seen 1 alternately).head? = some first ∧ (twoLookups.seen 1 alternately).getLast? = some last ∧
      first.store.hasStudent 7 = false ∧ last.store.hasStudent 7 = true := by
  have begun : ∀ r ∈ twoLookups.running,
      ∃ errand : Errand, errand.OfStudents ∧ r = ⟨errand, errand.plan (sampleService 2024)⟩ := by
    intro r hr
    refine ⟨.findStudent 7, trivial, ?_⟩
    rcases List.mem_cons.mp hr with rfl | hr
    · rfl
    · exact List.mem_singleton.mp hr
  have asked : twoLookups.running[1]? =
      some ⟨.findStudent shownStudent.pid, Plan.findStudent (sampleService 2024) shownStudent.pid⟩ := rfl
  obtain ⟨ends, comes⟩ := lookup_outcome (samplePortal_steadyAbout 2024 7) shownStudent_known rfl (by decide) rfl
    (.empty .epoch) begun asked alternately
  obtain ⟨outcome, ended⟩ := ends (by decide)
  obtain ⟨first, last, hfirst, hlast, conflict, -⟩ := comes outcome ended
  have failed := twoLookups_fault
  rw [ended] at failed
  exact ⟨first, last, hfirst, hlast, conflict.mp (error_of_fault? failed)⟩

/-- A lookup of a pupil whom the portal knows with valid data can end in a conflict. -/
theorem lookups_can_conflict :
    (sampleService 2024).settings.studentFallback = true ∧ (sampleService 2024).portal.SteadyAbout 7 ∧
    (fetchStudent (sampleService 2024).portal (sampleService 2024).settings.currentAcademicYear 7 {}).1 =
      .ok shownStudent ∧
    Store.Storable shownStudent ∧ twoLookups.Reached ∧
    (twoLookups.turns alternately).running[1]? =
      some ⟨.findStudent 7, .ended (.error Store.Error.pupilExists.fault)⟩ ∧
    Store.Error.pupilExists.fault.kind = .conflict := by
  have reached : twoLookups.Reached := ((Office.Reached.opens .epoch false []).assign _ _).assign _ _
  refine ⟨rfl, samplePortal_steadyAbout 2024 7, shownStudent_known, ⟨by decide, by decide⟩, reached, ?_, rfl⟩
  have asked : twoLookups.running[1]? = some ⟨.findStudent 7, Plan.findStudent (sampleService 2024) 7⟩ := rfl
  have enough : 7 ≤ alternately.count 1 := by decide
  obtain ⟨outcome, ended⟩ := Office.ends_of_turns (Plan.findStudent_within (sampleService 2024) 7) asked enough
  have failed := twoLookups_fault
  rw [ended] at failed
  rw [ended]
  cases error_of_fault? failed
  rfl

end Gradebook.Sync
