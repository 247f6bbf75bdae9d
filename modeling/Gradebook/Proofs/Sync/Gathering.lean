import Gradebook.Proofs.Marksheet.Layout
import Gradebook.Proofs.Store.Names
import Gradebook.Proofs.Sync.Distinct
import Gradebook.Proofs.Sync.Idempotence
import Gradebook.Proofs.Sync.Merge

/-! Marks after students. Refreshing a pupil stores the first subject of each code that the store lacked, and
refreshing the pupil's marks right after that needs just one thing more: each name that the portal shows must be the
name of a stored subject. It need not be the name that the portal itself gives to a subject of the pupil, for a code
keeps the name under which it was stored first. -/

namespace Gradebook.Sync

open Portal Attempt
open Store (Adds Sound Learns noSubjectNamed newCodes)

variable {service : Service} {portal : Responder} {pid : PupilId} {p : Period} {periods : List Period}
variable {shown : List Mark} {earlier : List Call} {student : Student} {s t : Store} {w v : World}

/-! ### One period -/

/-- Marks that are shown break no rule. -/
theorem shownMarks_valid (shows : shownMarks portal earlier pid p = .ok shown) :
    ∀ mark ∈ shown, mark.pid = pid ∧ mark.validate = .ok () := by
  unfold shownMarks at shows
  split at shows
  · next term column hterm hcolumn =>
    have full : p.isFull = true := by
      rw [Period.isFull, hterm, hcolumn]
      rfl
    split at shows
    · split at shows
      · next entries read =>
        cases shows
        intro mark hmark
        obtain ⟨entry, hentry, rfl⟩ := List.mem_map.mp hmark
        exact ⟨rfl, Mark.validate_eq_ok.mpr ⟨rfl, full, Marksheet.subject_of_entries read entry hentry⟩⟩
      · cases shows
    · split at shows
      · cases shows
        exact List.forall_mem_nil _
      · cases shows
  · cases shows

/-- Marks of a stored pupil are merged as long as subjects have their names. -/
theorem appendMarks_cases (sound : s.Sound) (known : s.hasStudent pid = true)
    (valid : ∀ mark ∈ shown, mark.pid = pid ∧ mark.validate = .ok ()) :
    ((∀ mark ∈ shown, mark.subject.name ∈ s.subjectNames) ∧
        ∃ created t, appendMarks pid p shown s = (.ok created, t)) ∨
      ∃ mark ∈ shown, mark.subject.name ∉ s.subjectNames ∧
        ∃ t, appendMarks pid p shown s = (.error (noSubjectNamed mark.subject.name), t) := by
  obtain ⟨student, found⟩ := sound.exists_findStudent known
  obtain ⟨stored, told⟩ := sound.findMarks_ok (f := { MarksFilter.byPid pid with periods := [p] })
    (MarksFilter.isTooDeep_eq_false _ (by simp))
  rw [appendMarks_eq, bind_of_ok (by rw [reading_apply, found]), bind_of_ok (by rw [reading_apply, told])]
  have fresh : Mark.additions stored shown = Mark.firstsOf (Store.markedNames pid p s) shown := by
    rw [Mark.additions_eq, Store.names_of_findMarks told]
  rw [fresh]
  rcases sound.storeEach_cases known fun mark hmark => valid mark (Mark.mem_of_mem_firstsOf hmark) with
    ⟨named, u, stores⟩ | ⟨mark, hmark, unnamed, u, fails⟩
  · refine .inl ⟨?_, _, u, bind_of_ok stores⟩
    intro mark hmark
    by_cases marked : mark.subject.name ∈ Store.markedNames pid p s
    · exact Store.markedNames_subset_subjectNames pid p s marked
    · have first := Mark.name_mem_firstsOf.mpr ⟨List.mem_map_of_mem hmark, marked⟩
      obtain ⟨same, hsame, hname⟩ := List.mem_map.mp first
      exact hname ▸ named same hsame
  · exact .inr ⟨mark, Mark.mem_of_mem_firstsOf hmark, unnamed, u, bind_of_error fails⟩

/-! ### A range of periods -/

/-- The marks of a pupil that the portal shows over some periods, asked for one after the other. -/
def shownOver (portal : Responder) (pid : PupilId) (earlier : List Call) : List Period → Except Fault (List Mark)
  | [] => .ok []
  | p :: rest => do
    let shown ← shownMarks portal earlier pid p
    let more ← shownOver portal pid (earlier ++ marksCalls pid p) rest
    pure (shown ++ more)

/-- Where there may be writes, a period comes to what merging its marks comes to. -/
theorem gatherPeriod_of_appended (shows : shownMarks service.portal w.calls pid p = .ok shown)
    (writable : w.readOnly = false) {created : UInt32} (appends : appendMarks pid p shown w.store = (.ok created, t)) :
    service.gatherPeriod pid p w = (.ok created, { w.having (marksCalls pid p) with store := t }) := by
  have outcome := transact_outcome (w := w.having (marksCalls pid p)) (appendMarks pid p shown) writable
  rw [gatherPeriod_of_shown shows, within_apply]
  rcases transact_cases (appendMarks pid p shown) (w.having (marksCalls pid p)) with
    ⟨fault, fails⟩ | ⟨_, _, does, succeeds⟩
  · have does : appendMarks pid p shown (w.having (marksCalls pid p)).store = (.ok created, t) := appends
    rw [fails, does] at outcome
    cases outcome
  · have same := does.symm.trans appends
    cases same
    rw [succeeds]
    rfl

theorem gatherPeriod_of_refused (shows : shownMarks service.portal w.calls pid p = .ok shown)
    (writable : w.readOnly = false) {e : Store.Error} (fails : appendMarks pid p shown w.store = (.error e, t)) :
    ∃ v, service.gatherPeriod pid p w = (.error (e.fault.within ("store " ++ marksIn pid p)), v) := by
  have outcome := transact_outcome (w := w.having (marksCalls pid p)) (appendMarks pid p shown) writable
  have does : appendMarks pid p shown (w.having (marksCalls pid p)).store = (.error e, t) := fails
  rw [does] at outcome
  refine ⟨(transact (appendMarks pid p shown) (w.having (marksCalls pid p))).2, ?_⟩
  rw [gatherPeriod_of_shown shows, within_apply, outcome]
  rfl

/-- A run over periods whose marks are shown merges them all as long as subjects have their names. -/
theorem refreshPeriods_cases (sound : w.store.Sound) (known : w.store.hasStudent pid = true)
    (writable : w.readOnly = false) (shows : shownOver service.portal pid w.calls periods = .ok shown) (done : Nat)
    (summary : Summary) :
    ((∀ mark ∈ shown, mark.subject.name ∈ w.store.subjectNames) ∧
        ∃ total v, service.refreshPeriods pid .never done summary periods w = (.ok total, v)) ∨
      ∃ mark ∈ shown, mark.subject.name ∉ w.store.subjectNames ∧
        ∃ p v, service.refreshPeriods pid .never done summary periods w =
          (.error ((noSubjectNamed mark.subject.name).fault.within ("store " ++ marksIn pid p)), v) := by
  induction periods generalizing w shown done summary with
  | nil =>
      cases shows
      exact .inl ⟨nofun, summary, w, rfl⟩
  | cons p periods ih =>
      obtain ⟨first, showsFirst, shows⟩ := except_bind_eq_ok.mp shows
      obtain ⟨more, showsMore, together⟩ := except_bind_eq_ok.mp shows
      cases together
      rcases checkpoint_cases "refresh marks" .never done w with
        ⟨fires, -⟩ | ⟨-, v, passes, hstore, hcalls, hreadOnly⟩
      · cases fires
      · rw [← hcalls] at showsFirst showsMore
        rw [← hstore] at sound known ⊢
        rw [← hreadOnly] at writable
        rw [List.forall_mem_append]
        rcases appendMarks_cases (p := p) sound known (shownMarks_valid showsFirst) with
          ⟨named, created, t, appends⟩ | ⟨mark, hmark, unnamed, t, fails⟩
        · obtain ⟨x, hx, hxcalls, hxreadOnly, runs⟩ :=
            refreshPeriods_next passes (gatherPeriod_of_appended showsFirst writable appends) summary periods
          obtain ⟨rows, -, merges⟩ := appendMarks_ok sound.subjects (shownMarks_own showsFirst) appends
          have soundAfter := appendMarks_sound pid p first v.store sound
          have knownAfter : t.hasStudent pid = true := by rwa [Store.hasStudent, merges.adds.students]
          have same : t.subjectNames = v.store.subjectNames := by
            rw [Store.subjectNames, merges.adds.subjects, Store.subjectNames]
          rw [appends] at soundAfter
          have hstore₂ : x.store = t := hx
          have hcalls₂ : x.calls = v.calls ++ marksCalls pid p := hxcalls.trans (World.calls_having _ v)
          rw [← hcalls₂] at showsMore
          rw [← hstore₂] at soundAfter knownAfter same
          rw [runs, ← same]
          rcases ih soundAfter knownAfter (hxreadOnly.trans writable) showsMore (done + 1) (tally summary created) with
            ⟨all, ends⟩ | ⟨mark, hmark, stops⟩
          · exact .inl ⟨⟨same ▸ named, all⟩, ends⟩
          · exact .inr ⟨mark, List.mem_append_right first hmark, stops⟩
        · obtain ⟨u, stops⟩ := gatherPeriod_of_refused showsFirst writable fails
          exact .inr ⟨mark, List.mem_append_left more hmark, unnamed, p, u,
            (bind_of_ok passes).trans (bind_of_error stops)⟩

/-! ### A pupil, and then the marks -/

/-- Where a pupil was reconciled without purging, the pupil is stored and the first subject of each new code. -/
theorem learns_of_reconcileWith {action : Reconciliation} (own : student.pid = pid)
    (reconciles : reconcileWith pid false (some student) s = (.ok action, t)) :
    t.hasStudent pid = true ∧ Learns student.subjects s t := by
  have stays : ¬Leaves false student := fun leaves => Bool.false_ne_true leaves.1
  have learns := reconcileWith_learns reconciles
  cases performs_of_ok reconciles with
  | skipped leaves => exact absurd leaves stays
  | deleted leaves => exact absurd leaves stays
  | created _ _ creates =>
      obtain ⟨-, told, -⟩ := Store.createStudent_covers creates
      exact ⟨own ▸ Store.hasStudent_of_found told, learns⟩
  | updated _ found updates =>
      obtain ⟨-, stored, told, -⟩ := Store.updateStudent_covers found updates
      exact ⟨Store.hasStudent_of_found told, learns⟩
  | unchanged _ found updates =>
      obtain ⟨-, stored, told, -⟩ := Store.updateStudent_covers found updates
      exact ⟨Store.hasStudent_of_found told, learns⟩

/-- A refresh of one pupil reconciles the pupil and reports it. -/
theorem refreshStudents_one {purge : Bool} {cancellation : Cancellation} {summary : Summary}
    (refreshes : service.refreshStudents ⟨pid, 1, purge⟩ cancellation w = (.ok summary, v)) :
    ∃ action x, service.reconcile purge pid w = (.ok action, x) ∧ v.store = x.store ∧ v.readOnly = x.readOnly := by
  have fits : (RefreshStudents.range ⟨pid, 1, purge⟩).Fits := by
    intro i hi
    have high := Int64.toInt_le pid
    rw [PupilId.largest]
    simp only [RefreshStudents.range, UInt32.toNat_one] at hi ⊢
    omega
  have only : (RefreshStudents.range ⟨pid, 1, purge⟩).get 0 = pid := by
    simp [PupilRange.get, RefreshStudents.range]
  unfold Service.refreshStudents at refreshes
  rw [RefreshStudents.pupils_of_fits fits] at refreshes
  have runs : service.refreshFrom purge (RefreshStudents.range ⟨pid, 1, purge⟩) cancellation 0 {} 1 w =
      (.ok summary, v) := refreshes
  unfold Service.refreshFrom at runs
  obtain ⟨_, u, passes, runs⟩ := bind_eq_ok.mp runs
  obtain ⟨action, x, reconciles, runs⟩ := bind_eq_ok.mp runs
  obtain ⟨_, _, reports, ends⟩ := bind_eq_ok.mp runs
  cases reports
  cases ends
  -- the first pupil is not waited for
  have begins : u = w := by
    rw [checkpoint_apply] at passes
    split at passes
    · cases passes
    · cases passes
      simp [pauseBefore]
  rw [only, begins] at reconciles
  exact ⟨action, x, reconciles, rfl, rfl⟩

/-- Reconciling does not change whether there may be writes. -/
theorem reconcile_readOnly (service : Service) (purge : Bool) (pid : PupilId) (w : World) :
    (service.reconcile purge pid w).2.readOnly = w.readOnly := by
  obtain ⟨calls, -, -, ⟨-, fault, fails⟩ | ⟨known, -, -, transacts⟩⟩ := reconcile_cases service purge pid w
  · rw [fails]
    rfl
  · rw [transacts]
    exact transact_readOnly _ (w.having calls)

/-- **Marks can be stored after students just under names that are stored.** Right after a refresh of a pupil whom the
portal knows, without purging, in a store that operations built and that may be written: refreshing the pupil's marks
over a valid range, all of which the portal shows, succeeds if each name shown is that of a subject that was stored
before, or of the pupil's first subject with a code that was new. If some name shown is another, the refresh fails for
want of a subject of such a name. -/
theorem marks_follow_students (service : Service) {pid : PupilId} {w v : World} (built : Store.Built w.store)
    (writable : w.readOnly = false) {student : Student}
    (knows : (fetchStudent service.portal service.settings.currentAcademicYear pid w).1 = .ok student)
    {cancellation : Cancellation} {summary : Summary}
    (refreshes : service.refreshStudents ⟨pid, 1, false⟩ cancellation w = (.ok summary, v))
    {first last : Period} {periods : List Period} (valid : service.settings.calendar.range first last = .ok periods)
    {shown : List Mark} (shows : shownOver service.portal pid v.calls periods = .ok shown) :
    let names := w.store.subjectNames ++ (newCodes w.store.storedCodes student.subjects).map (·.name)
    let after := service.refreshMarks ⟨pid, first, last⟩ .never v
    ((∀ mark ∈ shown, mark.subject.name ∈ names) → ∃ total, after.1 = .ok total) ∧
    ((∃ mark ∈ shown, mark.subject.name ∉ names) → ∃ mark ∈ shown, mark.subject.name ∉ names ∧ ∃ p,
      after.1 = .error ((noSubjectNamed mark.subject.name).fault.within ("store " ++ marksIn pid p))) := by
  intro names after
  obtain ⟨action, x, reconciles, hstore, hreadOnly⟩ := refreshStudents_one refreshes
  obtain ⟨known, hheard, own, does⟩ := reconcile_eq_ok reconciles
  rw [knows] at hheard
  cases hheard
  obtain ⟨stored, learns⟩ := learns_of_reconcileWith (own student rfl) does
  have sound := reconcileWith_sound pid false (some student) w.store built.sound
  rw [does, ← hstore] at sound
  rw [← hstore] at stored learns
  have same : v.store.subjectNames = names := learns.names
  have mayWrite : v.readOnly = false := by
    have kept := reconcile_readOnly service false pid w
    rw [reconciles, ← hreadOnly] at kept
    exact kept.trans writable
  have begins : service.refreshMarks ⟨pid, first, last⟩ .never v =
      service.refreshPeriods pid .never 0 {} periods v := by
    obtain ⟨row, hrow, -, one⟩ := sound.exists_rowsOf stored
    obtain ⟨found, finds, -⟩ := Store.findStudent_ok (sound.studentRows row hrow) one
    exact refreshMarks_of_known finds valid
  unfold after
  rw [begins, ← same]
  rcases refreshPeriods_cases sound stored mayWrite shows 0 {} with
    ⟨all, total, u, succeeds⟩ | ⟨mark, hmark, unnamed, p, u, fails⟩
  · rw [succeeds]
    exact ⟨fun _ => ⟨total, rfl⟩, fun ⟨mark, hmark, unnamed⟩ => absurd (all mark hmark) unnamed⟩
  · rw [fails]
    exact ⟨fun all => absurd (all mark hmark) unnamed, fun _ => ⟨mark, hmark, unnamed, p, rfl⟩⟩

/-- A portal that lists the same subjects for every pupil, and shows the same marks in every column. -/
def listingPortal (subjects : List Subject) (marks : String) : Responder where
  academicYears _ _ := .ok [2024]
  reportingPeriods _ _ _ := .ok ["Autumn Term"]
  reportingSubjects _ _ _ _ := .ok subjects
  columnsForSubjects _ _ _ _ _ := .ok ["Test"]
  marksheet _ _ query := if query.subjects.isEmpty then .ok marks else .ok "<a>Bea</a>, Year 7"

def listingService (subjects : List Subject) (marks : String) : Service :=
  ⟨listingPortal subjects marks, { currentAcademicYear := 2024 }⟩

def musicService : Service :=
  listingService [{ code := "ART", name := "Art" }, { code := "MU", name := "Music" }]
    "\t50, Art, Ms Lee<\t64, Music, Mr Bell<"

/-- What a refresh of a further pupil leaves where art is stored already. -/
def musicWorld : World := (musicService.refreshStudents ⟨8, 1, false⟩ .never { store := sampleStore }).2

/-- The further pupil's marks in art and in music are stored after the pupil. -/
theorem marks_follow_students_of_new_pupil : musicWorld.store.subjectNames = ["Art", "Music"] ∧
    ∃ total, (musicService.refreshMarks ⟨8, .full 2024 .autumn "Test", .full 2024 .autumn "Test"⟩ .never
      musicWorld).1 = .ok total := by
  have built : Store.Built sampleStore := .perform (.createStudent sampleStudent) (.empty .epoch)
  have knows : (fetchStudent musicService.portal 2024 8 { store := sampleStore }).1 = .ok
      { pid := 8, name := "Bea", currentYear := some 7, attends := true
        subjects := [{ code := "ART", name := "Art" }, { code := "MU", name := "Music" }] } := by decide +kernel
  have succeeds : (musicService.refreshStudents ⟨8, 1, false⟩ .never { store := sampleStore }).1 =
      .ok { created := 1 } := by decide +kernel
  have refreshes : musicService.refreshStudents ⟨8, 1, false⟩ .never { store := sampleStore } =
      (.ok { created := 1 }, musicWorld) := by rw [musicWorld, ← succeeds]
  have valid : musicService.settings.calendar.range (.full 2024 .autumn "Test") (.full 2024 .autumn "Test") =
      .ok [.full 2024 .autumn "Test"] := by decide +kernel
  have shows : shownOver musicService.portal 8 musicWorld.calls [.full 2024 .autumn "Test"] = .ok
      [markOfEntry 8 (.full 2024 .autumn "Test") ⟨"Art", "Ms Lee", ⟨50, by decide⟩⟩,
        markOfEntry 8 (.full 2024 .autumn "Test") ⟨"Music", "Mr Bell", ⟨64, by decide⟩⟩] := by decide +kernel
  have follow := marks_follow_students musicService built rfl knows refreshes valid shows
  exact ⟨by decide +kernel, follow.1 (by decide +kernel)⟩

/-- A pupil's subject that the portal calls fine art, while its code is stored as art. -/
def fineArtService : Service := listingService [{ code := "ART", name := "Fine Art" }] "\t50, Fine Art, Ms Lee<"

/-- The portal shows a mark under its own name of the pupil's only subject. The pupil was refreshed, yet the mark finds
no subject, for the code keeps the name under which another pupil's subject was stored. -/
theorem marks_can_lack_names :
    let v := (fineArtService.refreshStudents ⟨8, 1, false⟩ .never { store := sampleStore }).2
    (fineArtService.refreshStudents ⟨8, 1, false⟩ .never { store := sampleStore }).1 = .ok { created := 1 } ∧
    ((fetchStudent fineArtService.portal 2024 8 { store := sampleStore }).1.map fun student =>
      student.subjects.map (·.name)) = .ok ["Fine Art"] ∧
    fineArtService.settings.calendar.range (.full 2024 .autumn "Test") (.full 2024 .autumn "Test") =
      .ok [.full 2024 .autumn "Test"] ∧
    ((shownOver fineArtService.portal 8 v.calls [.full 2024 .autumn "Test"]).map fun shown =>
      shown.map (·.subject.name)) = .ok ["Fine Art"] ∧
    (fineArtService.refreshMarks ⟨8, .full 2024 .autumn "Test", .full 2024 .autumn "Test"⟩ .never v).1 =
      .error (.notFound
        "store marks of 8 in 2024/autumn/Test: Not found: subject named \"Fine Art\"") := by
  refine ⟨?_, ?_, ?_, ?_, ?_⟩ <;> decide +kernel

end Gradebook.Sync
