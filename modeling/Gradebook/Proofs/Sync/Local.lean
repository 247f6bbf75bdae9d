import Gradebook.Proofs.Calendar.Place
import Gradebook.Proofs.Store.Selection
import Gradebook.Proofs.Sync.Periods
import Gradebook.Proofs.Sync.Reconciliation

/-! Lookups that the store answers alone. A partial period and a range of periods are both told by the full periods that
the calendar makes of them. What is given is what the store has in them, no more and no less: an empty list of periods,
which to a query means any period, is answered with no marks before a query is asked. -/

namespace Gradebook.Sync

open Attempt

variable {service : Service} {pid : PupilId} {q since upto : Period} {periods : List Period} {f : MarksFilter}
variable {w : World}

/-! ### Partial periods -/

theorem findMarksInPeriod_of_absent (part : q.isFull = false) (absent : w.store.hasStudent pid = false) :
    service.findMarksInPeriod pid q w = (.error (Store.noStudent pid).fault, w) := by
  have fails (periods : List Period) : storedMarks pid periods w = (.error (Store.noStudent pid).fault, w) :=
    bind_of_error (Plan.consult_of_error (Store.findStudent_of_absent absent))
  unfold Service.findMarksInPeriod
  rw [if_neg (by rw [part]; exact Bool.false_ne_true)]
  exact bind_of_error (fails _)

/-- In a sound store a pupil is answered with the selected marks, as long as the query can be asked. -/
theorem findMarksInPeriod_of_known (service : Service) (sound : w.store.Sound) (part : q.isFull = false)
    (known : w.store.hasStudent pid = true) : ∃ all, w.store.Selects (·.pid = pid) all ∧
      service.findMarksInPeriod pid q w = (answerPartial service.settings.calendar q all, w) := by
  obtain ⟨student, found⟩ := sound.exists_findStudent known
  obtain ⟨all, told, selects⟩ :=
    sound.findMarks_selects (f := .byPid pid) (MarksFilter.isTooDeep_eq_false _ (Nat.zero_le _))
  refine ⟨all, selects.congr fun mark _ => ?_, findMarksInPeriod_of_partial sound found told part⟩
  constructor
  · intro meets
    exact meets.pid pid rfl
  · intro own
    exact ⟨nofun, by rintro _ ⟨⟩; exact own, nofun, .inl rfl⟩

/-- Of the selected marks of a pupil those are given that are in the period and in a column of the calendar. -/
theorem answerPartial_selects {calendar : Calendar} {all : List Mark} {s : Store}
    (few : (calendar.build q.academicYear q.term).length ≤ 994) (selects : s.Selects (·.pid = pid) all) :
    ∃ marks, answerPartial calendar q all = .ok marks ∧ s.Selects (fun mark =>
      mark.pid = pid ∧ q.contains mark.period = true ∧ calendar.lists mark.period = true) marks := by
  refine ⟨_, if_neg (Nat.not_lt.mpr few), (selects.filter _).congr fun mark _ => ?_⟩
  rw [Bool.and_eq_true]

theorem answerPartial_error {calendar : Calendar} {all : List Mark} {fault : Fault}
    (fails : answerPartial calendar q all = .error fault) : fault = Store.Error.queryTooDeep.fault := by
  unfold answerPartial at fails
  split at fails
  · cases fails
    rfl
  · cases fails

/-- **A partial period is answered from the store, exactly.** In a store that operations built, whatever the portal and
the settings: a lookup of a period that is not full makes no call and writes nothing, and it fails with not-found just
for a pupil who is not stored. To any other, as long as the period stands for no more full periods than a query can
carry, it gives all stored marks of the pupil that the period contains and whose column the calendar has, each once and
from oldest to newest. Where the calendar has no columns these are none. -/
theorem partial_period_selects (service : Service) (pid : PupilId) (part : q.isFull = false)
    (built : Store.Built w.store) :
    let calendar := service.settings.calendar
    let after := service.findMarksInPeriod pid q w
    after.2 = w ∧
    ((∃ fault, after.1 = .error fault ∧ fault.kind = .notFound) ↔ w.store.hasStudent pid = false) ∧
    (w.store.hasStudent pid = true → (calendar.build q.academicYear q.term).length ≤ 994 →
      ∃ marks, after.1 = .ok marks ∧ w.store.Selects (fun mark =>
        mark.pid = pid ∧ q.contains mark.period = true ∧ calendar.lists mark.period = true) marks) ∧
    (w.store.hasStudent pid = true → calendar.columns = [] → after.1 = .ok []) := by
  intro calendar after
  cases known : w.store.hasStudent pid with
  | false =>
      have fails : after = (.error (Store.noStudent pid).fault, w) := findMarksInPeriod_of_absent part known
      rw [fails]
      exact ⟨rfl, iff_of_true ⟨_, rfl, rfl⟩ rfl, nofun, nofun⟩
  | true =>
      obtain ⟨all, selects, answers⟩ := findMarksInPeriod_of_known service built.sound part known
      have answered : after = (answerPartial calendar q all, w) := answers
      rw [answered]
      refine ⟨rfl, iff_of_false ?_ Bool.false_ne_true.symm, fun _ few => answerPartial_selects few selects,
        fun _ none => ?_⟩
      · rintro ⟨fault, fails, missing⟩
        rw [answerPartial_error fails] at missing
        cases missing
      · have few : (calendar.build q.academicYear q.term).length ≤ 994 := by
          simp [Calendar.build, Calendar.periodsOf, none]
        obtain ⟨marks, gives, selects⟩ := answerPartial_selects few selects
        have unlisted (p : Period) : calendar.lists p ≠ true := by
          cases column : p.column <;> simp [Calendar.lists, none, column]
        rw [gives, selects.eq_nil fun mark within => unlisted _ within.2.2]

/-- A service whose calendar lists a column twice. -/
def repeatingService : Service :=
  ⟨samplePortal 2024, { currentAcademicYear := 2024, calendar := ⟨["Test", "Exam", "Test"]⟩ }⟩

/-- The pupil is given a mark in a subject. -/
def markedIn (subjectId : Int) (period : Period) : Store.Operation :=
  .createMark
    { pid := 7, subject := ⟨some subjectId, "", "Art"⟩, teacher := "Ms Lee", percentage := ⟨71, by decide⟩, period }

/-- A pupil with marks of two subjects in an exam, in the next year's first test and quiz, and in an exam after that. -/
def markedStore : Store :=
  [.createStudent { sampleStudent with subjects := [⟨none, "AR", "Art"⟩, ⟨none, "MU", "Music"⟩] },
   markedIn 1 (.full 2023 .summer "Exam"), markedIn 2 (.full 2024 .autumn "Test"),
   markedIn 1 (.full 2024 .autumn "Test"), markedIn 1 (.full 2024 .autumn "Quiz"),
   markedIn 1 (.full 2024 .spring "Exam")].foldl Store.Operation.perform {}

theorem markedStore_built : Store.Built markedStore := (Store.Built.empty .epoch).after _

/-- A year with a column and no term is a partial period, also where the calendar lists the column twice. -/
theorem partial_period_selects_tests :
    let w : World := { store := markedStore }
    let q : Period := ⟨2024, none, some "Test"⟩
    q.isFull = false ∧ Store.Built markedStore ∧
      ∃ marks, repeatingService.findMarksInPeriod 7 q w = (.ok marks, w) ∧ marks.map (·.id) = [some 2, some 3] ∧
        markedStore.Selects (fun mark => mark.pid = 7 ∧ q.contains mark.period = true ∧
          repeatingService.settings.calendar.lists mark.period = true) marks := by
  intro w q
  have told : (repeatingService.findMarksInPeriod 7 q w).1.toOption.map (·.map (·.id)) = some [some 2, some 3] := by
    decide +kernel
  obtain ⟨same, -, gives, -⟩ := partial_period_selects (w := w) (q := q) repeatingService 7 rfl markedStore_built
  obtain ⟨marks, given, selects⟩ := gives (by decide +kernel) (by decide)
  rw [given] at told
  exact ⟨rfl, markedStore_built, marks, Prod.ext given same, Option.some.inj told, selects⟩

/-! ### Ranges -/

/-- A range is refused by the calendar, or its periods are asked for. The filter's own periods play no part. -/
theorem findMarksInRange_eq (pupil : f.pid = some pid) (unnumbered : f.id = none) :
    service.findMarksInRange since upto f w = match service.settings.calendar.range since upto with
      | .error defect => (.error defect.fault, w)
      | .ok periods => if periods.isEmpty then (.ok [], w) else consult (Store.findMarks { f with periods }) w := by
  unfold Service.findMarksInRange
  rw [pupil, unnumbered]
  cases service.settings.calendar.range since upto with
  | error defect => rfl
  | ok periods => cases periods <;> rfl

/-- A refused range is refused with the fault of the calendar, whatever is stored. -/
theorem findMarksInRange_of_refused (pupil : f.pid = some pid) (unnumbered : f.id = none) {defect : Calendar.Defect}
    (refused : service.settings.calendar.range since upto = .error defect) :
    service.findMarksInRange since upto f w = (.error defect.fault, w) := by
  rw [findMarksInRange_eq pupil unnumbered, refused]

theorem findMarksInRange_world (pupil : f.pid = some pid) (unnumbered : f.id = none) :
    (service.findMarksInRange since upto f w).2 = w := by
  rw [findMarksInRange_eq pupil unnumbered]
  split
  · rfl
  · split
    · rfl
    · exact Plan.consult_world _ w

/-- What goes wrong beyond the calendar is no caller's mistake: the periods are too many for a query. -/
theorem findMarksInRange_error (sound : w.store.Sound) (pupil : f.pid = some pid) (unnumbered : f.id = none)
    (walks : service.settings.calendar.range since upto = .ok periods) {fault : Fault}
    (fails : (service.findMarksInRange since upto f w).1 = .error fault) : fault = Store.Error.queryTooDeep.fault := by
  rw [findMarksInRange_eq pupil unnumbered, walks] at fails
  dsimp only at fails
  split at fails
  · cases fails
  · cases told : Store.findMarks { f with periods } w.store with
    | ok found =>
        rw [Plan.consult_of_ok told] at fails
        cases fails
    | error e =>
        rw [Plan.consult_of_error told] at fails
        cases fails
        rw [sound.findMarks_error told]

/-- A range of few enough periods is answered with a page of the marks in it. -/
theorem findMarksInRange_selects (sound : w.store.Sound) (pupil : f.pid = some pid) (unnumbered : f.id = none)
    (walks : service.settings.calendar.range since upto = .ok periods) (few : periods.length ≤ 994) :
    ∃ found, service.findMarksInRange since upto f w = (.ok (Store.page f.limit f.offset found), w) ∧
      w.store.Selects (fun mark => mark.pid = pid ∧ (∀ id ∈ f.subjectId, mark.subject.id = some id) ∧
        service.settings.calendar.Spans since upto mark.period) found := by
  rw [findMarksInRange_eq pupil unnumbered, walks]
  cases periods with
  | nil =>
      -- no query is asked, and a range without periods has no place for a mark
      refine ⟨[], by rw [Store.page_nil]; rfl, .none fun mark _ within => ?_⟩
      obtain ⟨own, hown, -⟩ := (Calendar.range_contains_iff walks).mpr within.2.2
      cases hown
  | cons first rest =>
      obtain ⟨found, told, selects⟩ :=
        sound.findMarks_selects (f := { f with periods := first :: rest }) (MarksFilter.isTooDeep_eq_false _ few)
      refine ⟨found, Plan.consult_of_ok told, selects.congr fun mark _ => ?_⟩
      rw [← Calendar.range_contains_iff walks]
      constructor
      · intro meets
        exact ⟨meets.pid pid pupil, meets.subject, meets.period.resolve_left (List.cons_ne_nil _ _)⟩
      · rintro ⟨own, subject, inside⟩
        refine ⟨?_, ?_, subject, .inr inside⟩
        · rw [unnumbered]
          nofun
        · rw [pupil]
          rintro _ ⟨⟩
          exact own

/-- **A range is answered from the store, exactly.** In a store that operations built, whatever the portal and the
settings, and for a filter with a pupil and without a mark's number: a lookup over a range makes no call and writes
nothing. It fails as a caller's mistake just where the calendar refuses the range, and then with the calendar's own
fault. Otherwise, as long as the range holds no more periods than a query can carry, it gives the page that is asked
for of all stored marks of the pupil in the filter's subject that have a place in the range, from oldest to newest. A
range without periods gives no marks, and the filter's own periods make no difference. -/
theorem range_selects (service : Service) (since upto : Period) (pupil : f.pid = some pid) (unnumbered : f.id = none)
    (built : Store.Built w.store) :
    let calendar := service.settings.calendar
    let after := service.findMarksInRange since upto f w
    after.2 = w ∧
    ((∃ fault, after.1 = .error fault ∧ fault.kind = .invalid) ↔
      ∃ defect, calendar.range since upto = .error defect) ∧
    (∀ defect, calendar.range since upto = .error defect → after.1 = .error defect.fault) ∧
    (∀ periods, calendar.range since upto = .ok periods → periods.length ≤ 994 → ∃ found,
      after.1 = .ok (Store.page f.limit f.offset found) ∧ w.store.Selects (fun mark =>
        mark.pid = pid ∧ (∀ id ∈ f.subjectId, mark.subject.id = some id) ∧ calendar.Spans since upto mark.period)
        found) ∧
    (calendar.range since upto = .ok [] → after.1 = .ok []) ∧
    ∀ periods, service.findMarksInRange since upto { f with periods } w = after := by
  intro calendar after
  have sound := built.sound
  have refuses (defect : Calendar.Defect) (refused : calendar.range since upto = .error defect) :
      after.1 = .error defect.fault := congrArg Prod.fst (findMarksInRange_of_refused pupil unnumbered refused)
  refine ⟨findMarksInRange_world pupil unnumbered, ⟨?_, ?_⟩, refuses, fun periods walks few => ?_, fun walks => ?_, ?_⟩
  · rintro ⟨fault, fails, invalid⟩
    cases walks : calendar.range since upto with
    | error defect => exact ⟨defect, rfl⟩
    | ok periods =>
        rw [findMarksInRange_error sound pupil unnumbered walks fails] at invalid
        cases invalid
  · rintro ⟨defect, refused⟩
    exact ⟨defect.fault, refuses defect refused, rfl⟩
  · obtain ⟨found, gives, selects⟩ := findMarksInRange_selects sound pupil unnumbered walks few
    exact ⟨found, congrArg Prod.fst gives, selects⟩
  · have nothing : after = _ := findMarksInRange_eq pupil unnumbered
    rw [nothing, walks]
    rfl
  · intro periods
    exact (findMarksInRange_eq pupil unnumbered).trans (findMarksInRange_eq pupil unnumbered).symm

/-- The second mark of art from one summer to the next autumn's last column, where a filter asks for another year. With
its ends exchanged the range is refused. -/
theorem range_selects_second :
    let w : World := { store := markedStore }
    let f : MarksFilter :=
      { pid := some 7, subjectId := some 1, periods := [.ofYear 1999], offset := some 1, limit := some 1 }
    let since : Period := ⟨2023, some .summer, none⟩
    let upto : Period := ⟨2024, some .autumn, none⟩
    Store.Built markedStore ∧ ∃ found,
      repeatingService.findMarksInRange since upto f w = (.ok (Store.page (some 1) (some 1) found), w) ∧
      (Store.page (some 1) (some 1) found).map (·.id) = [some 3] ∧
      markedStore.Selects (fun mark => mark.pid = 7 ∧ (∀ id ∈ f.subjectId, mark.subject.id = some id) ∧
        repeatingService.settings.calendar.Spans since upto mark.period) found ∧
      (repeatingService.findMarksInRange upto since f w).1 = .error (Calendar.Defect.reversed upto since).fault := by
  intro w f since upto
  have told : (repeatingService.findMarksInRange since upto f w).1.toOption.map (·.map (·.id)) = some [some 3] := by
    decide +kernel
  obtain ⟨periods, walks, few⟩ := exists_of_toOption_map (show
    (repeatingService.settings.calendar.range since upto).toOption.map List.length = some 6 by decide +kernel)
  obtain ⟨same, -, -, gives, -⟩ :=
    range_selects (w := w) (f := f) repeatingService since upto rfl rfl markedStore_built
  obtain ⟨-, -, refuses, -⟩ :=
    range_selects (w := w) (f := f) repeatingService upto since rfl rfl markedStore_built
  obtain ⟨found, given, selects⟩ := gives periods walks (by omega)
  rw [given] at told
  exact ⟨markedStore_built, found, Prod.ext given same, Option.some.inj told, selects,
    refuses _ (by decide +kernel)⟩

end Gradebook.Sync
