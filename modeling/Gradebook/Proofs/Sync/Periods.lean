import Gradebook.Proofs.Calendar
import Gradebook.Proofs.Store.Periods
import Gradebook.Proofs.Sync.Distinct

/-! Lookups by period. A full period is answered with the pupil's marks in it. A partial period is answered with the
marks in it whose column the calendar has: it stands for the full periods of the calendar, not for everything that was
ever stored, so that marks of a column that the calendar lacks are only seen where their own period is asked for. -/

namespace Gradebook.Sync

open Portal Attempt

variable {service : Service} {pid : PupilId} {p q : Period} {w v : World} {marks all : List Mark} {student : Student}

/-- What every step of a plan keeps, the plan keeps when it has the world to itself. -/
theorem Plan.Ensures.run {ε α : Type} {P : World → Prop} {Q : α → Prop} {plan : Plan ε α} (ensures : plan.Ensures P Q)
    (holds : P w) : P (plan.run w).2 := by
  induction ensures generalizing w with
  | value _ => exact holds
  | error _ => exact holds
  | step keeps _ ih => exact ih w holds (keeps w holds)

/-! ### What the store is asked -/

theorem storedMarks_of_known (known : Store.findStudent pid w.store = .ok student) (periods : List Period) :
    storedMarks pid periods w =
      if periods.isEmpty then (.ok [], w) else consult (Store.findMarks { MarksFilter.byPid pid with periods }) w := by
  refine (bind_of_ok (Plan.consult_of_ok known)).trans ?_
  split <;> rfl

/-- A pupil whose marks were told is stored, and the store is as it was. -/
theorem storedMarks_eq_ok {periods : List Period} (some : periods ≠ [])
    (gives : storedMarks pid periods w = (.ok marks, v)) :
    v = w ∧ (∃ student, Store.findStudent pid w.store = .ok student) ∧
      Store.findMarks { MarksFilter.byPid pid with periods } w.store = .ok marks := by
  cases known : Store.findStudent pid w.store with
  | error e =>
      have fails : storedMarks pid periods w = (.error e.fault, w) := bind_of_error (Plan.consult_of_error known)
      rw [fails] at gives
      cases gives
  | ok student =>
      rw [storedMarks_of_known known, if_neg (by simpa using some)] at gives
      cases told : Store.findMarks { MarksFilter.byPid pid with periods } w.store with
      | error e =>
          rw [Plan.consult_of_error told] at gives
          cases gives
      | ok found =>
          rw [Plan.consult_of_ok told] at gives
          cases gives
          exact ⟨rfl, ⟨student, rfl⟩, rfl⟩

/-- A lookup of a full period that succeeds ends by asking the store for the marks in it. -/
theorem findMarksInPeriod_full_ok (full : p.isFull = true)
    (gives : service.findMarksInPeriod pid p w = (.ok marks, v)) :
    (∃ student, Store.findStudent pid v.store = .ok student) ∧
      Store.findMarks { MarksFilter.byPid pid with periods := [p] } v.store = .ok marks := by
  unfold Service.findMarksInPeriod at gives
  rw [if_pos full] at gives
  have asks : ∃ u, storedMarks pid [p] u = (.ok marks, v) := by
    by_cases fallback : service.settings.markFallback = true
    · rw [if_pos fallback] at gives
      obtain ⟨_, _, -, gives⟩ := bind_eq_ok.mp gives
      obtain ⟨_, u, -, gives⟩ := bind_eq_ok.mp gives
      exact ⟨u, gives⟩
    · rw [if_neg fallback] at gives
      exact ⟨w, gives⟩
  obtain ⟨u, gives⟩ := asks
  obtain ⟨rfl, known, told⟩ := storedMarks_eq_ok (List.cons_ne_nil p []) gives
  exact ⟨known, told⟩

/-! ### Partial periods -/

/-- What a partial period comes to, out of all marks of a pupil: those in it whose column the calendar has, unless it
stands for more full periods than a query can carry. -/
def answerPartial (calendar : Calendar) (q : Period) (all : List Mark) : Except Fault (List Mark) :=
  if 994 < (calendar.build q.academicYear q.term).length then .error Store.Error.queryTooDeep.fault
  else .ok (all.filter fun mark => q.contains mark.period && calendar.lists mark.period)

/-- A partial period is answered from the store alone, and nothing changes. -/
theorem findMarksInPeriod_of_partial (sound : w.store.Sound) (known : Store.findStudent pid w.store = .ok student)
    (told : Store.findMarks (.byPid pid) w.store = .ok all) (part : q.isFull = false) :
    service.findMarksInPeriod pid q w = (answerPartial service.settings.calendar q all, w) := by
  have inside : ∀ mark ∈ all, (q.contains mark.period &&
      (service.settings.calendar.build q.academicYear q.term).any (·.contains mark.period)) =
        (q.contains mark.period && service.settings.calendar.lists mark.period) := fun mark hmark =>
    Calendar.contains_and_any_build (Store.findMarks_full told mark hmark)
  have full : ∀ p ∈ service.settings.calendar.build q.academicYear q.term, p.isFull = true := Calendar.build_full
  unfold Service.findMarksInPeriod answerPartial
  rw [if_neg (by rw [part]; exact Bool.false_ne_true)]
  generalize service.settings.calendar.build q.academicYear q.term = periods at inside full
  have stored := storedMarks_of_known known periods
  have deep := MarksFilter.isTooDeep_iff_of_full (f := { MarksFilter.byPid pid with periods }) full
  by_cases none : periods = []
  · subst none
    have listed : (all.filter fun mark => q.contains mark.period && service.settings.calendar.lists mark.period) = [] := by
      rw [← List.filter_congr inside]
      simp
    rw [bind_of_ok stored, listed]
    rfl
  · have some : periods.isEmpty = false := by simpa using none
    rw [some] at stored
    by_cases many : 994 < periods.length
    · rw [if_pos many]
      exact bind_of_error (stored.trans (Plan.consult_of_error (Store.findMarks_of_tooDeep (deep.mpr many))))
    · rw [if_neg many]
      have shallow := Bool.eq_false_iff.mpr (mt deep.mp many)
      have found := sound.findMarks_periods rfl ⟨rfl, rfl⟩ told shallow
      rw [bind_of_ok (stored.trans (Plan.consult_of_ok found)), ← List.filter_congr inside, some]
      simp only [Bool.false_or, ← List.filter_filter]
      rfl

/-- **A partial period shows what full periods showed, as far as the calendar has their columns.** In every world that can
be reached: after a lookup of a full period that gives marks, all marks of the pupil can be told, those just given are
the ones in that period, and asking the store for a partial period around it selects the ones in the partial period.
A lookup of the partial period that follows changes nothing and gives those of them whose column the calendar has; so
if the calendar has the column that was asked for, and no more than 994 full periods make up the partial one, it gives
every mark that was just given. -/
theorem partial_period_shows {o : Office} (reached : o.Reached) (service : Service) (pid : PupilId)
    (full : p.isFull = true) (part : q.isFull = false) (around : q.contains p = true) :
    let calendar := service.settings.calendar
    let after := service.findMarksInPeriod pid p o.world
    ∀ marks, after.1 = .ok marks → ∃ all, Store.findMarks (.byPid pid) after.2.store = .ok all ∧
      marks = all.filter (fun mark => p.contains mark.period) ∧
      Store.findMarks { MarksFilter.byPid pid with periods := [q] } after.2.store =
        .ok (all.filter fun mark => q.contains mark.period) ∧
      service.findMarksInPeriod pid q after.2 = (answerPartial calendar q all, after.2) ∧
      (calendar.lists p = true → (calendar.build q.academicYear q.term).length ≤ 994 →
        ∃ found, service.findMarksInPeriod pid q after.2 = (.ok found, after.2) ∧ ∀ mark ∈ marks, mark ∈ found) := by
  intro calendar after marks gives
  have sound : after.2.store.Sound := by
    have keeps := (Plan.findMarksInPeriod_respects kept_distinct service pid p).run (reached.inLine kept_distinct).store
    rw [Plan.run_findMarksInPeriod] at keeps
    exact keeps.1
  obtain ⟨⟨student, known⟩, told⟩ := findMarksInPeriod_full_ok full (Prod.ext gives rfl : after = (.ok marks, after.2))
  obtain ⟨all, hall⟩ := sound.findMarks_ok (f := .byPid pid) (MarksFilter.isTooDeep_eq_false _ (Nat.zero_le _))
  -- the marks in one period, among all
  have within (p : Period) : Store.findMarks { MarksFilter.byPid pid with periods := [p] } after.2.store =
      .ok (all.filter fun mark => p.contains mark.period) := by
    rw [sound.findMarks_periods rfl ⟨rfl, rfl⟩ hall (MarksFilter.isTooDeep_eq_false _ (by simp))]
    simp
  have given : marks = all.filter fun mark => p.contains mark.period :=
    Except.ok.inj (told.symm.trans (within p))
  have answer : service.findMarksInPeriod pid q after.2 = (answerPartial calendar q all, after.2) :=
    findMarksInPeriod_of_partial sound known hall part
  refine ⟨all, hall, given, within q, answer, ?_⟩
  intro listed few
  refine ⟨all.filter fun mark => q.contains mark.period && calendar.lists mark.period, ?_, ?_⟩
  · rw [answer, answerPartial, if_neg (Nat.not_lt.mpr few)]
  · intro mark hmark
    rw [given] at hmark
    obtain ⟨hmark, inside⟩ := List.mem_filter.mp hmark
    refine List.mem_filter.mpr ⟨hmark, ?_⟩
    rw [Period.eq_of_contains full inside, around, listed]
    rfl

/-- Both marks of a test are seen when the year is asked for. -/
theorem partial_period_shows_test : raceOffice.Reached ∧
    let test : Period := .full 2024 .autumn "Test"
    let after := raceService.findMarksInPeriod 7 test raceOffice.world
    ∃ marks found, after.1 = .ok marks ∧ marks.length = 2 ∧
      raceService.findMarksInPeriod 7 (.ofYear 2024) after.2 = (.ok found, after.2) ∧ ∀ mark ∈ marks, mark ∈ found := by
  refine ⟨raceOffice_reached, ?_⟩
  obtain ⟨marks, gives, both⟩ := exists_of_toOption_map (show
    (raceService.findMarksInPeriod 7 (.full 2024 .autumn "Test") raceOffice.world).1.toOption.map List.length = some 2
    by decide +kernel)
  obtain ⟨-, -, -, -, -, seen⟩ := partial_period_shows raceOffice_reached raceService 7
    (p := .full 2024 .autumn "Test") (q := .ofYear 2024) rfl rfl (by decide) marks gives
  obtain ⟨found, answers, all⟩ := seen (by decide) (by decide)
  exact ⟨marks, found, gives, both, answers, all⟩

/-- The marks of a quiz, which is no column of the calendar, are stored and given for their own period, and are not
among the marks of their year. -/
theorem partial_period_can_miss : raceOffice.Reached ∧
    let quiz : Period := .full 2024 .autumn "Quiz"
    let after := raceService.findMarksInPeriod 7 quiz raceOffice.world
    quiz.isFull = true ∧ (Period.ofYear 2024).isFull = false ∧ (Period.ofYear 2024).contains quiz = true ∧
      ∃ marks found, after.1 = .ok marks ∧ (raceService.findMarksInPeriod 7 (.ofYear 2024) after.2).1 = .ok found ∧
        ∃ mark ∈ marks, mark ∉ found := by
  refine ⟨raceOffice_reached, rfl, rfl, by decide, ?_⟩
  obtain ⟨marks, gives, quizzes⟩ := exists_of_toOption_map (show
    (raceService.findMarksInPeriod 7 (.full 2024 .autumn "Quiz") raceOffice.world).1.toOption.map
      (·.map (·.period.column)) = some [some "Quiz", some "Quiz"] by decide +kernel)
  obtain ⟨found, answers, tests⟩ := exists_of_toOption_map (show
    (raceService.findMarksInPeriod 7 (.ofYear 2024)
      (raceService.findMarksInPeriod 7 (.full 2024 .autumn "Quiz") raceOffice.world).2).1.toOption.map
      (·.map (·.period.column)) = some [some "Test", some "Test"] by decide +kernel)
  refine ⟨marks, found, gives, answers, ?_⟩
  obtain ⟨mark, rest, rfl, own, -⟩ := List.map_eq_cons_iff.mp quizzes
  refine ⟨mark, List.mem_cons_self, fun among => ?_⟩
  have column := List.mem_map_of_mem (f := (·.period.column)) among
  rw [tests, own] at column
  exact absurd column (by decide)

end Gradebook.Sync
