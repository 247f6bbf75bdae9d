import Gradebook.Proofs.Except
import Gradebook.Proofs.Sync.Session
import Gradebook.Sync.Fetch

/-! What fetching a pupil does and gives. It makes calls about that pupil and leaves the store alone. It gives a
student only after five answers, each asked for with the answers before it, and what it gives is read off those
five answers alone. -/

namespace Gradebook.Sync

open Portal Attempt

/-- The answers to the five calls about a pupil. -/
structure Answers where
  years : List Year
  periods : List String
  subjects : List Subject
  columns : List String
  sheet : String

namespace Answers

/-- The question for the marksheet, which the answers before it make up. -/
def query (a : Answers) : MarksheetQuery :=
  { years := a.years, periods := a.periods, columns := a.columns, subjects := a.subjects }

/-- The five calls, in order. -/
def calls (pid : PupilId) (a : Answers) : List Call :=
  [.academicYears pid, .reportingPeriods pid a.years, .reportingSubjects pid a.years a.periods,
    .columnsForSubjects pid a.years a.periods a.subjects, .marksheet pid a.query]

/-- The pupil that the answers describe. -/
def student (current : Year) (pid : PupilId) (a : Answers) : Except Portal.Error Student := do
  let (name, _) ← (Marksheet.name a.sheet).mapError .marksheet
  if a.years.contains current then
    let (year, _) ← (Marksheet.currentYear a.sheet).mapError .marksheet
    pure { pid, name, currentYear := some year, attends := true, subjects := a.subjects }
  else pure { pid, name, subjects := a.subjects }

/-- The portal gives these answers to one call after the other. -/
structure Given (portal : Responder) (pid : PupilId) (earlier : List Call) (a : Answers) : Prop where
  years : portal.academicYears earlier pid = .ok a.years
  periods : portal.reportingPeriods (earlier ++ (a.calls pid).take 1) pid a.years = .ok a.periods
  subjects : portal.reportingSubjects (earlier ++ (a.calls pid).take 2) pid a.years a.periods = .ok a.subjects
  columns : portal.columnsForSubjects (earlier ++ (a.calls pid).take 3) pid a.years a.periods a.subjects =
    .ok a.columns
  sheet : portal.marksheet (earlier ++ (a.calls pid).take 4) pid a.query = .ok a.sheet

end Answers

variable {pid other : PupilId} {w v : World} {portal : Responder} {current : Year} {student : Student}

theorem ask_asks {α : Type} (call : Call) (answer : List Call → Except Portal.Error α)
    (about : call.pid = pid) : (ask call answer).Moves (Asks pid) := by
  intro w
  exact ⟨[call], rfl, by simpa using about⟩

theorem fromMarksheet_apply {α : Type} (r : Except Marksheet.Error α) (w : World) :
    fromMarksheet r w = (r.mapError .marksheet, w) := by
  cases r <;> rfl

theorem fromMarksheet_asks {α : Type} (r : Except Marksheet.Error α) :
    (fromMarksheet r).Moves (Asks pid) := by
  intro w
  rw [fromMarksheet_apply]
  exact refl_of (Asks pid) w

/-- Fetching a pupil changes nothing but makes calls about that pupil. -/
theorem fetchStudent_asks (portal : Responder) (current : Year) (pid : PupilId) :
    (fetchStudent portal current pid).Moves (Asks pid) := by
  unfold fetchStudent
  refine .bind (ask_asks _ _ rfl) fun years => ?_
  refine .bind (ask_asks _ _ rfl) fun periods => ?_
  refine .bind (ask_asks _ _ rfl) fun subjects => ?_
  refine .bind (ask_asks _ _ rfl) fun columns => ?_
  refine .bind (ask_asks _ _ rfl) fun sheet => ?_
  refine .bind (fromMarksheet_asks _) ?_
  rintro ⟨name, after⟩
  by_cases attends : years.contains current = true
  · simp only [if_pos attends]
    exact .bind (fromMarksheet_asks _) fun year => .pure _
  · simp only [if_neg attends]
    exact .pure _

theorem fromMarksheet_uniform {α : Type} (r : Except Marksheet.Error α) :
    (fromMarksheet r).Uniform World.Alike := by
  intro w v alike
  rw [fromMarksheet_apply, fromMarksheet_apply]
  exact ⟨rfl, alike⟩

/-- The answers about a pupil depend on nothing that only pauses and reports could change. -/
theorem fetchStudent_uniform (portal : Responder) (current : Year) (pid : PupilId) :
    (fetchStudent portal current pid).Uniform World.Alike := by
  unfold fetchStudent
  refine .bind (ask_uniform _ _) fun years => ?_
  refine .bind (ask_uniform _ _) fun periods => ?_
  refine .bind (ask_uniform _ _) fun subjects => ?_
  refine .bind (ask_uniform _ _) fun columns => ?_
  refine .bind (ask_uniform _ _) fun sheet => ?_
  refine .bind (fromMarksheet_uniform _) ?_
  rintro ⟨name, after⟩
  by_cases attends : years.contains current = true
  · simp only [if_pos attends]
    exact .bind (fromMarksheet_uniform _) fun year => .pure _
  · simp only [if_neg attends]
    exact .pure _

theorem ask_bind_eq_ok {α β : Type} {call : Call} {answer : List Call → Except Portal.Error α}
    {f : α → Fetch β} {y : β} :
    (ask call answer >>= f) w = (.ok y, v) ↔
      ∃ x, answer w.calls = .ok x ∧ f x (w.having [call]) = (.ok y, v) := by
  rw [bind_apply, ask_apply]
  cases answer w.calls <;> simp

theorem fromMarksheet_bind_eq_ok {α β : Type} {r : Except Marksheet.Error α} {f : α → Fetch β} {y : β} :
    (fromMarksheet r >>= f) w = (.ok y, v) ↔ ∃ x, r = .ok x ∧ f x w = (.ok y, v) := by
  rw [bind_apply]
  cases r with
  | error e => simp [fromMarksheet]
  | ok x => simp [fromMarksheet]

/-- **A fetched pupil rests on five answers**, and on nothing else. -/
theorem fetchStudent_ok (fetches : fetchStudent portal current pid w = (.ok student, v)) :
    ∃ a : Answers, a.Given portal pid w.calls ∧ a.student current pid = .ok student ∧
      v = w.having (a.calls pid) := by
  unfold fetchStudent at fetches
  obtain ⟨years, hyears, fetches⟩ := ask_bind_eq_ok.mp fetches
  obtain ⟨periods, hperiods, fetches⟩ := ask_bind_eq_ok.mp fetches
  obtain ⟨subjects, hsubjects, fetches⟩ := ask_bind_eq_ok.mp fetches
  obtain ⟨columns, hcolumns, fetches⟩ := ask_bind_eq_ok.mp fetches
  obtain ⟨sheet, hsheet, fetches⟩ := ask_bind_eq_ok.mp fetches
  obtain ⟨⟨name, after⟩, hname, fetches⟩ := fromMarksheet_bind_eq_ok.mp fetches
  simp only [World.having_having, World.calls_having] at hperiods hsubjects hcolumns hsheet fetches
  refine ⟨⟨years, periods, subjects, columns, sheet⟩, ⟨hyears, hperiods, hsubjects, hcolumns, hsheet⟩, ?_⟩
  unfold Answers.student
  simp only [hname]
  by_cases attends : years.contains current = true
  · simp only [if_pos attends] at fetches ⊢
    obtain ⟨⟨year, rest⟩, hyear, fetches⟩ := fromMarksheet_bind_eq_ok.mp fetches
    simp only [pure_apply, Prod.mk.injEq] at fetches
    rw [hyear]
    exact ⟨fetches.1, fetches.2.symm⟩
  · simp only [if_neg attends, pure_apply, Prod.mk.injEq] at fetches ⊢
    exact ⟨fetches.1, fetches.2.symm⟩

/-- The marksheet gives the name, the list of years tells who attends, and the rest is taken over. -/
theorem Answers.student_ok {a : Answers} (reads : a.student current pid = .ok student) :
    student.pid = pid ∧ student.attends = a.years.contains current ∧ student.subjects = a.subjects ∧
      ∃ after, Marksheet.name a.sheet = .ok (student.name, after) := by
  unfold Answers.student at reads
  obtain ⟨⟨name, after⟩, hname, reads⟩ := except_bind_eq_ok.mp reads
  rw [except_mapError_eq_ok] at hname
  by_cases attends : a.years.contains current = true
  · simp only [if_pos attends] at reads
    obtain ⟨⟨year, rest⟩, -, reads⟩ := except_bind_eq_ok.mp reads
    cases reads
    exact ⟨rfl, attends.symm, rfl, after, hname⟩
  · simp only [if_neg attends] at reads
    cases reads
    rw [Bool.not_eq_true] at attends
    exact ⟨rfl, attends.symm, rfl, after, hname⟩

end Gradebook.Sync
