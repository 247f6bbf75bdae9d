import Gradebook.Command.Settings
import Gradebook.Proofs.Sync.Calls
import Gradebook.Proofs.Sync.Reconciliation

/-! Settings at work. The columns of the calendar are those that a variable lists, in the order of the list and as often
as it lists them. Nothing looks for columns that are listed twice, and a refresh of marks fetches them twice. -/

namespace Gradebook.Command

open Sync Portal

namespace Settings

variable {env : Environment} {settings : Settings} {calendar : Calendar}

/-- The calendar of an environment: the standard one, or the columns that are listed. -/
theorem calendarOf_eq_ok (accepted : calendarOf env = .ok calendar) :
    env "PERIOD_IMPORTANCES" = none ∧ calendar = .standard ∨
      ∃ text, env "PERIOD_IMPORTANCES" = some text ∧ columnsOf text ≠ [] ∧ calendar = ⟨columnsOf text⟩ := by
  unfold calendarOf at accepted
  split at accepted
  · next unset =>
    cases accepted
    exact .inl ⟨unset, rfl⟩
  · next text set =>
    split at accepted
    · cases accepted
    · next some =>
      cases accepted
      exact .inr ⟨text, set, some, rfl⟩

theorem calendar_of_accepted (accepted : ofEnvironment env = .ok settings) :
    calendarOf env = .ok settings.calendar := by
  unfold ofEnvironment at accepted
  obtain ⟨token, -, accepted⟩ := except_bind_eq_ok.mp accepted
  obtain ⟨timeout, -, accepted⟩ := except_bind_eq_ok.mp accepted
  obtain ⟨pacing, -, accepted⟩ := except_bind_eq_ok.mp accepted
  obtain ⟨students, -, accepted⟩ := except_bind_eq_ok.mp accepted
  obtain ⟨marks, -, accepted⟩ := except_bind_eq_ok.mp accepted
  obtain ⟨year, -, accepted⟩ := except_bind_eq_ok.mp accepted
  obtain ⟨calendar, reads, accepted⟩ := except_bind_eq_ok.mp accepted
  obtain ⟨heartbeat, -, accepted⟩ := except_bind_eq_ok.mp accepted
  cases accepted
  exact reads

theorem retention_of_accepted (accepted : ofEnvironment env = .ok settings) : settings.retention = 1024 := by
  unfold ofEnvironment at accepted
  iterate 8 obtain ⟨_, -, accepted⟩ := except_bind_eq_ok.mp accepted
  cases accepted
  rfl

/-- A calendar repeats a column only if the variable lists it twice. -/
theorem columns_nodup (accepted : ofEnvironment env = .ok settings)
    (once : ∀ text, env "PERIOD_IMPORTANCES" = some text → (columnsOf text).Nodup) :
    settings.calendar.columns.Nodup := by
  rcases calendarOf_eq_ok (calendar_of_accepted accepted) with ⟨-, same⟩ | ⟨text, set, -, same⟩
  · rw [same]
    decide
  · rw [same]
    exact once text set

end Settings

variable {env : Environment} {settings : Settings} {since upto : Period} {periods : List Period}

/-- **A refresh fetches a column twice just where the variable lists it twice.** For every environment that is accepted
and every range that its calendar can walk: the range names a period twice just if it holds two places of one column,
and it does not if the variable is not set or lists no column twice. A refresh of marks over the range asks the portal
for the periods of the range in order, up to where it ends and to the last if it succeeds, with one call for each, and
no two of these calls are the same just if no two of these periods are. -/
theorem columns_fetched_once (accepted : Settings.ofEnvironment env = .ok settings)
    (walks : settings.calendar.range since upto = .ok periods) :
    (∀ lower upper, settings.calendar.firstKey since = .ok lower → settings.calendar.lastKey upto = .ok upper →
      (periods.Nodup ↔ ¬settings.calendar.Repeats lower upper)) ∧
    ((∀ text, env "PERIOD_IMPORTANCES" = some text → (Settings.columnsOf text).Nodup) → periods.Nodup) ∧
    ∀ (portal : Responder) (thisYear : Year) (pid : PupilId) (cancellation : Cancellation) (w : World),
      let after := Service.refreshMarks ⟨portal, settings.forServices thisYear⟩ ⟨pid, since, upto⟩ cancellation w
      ∃ asked, asked <+: periods ∧ (∀ summary, after.1 = .ok summary → asked = periods) ∧
        after.2.calls = w.calls ++ asked.flatMap (marksCalls pid) ∧
        ((asked.flatMap (marksCalls pid)).Nodup ↔ asked.Nodup) := by
  have apart : ∀ lower upper, settings.calendar.firstKey since = .ok lower →
      settings.calendar.lastKey upto = .ok upper → (periods.Nodup ↔ ¬settings.calendar.Repeats lower upper) :=
    fun lower upper starts ends => Calendar.range_nodup_iff starts ends walks
  refine ⟨apart, ?_, ?_⟩
  · intro once
    obtain ⟨lower, upper, starts, ends, -⟩ := Calendar.range_eq_ok.mp walks
    exact (apart lower upper starts ends).mpr
      (Calendar.not_repeats_of_nodup (Settings.columns_nodup accepted once) lower upper)
  · intro portal thisYear pid cancellation w after
    obtain ⟨asked, among, calls, all⟩ :=
      refreshMarks_calls ⟨portal, settings.forServices thisYear⟩ ⟨pid, since, upto⟩ cancellation w walks
    exact ⟨asked, among, all, calls, nodup_calls_iff fun p hp => Calendar.range_full walks p (among.subset hp)⟩

/-- An environment that lists some columns and leaves everything else that it can. -/
def listing (columns : String) : Environment := fun name =>
  if name = "ENGAGE_TOKEN" then some "token" else if name = "PERIOD_IMPORTANCES" then some columns else none

/-- The settings of such an environment. -/
def listingSettings (columns : List String) : Settings where
  databaseUrl := "sqlite://scholar.db"
  portal := { baseUrl := Portal.Settings.schoolUrl, token := "token", timeoutSeconds := some 30 }
  pacing := 2000
  studentFallback := true
  markFallback := true
  currentAcademicYear := none
  calendar := ⟨columns⟩
  heartbeat := 5
  retention := 1024
  logFilter := "info"

/-- Two columns are listed, and a refresh over a term asks for each of them once. -/
theorem columns_fetched_once_in_term :
    let settings := listingSettings ["Quiz", "Exam"]
    let term : Period := ⟨2024, some .autumn, none⟩
    let after := Service.refreshMarks ⟨samplePortal 2024, settings.forServices 2024⟩ ⟨7, term, term⟩ .never
      { store := sampleStore }
    Settings.ofEnvironment (listing "Quiz, Exam") = .ok settings ∧
      settings.calendar.range term term = .ok [.full 2024 .autumn "Quiz", .full 2024 .autumn "Exam"] ∧
      after.2.calls.length = 2 ∧ after.2.calls.Nodup := by
  intro settings term after
  have accepted : Settings.ofEnvironment (listing "Quiz, Exam") = .ok settings := by decide +kernel
  have walks : settings.calendar.range term term = .ok [.full 2024 .autumn "Quiz", .full 2024 .autumn "Exam"] := by
    decide +kernel
  have both : after.2.calls.length = 2 := by decide +kernel
  obtain ⟨-, once, fetches⟩ := columns_fetched_once accepted walks
  obtain ⟨asked, among, -, calls, apart⟩ := fetches (samplePortal 2024) 2024 7 .never { store := sampleStore }
  have distinct := once (by rintro text ⟨⟩; decide)
  refine ⟨accepted, walks, both, ?_⟩
  have alone : after.2.calls = asked.flatMap (marksCalls 7) := calls
  rw [alone]
  exact apart.mpr (distinct.sublist among.sublist)

/-- A column is listed twice, the settings are accepted, and a refresh over a term fetches it twice. -/
theorem columns_fetched_twice :
    let settings := listingSettings ["Test", "Test"]
    let term : Period := ⟨2024, some .autumn, none⟩
    let after := Service.refreshMarks ⟨samplePortal 2024, settings.forServices 2024⟩ ⟨7, term, term⟩ .never
      { store := sampleStore }
    Settings.ofEnvironment (listing "Test,Test") = .ok settings ∧
      settings.calendar.range term term = .ok [.full 2024 .autumn "Test", .full 2024 .autumn "Test"] ∧
      after.1 = .ok { unchanged := 2 } ∧
      after.2.calls = marksCalls 7 (.full 2024 .autumn "Test") ++ marksCalls 7 (.full 2024 .autumn "Test") := by
  decide +kernel

end Gradebook.Command
