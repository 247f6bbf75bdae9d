import Gradebook.Proofs.Calendar
import Gradebook.Proofs.Command.Arguments
import Gradebook.Proofs.Command.Settings

/-! Periods on the command line. The columns that settings list are trimmed and none of them is empty, so a full period
of the calendar can be told from its text, whatever else its column holds. A call that names such periods asks for these
periods and no others. -/

namespace Gradebook

namespace Calendar

variable {calendar : Calendar} {p : Period}

/-- A full period that the calendar gives, as one of a year, of a term or of a range. -/
inductive Gives (calendar : Calendar) (p : Period) : Prop where
  | built {year : Year} {term : Option Term} (among : p ∈ calendar.build year term)
  | walked {since upto : Period} {periods : List Period} (walks : calendar.range since upto = .ok periods)
      (among : p ∈ periods)

/-- The calendar gives a full period for each year, term and column. -/
theorem gives_iff : calendar.Gives p ↔ ∃ year term, ∃ column ∈ calendar.columns, p = .full year term column := by
  constructor
  · rintro (among | ⟨walks, among⟩)
    · obtain ⟨own, column, -, hcolumn, rfl⟩ := mem_build.mp among
      exact ⟨_, own, column, hcolumn, rfl⟩
    · obtain ⟨lower, upper, -, -, -, rfl⟩ := range_eq_ok.mp walks
      obtain ⟨⟨key, _⟩, hfound, rfl⟩ := List.mem_map.mp among
      obtain ⟨year, own, place, column, -, -, hplace, -, rfl⟩ := mem_walk.mp (List.mem_filter.mp hfound).1
      exact ⟨year, own, column, List.mem_of_getElem? hplace, rfl⟩
  · rintro ⟨year, own, column, hcolumn, rfl⟩
    exact .built (mem_build.mpr ⟨own, column, .inl rfl, hcolumn, rfl⟩)

end Calendar

namespace Command

namespace Settings

variable {env : Environment} {settings : Settings} {p : Period} {column : String}

/-- What a list of columns names is trimmed and not empty. -/
theorem columnsOf_shown {text : String} (listed : column ∈ columnsOf text) :
    Text.trim column = column ∧ column ≠ "" := by
  obtain ⟨hcolumn, shown⟩ := List.mem_filter.mp listed
  obtain ⟨piece, -, rfl⟩ := List.mem_map.mp hcolumn
  refine ⟨?_, by simpa using shown⟩
  rw [Text.trim, String.toList_ofList, Text.trimChars_trimChars]

theorem columns_shown (accepted : ofEnvironment env = .ok settings) (listed : column ∈ settings.calendar.columns) :
    Text.trim column = column ∧ column ≠ "" := by
  rcases calendarOf_eq_ok (calendar_of_accepted accepted) with ⟨-, same⟩ | ⟨text, -, -, same⟩
  · rw [same] at listed
    have standard : ∀ column ∈ Calendar.standard.columns, Text.trim column = column ∧ column ≠ "" := by decide
    exact standard column listed
  · rw [same] at listed
    exact columnsOf_shown listed

theorem legible_of_gives (accepted : ofEnvironment env = .ok settings) (gives : settings.calendar.Gives p) :
    p.Legible := by
  obtain ⟨year, term, column, listed, rfl⟩ := Calendar.gives_iff.mp gives
  obtain ⟨trimmed, nonempty⟩ := columns_shown accepted listed
  refine ⟨nofun, ?_, ?_⟩
  · rintro ⟨⟩
    exact nonempty rfl
  · rintro _ ⟨⟩
    exact trimmed

end Settings

variable {env : Environment} {settings : Settings}

/-- **Every period of the configured calendar is read back from its text.** Whatever environment is accepted: the
calendar gives a full period for every year, every term and every column that is configured, each period that it gives
for a year, a term or a range is the one that its text is read as, and a call to refresh the marks of a pupil that names
two of them by their texts asks for the marks between these two. -/
theorem periods_survive_text (accepted : Settings.ofEnvironment env = .ok settings) :
    (∀ year term, ∀ column ∈ settings.calendar.columns, settings.calendar.Gives (.full year term column)) ∧
      (∀ p, settings.calendar.Gives p → Period.parse p.text = .ok p) ∧
      ∀ pid first last, settings.calendar.Gives first → settings.calendar.Gives last →
        Call.ofArguments (refreshMarksCall pid first last) = .ok (.run (.refreshMarks ⟨pid, first, last⟩)) := by
  refine ⟨?_, ?_, ?_⟩
  · intro year term column listed
    exact Calendar.gives_iff.mpr ⟨year, term, column, listed, rfl⟩
  · intro p gives
    exact Period.parse_text.mpr (Settings.legible_of_gives accepted gives)
  · intro pid first last since upto
    have start := Settings.legible_of_gives accepted since
    have stop := Settings.legible_of_gives accepted upto
    exact ofArguments_refreshMarks pid start stop

/-- A column with a slash and blanks inside, in the earliest year that there is. -/
theorem slashed_column_survives_text :
    let settings := listingSettings ["Mid/term  期末", "Exam"]
    let early : Period := .full (-2147483648) .spring "Mid/term  期末"
    let late : Period := .full 2024 .summer "Exam"
    Settings.ofEnvironment (listing " Mid/term  期末 ,, Exam") = .ok settings ∧
      early ∈ settings.calendar.build (-2147483648) (some .spring) ∧
      settings.calendar.range late late = .ok [late] ∧
      Period.parse early.text = .ok early ∧ Period.parse late.text = .ok late ∧
      Call.ofArguments (refreshMarksCall 7 early late) = .ok (.run (.refreshMarks ⟨7, early, late⟩)) := by
  intro settings early late
  have accepted : Settings.ofEnvironment (listing " Mid/term  期末 ,, Exam") = .ok settings := by decide +kernel
  have among : early ∈ settings.calendar.build (-2147483648) (some .spring) := by decide
  have walks : settings.calendar.range late late = .ok [late] := by decide +kernel
  obtain ⟨-, reads, calls⟩ := periods_survive_text accepted
  have since : settings.calendar.Gives early := .built among
  have upto : settings.calendar.Gives late := .walked walks (List.mem_singleton_self late)
  exact ⟨accepted, among, walks, reads early since, reads late upto, calls 7 early late since upto⟩

end Command

end Gradebook
