import Gradebook.Proofs.Store.Later
import Gradebook.Proofs.Store.Names
import Gradebook.Proofs.Store.Profile

/-! Storing students and bringing them in line. The subjects of a student come as a list that may repeat codes and may
give stored codes other names or ids. What is stored is one row for each code, under the name that it came with first,
and the student is shown with these rows, oldest first. A stored student takes on year, attendance and further subjects,
or the store stays as it is where there is nothing to take on. -/

namespace Gradebook.Store

open Attempt

variable {s t : Store} {row : StoredStudent} {prev next : Student}

/-! ### New students -/

/-- **Students are stored as given.** A student who breaks no rule, is not stored yet and whose subjects have codes is
stored with number, name, year and attendance, and with the one stored subject of each code. Rows of subjects are added
where codes were unknown, and nothing else changes but what is the student's own. Whatever is done later to others, and
whether or not it succeeds, the student is told just as on this occasion. Who breaks a rule or is stored already leaves
the store as it was. -/
theorem creation_stores_student (built : Built s) (student : Student) :
    (Storable student → s.hasStudent student.pid = false → ∃ stored t, createStudent student s = (.ok stored, t) ∧
      stored.pid = student.pid ∧ stored.name = student.name ∧ stored.currentYear = student.currentYear ∧
      stored.attends = student.attends ∧ t.ListsCodes (student.subjects.map (·.code)) stored.subjects ∧
      Acquires student.subjects s t ∧ Frame student.pid s t ∧ t.marks = s.marks ∧
      ∀ u, Later (fun operation => ¬operation.IsAbout student.pid) t u → u.KnowsStudent stored) ∧
    ((∃ defect, student.validate = .error defect) ∨ s.hasStudent student.pid = true →
      ∃ e, createStudent student s = (.error e, s)) := by
  have sound := built.sound
  refine ⟨fun storable new => ?_, createStudent_idle⟩
  obtain ⟨stored, t, creates, one, codes, marks⟩ := createStudent_ok sound new storable
  obtain ⟨valid, told, covers⟩ := createStudent_covers creates
  have soundAfter : t.Sound := (createStudent_sound student).leads creates sound
  have frame : Frame student.pid s t := (createStudent_frame student).leads creates
  have found : findStudent student.pid t = .ok stored := findStudent?_eq_ok_some.mp told
  obtain ⟨same, foundSame, shows⟩ := findStudent_ok (Student.sound_of_validate valid s.clock) one
  rw [found] at foundSame
  cases foundSame
  refine ⟨stored, t, creates, shows.pid, shows.name, covers.currentYear, covers.attends, ?_, ?_, frame, marks, ?_⟩
  · rw [shows.subjects]
    exact soundAfter.listsCodes_subjectsOf codes
  · exact (createStudent_learns creates).acquires frame.subjects soundAfter.codes
  · intro u later
    exact later.knowsStudent soundAfter found

/-- A pupil who takes two subjects. -/
def firstPupilStore : Store :=
  Operation.perform {} (.createStudent
    { pid := 3, name := "Ben", currentYear := some 8, attends := true
      subjects := [⟨none, "AR", "Art"⟩, ⟨none, "MA", "Maths"⟩] })

theorem firstPupilStore_built : Built firstPupilStore := (Built.empty .epoch).perform _

/-- A second pupil comes with a code twice and with known codes under another id and another name. The row that is new
skips the number that a known code used up, and the pupil is still told so when the first one is gone. -/
theorem creation_stores_student_second :
    let student : Student :=
      { pid := 7, name := "Ada", currentYear := some 9, attends := true
        subjects := [⟨none, "MA", "Sums"⟩, ⟨none, "SC", "Science"⟩, ⟨some 9, "AR", "Art"⟩, ⟨none, "SC", "Lab"⟩] }
    Built firstPupilStore ∧ Storable student ∧ firstPupilStore.hasStudent student.pid = false ∧
      ∃ stored t, createStudent student firstPupilStore = (.ok stored, t) ∧
        stored.subjects = [⟨some 1, "AR", "Art"⟩, ⟨some 2, "MA", "Maths"⟩, ⟨some 4, "SC", "Science"⟩] ∧
        findStudent 7 (List.foldl Operation.perform t [.createStudent student, .deleteStudent 3]) = .ok stored := by
  intro student
  have storable : Storable student := ⟨by decide, by decide⟩
  have new : firstPupilStore.hasStudent student.pid = false := by decide +kernel
  obtain ⟨stored, t, creates, hpid, -, -, -, -, -, -, -, knows⟩ :=
    (creation_stores_student firstPupilStore_built student).1 storable new
  have subjects : stored.subjects = [⟨some 1, "AR", "Art"⟩, ⟨some 2, "MA", "Maths"⟩, ⟨some 4, "SC", "Science"⟩] := by
    have gives : (createStudent student firstPupilStore).1.toOption.map (·.subjects) =
        some [⟨some 1, "AR", "Art"⟩, ⟨some 2, "MA", "Maths"⟩, ⟨some 4, "SC", "Science"⟩] := by decide +kernel
    rw [creates] at gives
    exact Option.some.inj gives
  have later : Later (fun operation => ¬operation.IsAbout student.pid) t
      (List.foldl Operation.perform t [.createStudent student, .deleteStudent 3]) :=
    .perform (.deleteStudent 3) (show ¬(3 : PupilId) = 7 by decide) (.perform (.createStudent student) not_false .now)
  have found := (knows _ later).byPid
  rw [hpid] at found
  exact ⟨firstPupilStore_built, storable, new, stored, t, creates, subjects, found⟩

/-! ### Stored students -/

/-- Where a stored student does not cover what is known, year or attendance differ or a code is new. -/
theorem not_covers_iff : ¬Covers prev next ↔ next.currentYear ≠ prev.currentYear ∨ next.attends ≠ prev.attends ∨
    ∃ subject ∈ next.subjects, subject.code ∉ prev.subjects.map (·.code) := by
  have covers : Covers prev next ↔ next.currentYear = prev.currentYear ∧ next.attends = prev.attends ∧
      ∀ subject ∈ next.subjects, subject.code ∈ prev.subjects.map (·.code) :=
    ⟨fun h => ⟨h.currentYear.symm, h.attends.symm, h.codes⟩, fun h => ⟨h.1.symm, h.2.1.symm, h.2.2⟩⟩
  simp only [covers, not_and_or, not_forall, exists_prop, ne_eq]

/-- A stored student can be brought in line with what is valid, as long as new subjects have codes. -/
theorem Sound.updateStudent_ok (h : s.Sound) (found : findStudent prev.pid s = .ok prev)
    (valid : next.validate = .ok ())
    (coded : ∀ subject ∈ next.subjects, subject.code ∉ prev.subjects.map (·.code) → subject.code ≠ "") :
    ∃ changed t, updateStudent prev next s = (.ok changed, t) ∧ t.marks = s.marks ∧
      ∀ code, code ∈ codesOf prev.pid t ↔
        code ∈ prev.subjects.map (·.code) ++ next.subjects.map (·.code) := by
  obtain ⟨row, hrow, one, told⟩ := h.findStudent_eq_ok.mp found
  obtain ⟨same, toldSame, shows⟩ := toStudent_ok (h.studentRows row hrow) (subjectsOf prev.pid s)
  rw [told] at toldSame
  cases toldSame
  have codes : prev.subjects.map (·.code) = codesOf prev.pid s := by rw [shows.subjects, codesOf]
  -- no stored code is empty
  have storable : Storable next := by
    refine ⟨valid, fun subject hsubject => ?_⟩
    by_cases old : subject.code ∈ codesOf prev.pid s
    · exact h.ne_of_mem_codesOf old
    · exact coded subject hsubject (codes ▸ old)
  rw [codes]
  by_cases agrees : Agrees row (codesOf prev.pid s) next
  · refine ⟨false, s, updateStudent_of_covers valid (shows.covers_iff.mpr agrees), rfl, fun code => ?_⟩
    rw [List.mem_append, or_iff_left_of_imp]
    intro known
    obtain ⟨subject, hsubject, rfl⟩ := List.mem_map.mp known
    exact agrees.2.2 subject hsubject
  · obtain ⟨t, updates, -, added, marks⟩ := updateStudent_changed h one shows storable agrees
    refine ⟨true, t, updates, marks, fun code => ?_⟩
    rw [added, List.mem_append]

/-- **Stored students are brought in line.** An update from what the store tells of a student to what is valid succeeds
as long as new subjects have codes. It tells of a change just where year or attendance differ or a code is new, and
else leaves the store as it was, its clock and counters included. After it the student is told as before but for year
and attendance, which are as known now, and for the subjects, which are those of the old codes and the known ones.
Nothing is taken away, no mark and nobody else is touched, and the rows of subjects stay. What is not valid changes
nothing. -/
theorem update_brings_in_line (built : Built s) (found : findStudent prev.pid s = .ok prev) (next : Student) :
    (next.validate = .ok () →
      (∀ subject ∈ next.subjects, subject.code ∉ prev.subjects.map (·.code) → subject.code ≠ "") →
      ∃ changed t, updateStudent prev next s = (.ok changed, t) ∧
        (changed = true ↔ next.currentYear ≠ prev.currentYear ∨ next.attends ≠ prev.attends ∨
          ∃ subject ∈ next.subjects, subject.code ∉ prev.subjects.map (·.code)) ∧
        (changed = false → t = s) ∧
        (∃ subjects updatedAt, findStudent prev.pid t = .ok { prev with
            currentYear := next.currentYear, attends := next.attends, subjects, updatedAt } ∧
          t.ListsCodes (prev.subjects.map (·.code) ++ next.subjects.map (·.code)) subjects) ∧
        s.links ⊆ t.links ∧ t.marks = s.marks ∧ Frame prev.pid s t ∧
        (∀ other, other ≠ prev.pid → findStudent? other t = findStudent? other s) ∧
        Acquires next.subjects s t) ∧
    ∀ defect, next.validate = .error defect →
      updateStudent prev next s = (.error (.validation defect.message), s) := by
  have sound := built.sound
  have told : findStudent? prev.pid s = .ok (some prev) := findStudent?_eq_ok_some.mpr found
  refine ⟨fun valid coded => ?_, fun defect invalid => congrFun (updateStudent_of_invalid invalid) s⟩
  obtain ⟨changed, t, updates, marks, codes⟩ := sound.updateStudent_ok found valid coded
  have soundAfter : t.Sound := (updateStudent_sound prev next).leads updates sound
  have frame : Frame prev.pid s t := (updateStudent_frame prev next).leads updates
  obtain ⟨⟨updatedAt, tells⟩, -⟩ := updateStudent_tells told updates
  refine ⟨changed, t, updates, ?_, ?_, ?_, ?_, marks, frame, ?_, ?_⟩
  · rw [← not_covers_iff, ← updateStudent_told updates, Bool.not_eq_false]
  · rintro rfl
    exact updateStudent_unchanged updates
  · exact ⟨_, updatedAt, findStudent?_eq_ok_some.mp tells, soundAfter.listsCodes_subjectsOf codes⟩
  · intro l hl
    have keeps : Keeps l.pid s t := (updateStudent_keeps prev next).leads updates
    exact keeps.links l hl rfl
  · intro other hne
    exact frame.findStudent?_eq hne sound.references soundAfter.subjects
  · have taken : prev.subjects.map (·.code) ⊆ s.storedCodes := by
      rw [findStudent?_subjects told]
      exact codesOf_subset_storedCodes prev.pid s
    exact (updateStudent_learns taken updates).acquires frame.subjects soundAfter.codes

/-- A pupil of the next year comes with a known code under another name and with a new one twice. -/
theorem update_brings_in_line_next_year :
    let prev : Student :=
      { pid := 3, name := "Ben", currentYear := some 8, attends := true, createdAt := some .epoch
        updatedAt := some .epoch, subjects := [⟨some 1, "AR", "Art"⟩, ⟨some 2, "MA", "Maths"⟩] }
    let next : Student :=
      { pid := 3, name := "Benjamin", currentYear := some 9, attends := true
        subjects := [⟨none, "MA", "Sums"⟩, ⟨none, "SC", "Science"⟩, ⟨none, "SC", "Lab"⟩] }
    Built firstPupilStore ∧ findStudent prev.pid firstPupilStore = .ok prev ∧ Storable next ∧
      ∃ t, updateStudent prev next firstPupilStore = (.ok true, t) ∧ ∃ subjects updatedAt,
        findStudent prev.pid t = .ok { prev with currentYear := some 9, attends := true, subjects, updatedAt } ∧
        subjects = [⟨some 1, "AR", "Art"⟩, ⟨some 2, "MA", "Maths"⟩, ⟨some 3, "SC", "Science"⟩] := by
  intro prev next
  have found : findStudent prev.pid firstPupilStore = .ok prev := by decide +kernel
  have storable : Storable next := ⟨by decide, by decide⟩
  obtain ⟨changed, t, updates, tells, -, ⟨subjects, updatedAt, told, -⟩, -⟩ :=
    (update_brings_in_line firstPupilStore_built found next).1 storable.1 fun subject hsubject _ =>
      storable.2 subject hsubject
  have grown : changed = true := tells.mpr (.inl (by decide))
  have gives : (findStudent prev.pid (updateStudent prev next firstPupilStore).2).toOption.map (·.subjects) =
      some [⟨some 1, "AR", "Art"⟩, ⟨some 2, "MA", "Maths"⟩, ⟨some 3, "SC", "Science"⟩] := by decide +kernel
  rw [updates, told] at gives
  rw [grown] at updates
  exact ⟨firstPupilStore_built, found, storable, t, updates, subjects, updatedAt, told, Option.some.inj gives⟩

end Gradebook.Store
