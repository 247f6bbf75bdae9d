import Gradebook.Proofs.Store.Later
import Gradebook.Proofs.Store.Names

/-! Recording marks. A mark goes into its table as numbers and words and comes back as a mark. It is stored just where
it is new, its period is full, its subject has a name and a row, and its student is stored. Then it reads back as it
was given, under the next number and with the subject as that is stored, for as long as nobody deletes it or its
student. Where anything is missing, nothing is written. -/

namespace Gradebook

/-- What it takes to store a mark. -/
structure Mark.Recordable (mark : Mark) (s : Store) : Prop where
  new : mark.id = none
  full : mark.period.isFull = true
  named : Text.isBlankText mark.subject.name = false
  subject : ∃ row ∈ s.subjects, mark.subject.id = some row.id
  student : ∃ row ∈ s.students, row.pid = mark.pid

namespace Store

open Attempt

variable {s t : Store} {mark : Mark}

/-- The next number of a mark is beyond those of all marks that the store has or had. -/
theorem Built.mark_lt_next (built : Built s) {may : Operation → Prop} (later : Later may s t) {old : StoredMark}
    (hold : old ∈ s.marks) : old.id < t.lastMarkId + 1 := by
  have counted := (built.sound.markRows old hold).2.2
  have onward := later.ages.markCounter
  omega

/-- Where anything is missing, nothing is written. -/
theorem createMark_of_not_recordable (refused : ¬mark.Recordable s) : ∃ e, createMark mark s = (.error e, s) := by
  rcases createMark_cases mark with ⟨e, refuses⟩ | ⟨valid, subjectId, term, column, hid, -, -, does⟩
  · exact ⟨e, congrFun refuses s⟩
  · obtain ⟨new, full, named⟩ := Mark.validate_eq_ok.mp valid
    have missing : (s.hasStudent mark.pid && s.hasSubject subjectId) = false := by
      by_contra known
      rw [Bool.not_eq_false, Bool.and_eq_true] at known
      obtain ⟨student, subject⟩ := known
      obtain ⟨row, hrow, rfl⟩ := hasSubject_iff.mp subject
      exact refused ⟨new, full, named, ⟨row, hrow, hid⟩, hasStudent_iff.mp student⟩
    have refuses : insertMark mark.pid subjectId mark.teacher mark.percentage mark.period.academicYear term column s =
        (.error .brokenReference, s) := by
      unfold insertMark
      rw [missing, if_neg Bool.false_ne_true]
    rw [does]
    exact ⟨_, bind_of_error refuses⟩

/-- **Marks read back.** A mark is stored just where nothing is missing, and nothing is written where it is not. A mark
that is stored adds one row and is given back with its pupil, teacher, percentage and period, under a number beyond
those of all marks before, and with the row of its subject. Whatever is done later, and whether or not it succeeds, it
is told just so as long as neither the mark nor its student is deleted. -/
theorem recorded_mark_reads_back (built : Built s) (mark : Mark) :
    ((∃ given t, createMark mark s = (.ok given, t)) ↔ mark.Recordable s) ∧
    (∀ e t, createMark mark s = (.error e, t) → t = s) ∧
    ∀ given t, createMark mark s = (.ok given, t) → ∃ id row, ∃ subject ∈ s.subjects,
      mark.subject.id = some subject.id ∧
      given = { mark with id := some id, subject := subject.toSubject, createdAt := some s.clock } ∧
      row.id = id ∧ Adds [row] s t ∧
      (∀ earlier, Built earlier → Later (fun _ => True) earlier s → ∀ old ∈ earlier.marks, old.id < id) ∧
      ∀ u, Later (fun operation => ¬operation.RemovesMark id mark.pid) t u → u.KnowsMark given := by
  have sound := built.sound
  by_cases recordable : mark.Recordable s
  · obtain ⟨new, full, named, ⟨subject, hsubject, hid⟩, student⟩ := recordable
    obtain ⟨row, t, creates, adds, soundAfter, hrow, hpid, hsubjectId, describes⟩ :=
      sound.createMark_ok (Mark.validate_eq_ok.mpr ⟨new, full, named⟩) (hasStudent_iff.mpr student) hsubject hid
    have added : row ∈ t.marks := adds.marks ▸ List.mem_append_right s.marks List.mem_cons_self
    refine ⟨iff_of_true ⟨_, t, creates⟩ ⟨new, full, named, ⟨subject, hsubject, hid⟩, student⟩, ?_, ?_⟩
    · intro e u fails
      rw [creates] at fails
      cases fails
    · intro given u succeeds
      rw [creates] at succeeds
      cases succeeds
      refine ⟨row.id, row, subject, hsubject, hid, by rw [hrow], rfl, adds, ?_, ?_⟩
      · intro earlier before later old hold
        rw [hrow]
        exact before.mark_lt_next later hold
      · intro u later
        rw [← hpid] at later
        exact later.knowsMark soundAfter added (adds.subjects ▸ hsubject) hsubjectId.symm describes
  · obtain ⟨e, refuses⟩ := createMark_of_not_recordable recordable
    refine ⟨iff_of_false ?_ recordable, ?_, ?_⟩
    · rintro ⟨given, t, succeeds⟩
      rw [refuses] at succeeds
      cases succeeds
    · intro e' t fails
      rw [refuses] at fails
      cases fails
      rfl
    · intro given t succeeds
      rw [refuses] at succeeds
      cases succeeds

/-- A pupil with one subject had a mark that is deleted. -/
def clearedStore : Store :=
  List.foldl Operation.perform {}
    [.createStudent
      { pid := 7, name := "Ada", currentYear := some 9, attends := true, subjects := [⟨none, "AR", "Art"⟩] },
     .createMark
      { pid := 7, subject := ⟨some 1, "AR", "Art"⟩, teacher := "Ms Lee", percentage := ⟨67, by decide⟩
        period := .full 2024 .autumn "Exam" },
     .deleteMark 1]

theorem clearedStore_built : Built clearedStore := (Built.empty .epoch).after _

/-- The next mark comes under another name than its subject is stored with. It gets a number of its own, and is found
after the pupil got and lost another mark. -/
theorem recorded_mark_reads_back_art :
    let mark : Mark :=
      { pid := 7, subject := ⟨some 1, "", "Drawing"⟩, teacher := "Mr Ray", percentage := ⟨80, by decide⟩
        period := .full 2024 .spring "Test" }
    Built clearedStore ∧ mark.Recordable clearedStore ∧ ∃ given t, createMark mark clearedStore = (.ok given, t) ∧
      given.id = some 2 ∧ given.subject = ⟨some 1, "AR", "Art"⟩ ∧
      findMark 2 (List.foldl Operation.perform t [.createMark mark, .deleteMark 3]) = .ok given := by
  intro mark
  obtain ⟨possible, -, reads⟩ := recorded_mark_reads_back clearedStore_built mark
  have recordable : mark.Recordable clearedStore :=
    ⟨rfl, rfl, by decide, ⟨⟨1, "AR", "Art"⟩, by decide +kernel, rfl⟩, by decide +kernel⟩
  obtain ⟨given, t, creates⟩ := possible.mpr recordable
  obtain ⟨id, row, subject, -, -, same, -, -, -, knows⟩ := reads given t creates
  have shown : given.id = some 2 ∧ given.subject = ⟨some 1, "AR", "Art"⟩ := by
    have gives : (createMark mark clearedStore).1.toOption.map (fun given => (given.id, given.subject)) =
        some (some 2, ⟨some 1, "AR", "Art"⟩) := by decide +kernel
    rw [creates] at gives
    exact Prod.mk.inj (Option.some.inj gives)
  have number : id = 2 := by
    rw [same] at shown
    exact Option.some.inj shown.1
  rw [number] at knows
  have later : Later (fun operation => ¬operation.RemovesMark 2 mark.pid) t
      (List.foldl Operation.perform t [.createMark mark, .deleteMark 3]) :=
    .perform (.deleteMark 3) (show ¬(3 : Int) = 2 by decide) (.perform (.createMark mark) not_false .now)
  exact ⟨clearedStore_built, recordable, given, t, creates, shown.1, shown.2, (knows _ later).byId 2 shown.1⟩

end Store

end Gradebook
