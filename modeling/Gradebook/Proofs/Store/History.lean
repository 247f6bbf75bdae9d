import Gradebook.Proofs.Store.Frame

/-! The life of a store under operations that may be asked anything, fail midway and stand in transactions that are
committed or rolled back. What it stores keeps the rules of its tables all along, and the numbers that subjects and
marks get count upwards over everything that was ever committed. A rolled back transaction is the one place where
counters go back, and they go back to what was committed before. -/

namespace Gradebook.Store

open Attempt

/-- A later state of a store. Counters have not gone back, and a numbered row is an old one or has a number beyond
the old counter. -/
structure Ages (s t : Store) : Prop where
  subjectCounter : s.lastSubjectId ≤ t.lastSubjectId
  markCounter : s.lastMarkId ≤ t.lastMarkId
  subjects : ∀ row ∈ t.subjects, row ∈ s.subjects ∨ s.lastSubjectId < row.id
  marks : ∀ row ∈ t.marks, row ∈ s.marks ∨ s.lastMarkId < row.id

variable {s t u : Store} {student : Student} {pid : PupilId}

instance : IsPreorder Store Ages where
  refl _ := ⟨Int.le_refl _, Int.le_refl _, fun _ hrow => .inl hrow, fun _ hrow => .inl hrow⟩
  trans s t u h k := by
    refine ⟨Int.le_trans h.subjectCounter k.subjectCounter, Int.le_trans h.markCounter k.markCounter, ?_, ?_⟩
    · intro row hrow
      rcases k.subjects row hrow with hold | hnew
      · exact h.subjects row hold
      · exact .inr (Int.lt_of_le_of_lt h.subjectCounter hnew)
    · intro row hrow
      rcases k.marks row hrow with hold | hnew
      · exact h.marks row hold
      · exact .inr (Int.lt_of_le_of_lt h.markCounter hnew)

/-- A store that has lost marks, if anything, and whose students, links and clock may have changed. -/
theorem Ages.of_sublist (subjects : t.subjects = s.subjects) (marks : t.marks.Sublist s.marks)
    (subjectCounter : t.lastSubjectId = s.lastSubjectId) (markCounter : t.lastMarkId = s.lastMarkId) : Ages s t where
  subjectCounter := Int.le_of_eq subjectCounter.symm
  markCounter := Int.le_of_eq markCounter.symm
  subjects _ hrow := .inl (subjects ▸ hrow)
  marks _ hrow := .inl (marks.subset hrow)

theorem insertSubject_ages (code name : String) (s : Store) : Ages s (s.insertSubject code name) := by
  have counted : s.lastSubjectId ≤ s.lastSubjectId + 1 := by omega
  unfold insertSubject
  split
  · exact ⟨counted, Int.le_refl _, fun _ hrow => .inl hrow, fun _ hrow => .inl hrow⟩
  · refine ⟨counted, Int.le_refl _, ?_, fun _ hrow => .inl hrow⟩
    intro row hrow
    rcases List.mem_append.mp hrow with hold | hnew
    · exact .inl hold
    · rw [List.mem_singleton.mp hnew]
      exact .inr (Int.lt_succ _)

theorem link_ages (pid : PupilId) (subjectId : Int) : (link pid subjectId).Moves Ages := by
  intro s
  unfold link
  split
  · exact refl_of Ages s
  · split
    · exact .of_sublist rfl (List.Sublist.refl _) rfl rfl
    · exact refl_of Ages s

theorem upsertSubject_ages (subject : Subject) : (upsertSubject subject).Moves Ages := by
  unfold upsertSubject
  split
  · exact .fail _
  · exact .bind (insertSubject_ages subject.code subject.name) fun _ => .reading _

theorem enrollEach_ages (pid : PupilId) (subjects : List Subject) : (forEach (enroll pid) subjects).Moves Ages :=
  .forEach subjects fun subject _ => enroll_moves insertSubject_ages (link_ages pid) subject

theorem createStudent_ages (student : Student) : (createStudent student).Moves Ages := by
  refine createStudent_moves (fun name year attends s => ?_) (enrollEach_ages student.pid student.subjects)
  unfold insertStudent
  split
  · exact refl_of Ages s
  · split
    · exact refl_of Ages s
    · exact .of_sublist rfl (List.Sublist.refl _) rfl rfl

theorem updateStudent_ages (prev next : Student) : (updateStudent prev next).Moves Ages :=
  updateStudent_moves (enrollEach_ages prev.pid) fun _ _ _ => .of_sublist rfl (List.Sublist.refl _) rfl rfl

theorem deleteStudent_ages (pid : PupilId) : (deleteStudent pid).Moves Ages := by
  intro s
  unfold deleteStudent
  split
  · exact .of_sublist rfl List.filter_sublist rfl rfl
  · exact refl_of Ages s

theorem insertMark_ages (pid : PupilId) (subjectId : Int) (teacher : String) (percentage : Percentage) (year : Year)
    (term : Term) (column : String) :
    (insertMark pid subjectId teacher percentage year term column).Moves Ages := by
  intro s
  unfold insertMark
  split
  · refine ⟨Int.le_refl _, Int.le_of_lt (Int.lt_succ _), fun _ hrow => .inl hrow, ?_⟩
    intro row hrow
    rcases List.mem_append.mp hrow with hold | hnew
    · exact .inl hold
    · rw [List.mem_singleton.mp hnew]
      exact .inr (Int.lt_succ _)
  · exact refl_of Ages s

theorem createMark_ages (mark : Mark) : (createMark mark).Moves Ages := by
  unfold createMark
  split
  · exact .fail _
  · split
    · exact .fail _
    · split
      · exact .bind (insertMark_ages _ _ _ _ _ _ _) fun _ => .reading _
      · exact .fail _

theorem deleteMark_ages (id : Int) : (deleteMark id).Moves Ages := by
  intro s
  unfold deleteMark
  split
  · exact .of_sublist rfl List.filter_sublist rfl rfl
  · exact refl_of Ages s

theorem Operation.ages_perform (operation : Operation) (s : Store) : Ages s (operation.perform s) := by
  cases operation with
  | createStudent student => exact createStudent_ages student s
  | updateStudent prev next => exact updateStudent_ages prev next s
  | deleteStudent pid => exact deleteStudent_ages pid s
  | upsertSubject subject => exact upsertSubject_ages subject s
  | link pid subjectId => exact link_ages pid subjectId s
  | createMark mark => exact createMark_ages mark s
  | deleteMark id => exact deleteMark_ages id s

/-! ### Lives of a store -/

/-- What happens to a store. -/
inductive Event where
  | perform (operation : Operation)
  | begin
  | commit
  | rollback
  | tick (clock : Timestamp)

/-- A store with the transaction that is open on it, if any, and every store that was ever committed, latest first.
Operations of several statements outside a transaction commit each statement; as they only add rows, what they
commit on the way is part of what they leave. -/
structure Life where
  committed : Store
  working? : Option Store := none
  past : List Store

namespace Life

/-- A store that is empty while nothing has happened. -/
def fresh (clock : Timestamp) : Life := { committed := { clock }, past := [{ clock }] }

/-- What the next operation sees: the open transaction's store, else the committed one. -/
def visible (life : Life) : Store := life.working?.getD life.committed

/-- Another store in place of the visible one, which is committed at once outside a transaction. -/
def write (life : Life) (s : Store) : Life :=
  match life.working? with
  | some _ => { life with working? := some s }
  | none => { committed := s, past := s :: life.past }

/-- What becomes of a store. Nothing begins within a transaction, and only a transaction is committed or rolled
back. -/
def next (life : Life) : Event → Life
  | .perform operation => life.write (operation.perform life.visible)
  | .tick clock => life.write { life.visible with clock }
  | .begin => { life with working? := some life.visible }
  | .commit =>
    match life.working? with
    | some s => { committed := s, past := s :: life.past }
    | none => life
  | .rollback => { life with working? := none }

def after (life : Life) (events : List Event) : Life := events.foldl next life

variable {life : Life}

/-- What holds all along: both stores are sound, what is visible is a later state of what is committed, and no
committed counter has gone back. -/
structure Regular (life : Life) : Prop where
  committed : life.committed.Sound
  visible : life.visible.Sound
  ages : Ages life.committed life.visible
  past : ∀ s ∈ life.past,
    s.Sound ∧ s.lastSubjectId ≤ life.committed.lastSubjectId ∧ s.lastMarkId ≤ life.committed.lastMarkId

theorem fresh_regular (clock : Timestamp) : (fresh clock).Regular where
  committed := .empty clock
  visible := .empty clock
  ages := refl_of Ages _
  past s hs := by
    rw [List.mem_singleton.mp hs]
    exact ⟨.empty clock, Int.le_refl _, Int.le_refl _⟩

/-- A sound later state may be committed. -/
theorem Regular.commit (h : life.Regular) (sound : s.Sound) (ages : Ages life.committed s) :
    Regular { committed := s, past := s :: life.past } where
  committed := sound
  visible := sound
  ages := refl_of Ages s
  past r hr := by
    rcases List.mem_cons.mp hr with rfl | hr
    · exact ⟨sound, Int.le_refl _, Int.le_refl _⟩
    · obtain ⟨hsound, hsubjects, hmarks⟩ := h.past r hr
      exact ⟨hsound, Int.le_trans hsubjects ages.subjectCounter, Int.le_trans hmarks ages.markCounter⟩

theorem Regular.write (h : life.Regular) (sound : s.Sound) (ages : Ages life.visible s) :
    (life.write s).Regular := by
  have later : Ages life.committed s := trans_of Ages h.ages ages
  unfold Life.write
  split
  · exact ⟨h.committed, sound, later, h.past⟩
  · exact h.commit sound later

/-- **One event.** -/
theorem Regular.next (h : life.Regular) (event : Event) : (life.next event).Regular := by
  cases event with
  | perform operation => exact h.write (operation.sound_perform h.visible) (operation.ages_perform _)
  | tick clock => exact h.write (h.visible.tick clock) (.of_sublist rfl (List.Sublist.refl _) rfl rfl)
  | begin => exact ⟨h.committed, h.visible, h.ages, h.past⟩
  | commit =>
      unfold Life.next
      cases working : life.working? with
      | none => exact h
      | some s =>
          have seen : life.visible = s := by rw [Life.visible, working, Option.getD_some]
          exact h.commit (seen ▸ h.visible) (seen ▸ h.ages)
  | rollback => exact ⟨h.committed, h.committed, refl_of Ages _, h.past⟩

theorem Regular.after (h : life.Regular) (events : List Event) : (life.after events).Regular := by
  induction events generalizing life with
  | nil => exact h
  | cons event rest ih => exact ih (h.next event)

/-- What is committed by an event is a later state of what was committed. -/
theorem Regular.ages_next (h : life.Regular) (event : Event) : Ages life.committed (life.next event).committed := by
  have writes {s : Store} (ages : Ages life.visible s) : Ages life.committed (life.write s).committed := by
    unfold Life.write
    split
    · exact refl_of Ages _
    · exact trans_of Ages h.ages ages
  cases event with
  | perform operation => exact writes (operation.ages_perform _)
  | tick clock => exact writes (.of_sublist rfl (List.Sublist.refl _) rfl rfl)
  | begin => exact refl_of Ages _
  | commit =>
      unfold Life.next
      cases working : life.working? with
      | none => exact refl_of Ages _
      | some s =>
          have seen : life.visible = s := by rw [Life.visible, working, Option.getD_some]
          exact seen ▸ h.ages
  | rollback => exact refl_of Ages _

theorem Regular.ages_after (h : life.Regular) (events : List Event) :
    Ages life.committed (life.after events).committed := by
  induction events generalizing life with
  | nil => exact refl_of Ages _
  | cons event rest ih => exact trans_of Ages (h.ages_next event) (ih (h.next event))

/-- **Numbers count upwards.** Rows that an operation stores have numbers beyond those of every store that was ever
committed, and beyond those of the store that it works on. -/
theorem Regular.numbers_upwards (h : life.Regular) (operation : Operation) (seen : s ∈ life.past ∨ s = life.visible) :
    (∀ row ∈ (operation.perform life.visible).subjects, row ∉ life.visible.subjects →
      ∀ old ∈ s.subjects, old.id < row.id) ∧
    (∀ row ∈ (operation.perform life.visible).marks, row ∉ life.visible.marks →
      ∀ old ∈ s.marks, old.id < row.id) := by
  have ages := operation.ages_perform life.visible
  have counted : s.Sound ∧ s.lastSubjectId ≤ life.visible.lastSubjectId ∧
      s.lastMarkId ≤ life.visible.lastMarkId := by
    rcases seen with hpast | rfl
    · obtain ⟨sound, hsubjects, hmarks⟩ := h.past s hpast
      exact ⟨sound, Int.le_trans hsubjects h.ages.subjectCounter, Int.le_trans hmarks h.ages.markCounter⟩
    · exact ⟨h.visible, Int.le_refl _, Int.le_refl _⟩
  obtain ⟨sound, hsubjects, hmarks⟩ := counted
  constructor
  · intro row hrow new old hold
    calc old.id ≤ s.lastSubjectId := (sound.subjectRows old hold).2.1
      _ ≤ life.visible.lastSubjectId := hsubjects
      _ < row.id := (ages.subjects row hrow).resolve_left new
  · intro row hrow new old hold
    calc old.id ≤ s.lastMarkId := (sound.markRows old hold).2.2
      _ ≤ life.visible.lastMarkId := hmarks
      _ < row.id := (ages.marks row hrow).resolve_left new

/-- **No number comes back.** A mark that was committed once and is gone leaves a number that no later store has,
whether it is committed or not. -/
theorem Regular.number_stays_free (h : life.Regular) {old : StoredMark} (hs : s ∈ life.past) (hold : old ∈ s.marks)
    (gone : ∀ row ∈ life.committed.marks, row.id ≠ old.id) (events : List Event) :
    ∀ row ∈ (life.after events).visible.marks, row.id ≠ old.id := by
  intro row hrow same
  obtain ⟨sound, -, counted⟩ := h.past s hs
  have given : old.id ≤ s.lastMarkId := (sound.markRows old hold).2.2
  have ages : Ages life.committed (life.after events).visible :=
    trans_of Ages (h.ages_after events) (h.after events).ages
  rcases ages.marks row hrow with kept | new
  · exact gone row kept same
  · omega

end Life

/-! ### What the tables hold -/

/-- The rules of the four tables. -/
structure Proper (s : Store) : Prop where
  students : ∀ row ∈ s.students,
    0 < row.pid.toInt ∧ Text.isBlankText row.name = false ∧ row.currentYear.isSome = row.attends
  pupils : (s.students.map (·.pid)).Nodup
  codes : (∀ row ∈ s.subjects, row.code ≠ "") ∧ (s.subjects.map (·.code)).Nodup
  links : s.links.Nodup ∧ ∀ l ∈ s.links,
    (∃ student ∈ s.students, student.pid = l.pid) ∧ ∃ subject ∈ s.subjects, subject.id = l.subjectId
  marks : ∀ row ∈ s.marks,
    (∃ student ∈ s.students, student.pid = row.pid) ∧ (∃ subject ∈ s.subjects, subject.id = row.subjectId) ∧
      0 ≤ row.percentage ∧ row.percentage ≤ 100
  ids : (s.subjects.map (·.id)).Nodup ∧ (s.marks.map (·.id)).Nodup

theorem Sound.proper (h : s.Sound) : s.Proper where
  students row hrow := by
    obtain ⟨hpid, hname, year, hyear, hattends⟩ := h.studentRows row hrow
    exact ⟨hpid, hname, by rw [hyear, Option.isSome_map, hattends]⟩
  pupils := by
    refine List.pairwise_map.mpr (h.students.imp fun {a b} hlt heq => ?_)
    rw [heq] at hlt
    exact Int.lt_irrefl _ hlt
  codes := ⟨fun row hrow => (h.subjectRows row hrow).2.2, h.codes⟩
  links := by
    refine ⟨h.links, fun l hl => ?_⟩
    obtain ⟨hstudent, hsubject⟩ := h.linkRows l hl
    exact ⟨hasStudent_iff.mp hstudent, hasSubject_iff.mp hsubject⟩
  marks row hrow := by
    obtain ⟨hstudent, hsubject⟩ := h.markReferences row hrow
    obtain ⟨percentage, hpercentage⟩ := (h.markRows row hrow).1.percentage
    have bound := percentage.le_hundred
    exact ⟨hasStudent_iff.mp hstudent, hasSubject_iff.mp hsubject, by omega, by omega⟩
  ids := ⟨List.pairwise_map.mpr (h.subjects.imp fun hlt => Int.ne_of_lt hlt),
    List.pairwise_map.mpr (h.marks.imp fun hlt => Int.ne_of_lt hlt)⟩

/-- **Stores keep their rules and never give a number twice.** Whatever happens to a store that was empty, what is
committed and what an open transaction sees keep the rules of the tables. A row that the next operation stores has
a number beyond all that were ever committed to its table and all that it finds there, and the number of a mark
that was committed once and deleted is never given again. -/
theorem life_keeps_representation (clock : Timestamp) (events : List Event) :
    let life := (Life.fresh clock).after events
    life.committed.Proper ∧ life.visible.Proper ∧
    (∀ operation : Operation, ∀ s, s ∈ life.past ∨ s = life.visible →
      (∀ row ∈ (operation.perform life.visible).subjects, row ∉ life.visible.subjects →
        ∀ old ∈ s.subjects, old.id < row.id) ∧
      (∀ row ∈ (operation.perform life.visible).marks, row ∉ life.visible.marks →
        ∀ old ∈ s.marks, old.id < row.id)) ∧
    (∀ s ∈ life.past, ∀ old ∈ s.marks, (∀ row ∈ life.committed.marks, row.id ≠ old.id) →
      ∀ more : List Event, ∀ row ∈ (life.after more).visible.marks, row.id ≠ old.id) := by
  intro life
  have regular : life.Regular := (Life.fresh_regular clock).after events
  refine ⟨regular.committed.proper, regular.visible.proper, ?_, ?_⟩
  · intro operation s seen
    exact regular.numbers_upwards operation seen
  · intro s hs old hold gone more
    exact regular.number_stays_free hs hold gone more

/-- A pupil with one subject gets a mark that is rolled back, the same mark once more, and loses it again. -/
def sampleEvents : List Event :=
  let mark : Mark :=
    { pid := 7, subject := ⟨some 1, "AR", "Art"⟩, teacher := "Ms Lee", percentage := ⟨64, by decide⟩
      period := .full 2024 .autumn "1" }
  [.perform (.createStudent
    { pid := 7, name := "Ada", currentYear := some 9, attends := true, subjects := [⟨none, "AR", "Art"⟩] }),
   .begin, .perform (.createMark mark), .rollback, .perform (.createMark mark), .perform (.deleteMark 1)]

theorem life_keeps_representation_rolled_back :
    let life := (Life.fresh .epoch).after sampleEvents
    (∃ s ∈ life.past, ∃ old ∈ s.marks, old.id = 1) ∧ life.committed.marks = [] ∧
      ∀ more : List Event, ∀ row ∈ (life.after more).visible.marks, row.id ≠ 1 := by
  intro life
  have once : ∃ s ∈ life.past, ∃ old ∈ s.marks, old.id = 1 := by decide +kernel
  have gone : life.committed.marks = [] := by decide +kernel
  refine ⟨once, gone, ?_⟩
  obtain ⟨s, hs, old, hold, hid⟩ := once
  have free := (life_keeps_representation .epoch sampleEvents).2.2.2 s hs old hold (by simp [life, gone])
  rwa [hid] at free

end Gradebook.Store
