import Gradebook.Proofs.Store.Built

/-! What operations on one student leave alone, whatever the store and whatever comes of them. Subjects are only
added, the parts of other students stay as they are, and nobody but a deletion takes anything from a student. -/

namespace Gradebook.Store

open Attempt

/-- Two stores that agree on all that does not belong to one pupil, apart from subjects added at the end. -/
structure Frame (pid : PupilId) (s t : Store) : Prop where
  students : t.students.filter (·.pid != pid) = s.students.filter (·.pid != pid)
  links : t.links.filter (·.pid != pid) = s.links.filter (·.pid != pid)
  marks : t.marks.filter (·.pid != pid) = s.marks.filter (·.pid != pid)
  subjects : s.subjects <+: t.subjects

/-- A store in which a pupil still has the row, under its name and its age, the links and the marks of an earlier
store. -/
structure Keeps (pid : PupilId) (s t : Store) : Prop where
  student : ∀ row ∈ s.students, row.pid = pid →
    ∃ r ∈ t.students, r.pid = pid ∧ r.name = row.name ∧ r.createdAt = row.createdAt
  links : ∀ l ∈ s.links, l.pid = pid → l ∈ t.links
  marks : ∀ m ∈ s.marks, m.pid = pid → m ∈ t.marks
  subjects : s.subjects ⊆ t.subjects

/-- A store to which nothing but subjects and links of one pupil were added. -/
structure Enrolls (pid : PupilId) (s t : Store) : Prop where
  students : t.students = s.students
  marks : t.marks = s.marks
  lastMarkId : t.lastMarkId = s.lastMarkId
  clock : t.clock = s.clock
  subjects : s.subjects <+: t.subjects
  links : ∃ added, t.links = s.links ++ added ∧ ∀ l ∈ added, l.pid = pid

variable {pid other : PupilId} {s t u : Store}

instance (pid : PupilId) : IsPreorder Store (Frame pid) where
  refl _ := ⟨rfl, rfl, rfl, List.prefix_rfl⟩
  trans _ _ _ h k :=
    ⟨k.students.trans h.students, k.links.trans h.links, k.marks.trans h.marks, h.subjects.trans k.subjects⟩

instance (pid : PupilId) : IsPreorder Store (Keeps pid) where
  refl _ := ⟨fun row hrow hpid => ⟨row, hrow, hpid, rfl, rfl⟩, fun _ hl _ => hl, fun _ hm _ => hm,
    List.Subset.refl _⟩
  trans s t u h k := by
    refine ⟨?_, ?_, ?_, List.Subset.trans h.subjects k.subjects⟩
    · intro row hrow hpid
      obtain ⟨r, hr, hrpid, hrname, hrage⟩ := h.student row hrow hpid
      obtain ⟨q, hq, hqpid, hqname, hqage⟩ := k.student r hr hrpid
      exact ⟨q, hq, hqpid, hqname.trans hrname, hqage.trans hrage⟩
    · intro l hl hpid
      exact k.links l (h.links l hl hpid) hpid
    · intro m hm hpid
      exact k.marks m (h.marks m hm hpid) hpid

instance (pid : PupilId) : IsPreorder Store (Enrolls pid) where
  refl _ := ⟨rfl, rfl, rfl, rfl, List.prefix_rfl, [], (List.append_nil _).symm, by simp⟩
  trans s t u h k := by
    obtain ⟨added, hadded, hown⟩ := h.links
    obtain ⟨more, hmore, hmoreOwn⟩ := k.links
    refine ⟨k.students.trans h.students, k.marks.trans h.marks, k.lastMarkId.trans h.lastMarkId,
      k.clock.trans h.clock, h.subjects.trans k.subjects, added ++ more, ?_, ?_⟩
    · rw [hmore, hadded, List.append_assoc]
    · intro l hl
      rcases List.mem_append.mp hl with hl | hl
      · exact hown l hl
      · exact hmoreOwn l hl

/-- What belongs to one pupil does not belong to another. -/
theorem Frame.keeps_other (h : Frame pid s t) (hne : other ≠ pid) : Keeps other s t := by
  have stays {α : Type} {xs ys : List α} {key : α → PupilId}
      (same : ys.filter (key · != pid) = xs.filter (key · != pid)) (x : α) (hx : x ∈ xs)
      (hkey : key x = other) : x ∈ ys := by
    have hmem : x ∈ xs.filter (key · != pid) := List.mem_filter.mpr ⟨hx, by simpa [hkey] using hne⟩
    rw [← same] at hmem
    exact (List.mem_filter.mp hmem).1
  refine ⟨?_, stays h.links, stays h.marks, h.subjects.subset⟩
  intro row hrow hpid
  exact ⟨row, stays h.students row hrow hpid, hpid, rfl, rfl⟩

theorem Enrolls.frame (h : Enrolls pid s t) : Frame pid s t := by
  obtain ⟨added, hadded, hown⟩ := h.links
  have own : added.filter (·.pid != pid) = [] := by
    rw [List.filter_eq_nil_iff]
    intro l hl
    simpa using hown l hl
  refine ⟨by rw [h.students], ?_, by rw [h.marks], h.subjects⟩
  rw [hadded, List.filter_append, own, List.append_nil]

theorem Enrolls.keeps (h : Enrolls pid s t) (other : PupilId) : Keeps other s t := by
  obtain ⟨added, hadded, -⟩ := h.links
  refine ⟨?_, ?_, ?_, h.subjects.subset⟩
  · intro row hrow hpid
    exact ⟨row, h.students ▸ hrow, hpid, rfl, rfl⟩
  · intro l hl _
    rw [hadded]
    exact List.mem_append_left added hl
  · intro m hm _
    exact h.marks ▸ hm

/-! ### What each operation leaves alone -/

theorem checkStudent_moves {R : Store → Store → Prop} [IsPreorder Store R] (student : Student) :
    (checkStudent student).Moves R := by
  unfold checkStudent
  split
  · exact .pure ()
  · exact .fail _

theorem insertSubject_enrolls (pid : PupilId) (code name : String) (s : Store) :
    Enrolls pid s (s.insertSubject code name) := by
  unfold insertSubject
  split
  · exact ⟨rfl, rfl, rfl, rfl, List.prefix_rfl, [], (List.append_nil _).symm, by simp⟩
  · exact ⟨rfl, rfl, rfl, rfl, List.prefix_append _ _, [], (List.append_nil _).symm, by simp⟩

theorem link_enrolls (pid : PupilId) (subjectId : Int) : (link pid subjectId).Moves (Enrolls pid) := by
  intro s
  unfold link
  split
  · exact refl_of (Enrolls pid) s
  · split
    · exact ⟨rfl, rfl, rfl, rfl, List.prefix_rfl, [⟨pid, subjectId⟩], rfl, by simp⟩
    · exact refl_of (Enrolls pid) s

/-- Enrolling leads where storing subjects and linking them leads. -/
theorem enroll_moves {R : Store → Store → Prop} [IsPreorder Store R]
    (inserts : ∀ code name s, R s (insertSubject code name s)) (links : ∀ id, (link pid id).Moves R)
    (subject : Subject) : (enroll pid subject).Moves R := by
  unfold enroll
  refine .bind ?_ fun stored => ?_
  · unfold upsertSubject
    split
    · exact .fail _
    · exact .bind (inserts subject.code subject.name) fun _ => .reading _
  · cases stored.id with
    | none => exact .pure ()
    | some id => exact .bind (links id) fun _ => .pure ()

theorem enroll_enrolls (pid : PupilId) (subject : Subject) : (enroll pid subject).Moves (Enrolls pid) :=
  enroll_moves (insertSubject_enrolls pid) (link_enrolls pid) subject

theorem enrollEach_enrolls (pid : PupilId) (subjects : List Subject) :
    (forEach (enroll pid) subjects).Moves (Enrolls pid) :=
  .forEach subjects fun subject _ => enroll_enrolls pid subject

theorem enrollEach_frame (pid : PupilId) (subjects : List Subject) :
    (forEach (enroll pid) subjects).Moves (Frame pid) :=
  (enrollEach_enrolls pid subjects).mono fun _ _ h => h.frame

theorem enrollEach_keeps (pid : PupilId) (subjects : List Subject) :
    (forEach (enroll pid) subjects).Moves (Keeps other) :=
  (enrollEach_enrolls pid subjects).mono fun _ _ h => h.keeps other

theorem insertStudent_frame (pid : PupilId) (name : String) (year : Option Int) (attends : Bool) :
    (insertStudent pid name year attends).Moves (Frame pid) := by
  intro s
  unfold insertStudent
  split
  · exact refl_of (Frame pid) s
  · split
    · exact refl_of (Frame pid) s
    · exact ⟨filter_placeStudent _ _ _ (by simp), rfl, rfl, List.prefix_rfl⟩

theorem insertStudent_keeps (pid : PupilId) (name : String) (year : Option Int) (attends : Bool) :
    (insertStudent pid name year attends).Moves (Keeps other) := by
  intro s
  unfold insertStudent
  split
  · exact refl_of (Keeps other) s
  · split
    · exact refl_of (Keeps other) s
    · refine ⟨?_, fun _ hl _ => hl, fun _ hm _ => hm, List.Subset.refl _⟩
      intro row hrow hpid
      exact ⟨row, mem_placeStudent.mpr (Or.inr hrow), hpid, rfl, rfl⟩

/-- A change that only touches what a filter drops does not show in what the filter leaves. -/
theorem filter_map_of_dropped {α : Type} {change : α → α} {p : α → Bool} (xs : List α)
    (same : ∀ x, p (change x) = p x) (untouched : ∀ x, p x = true → change x = x) :
    (xs.map change).filter p = xs.filter p := by
  induction xs with
  | nil => rfl
  | cons x rest ih =>
      rw [List.map_cons, List.filter_cons, List.filter_cons, same, ih]
      split
      · next hx => rw [untouched x hx]
      · rfl

theorem overwriteStudent_frame (pid : PupilId) (year : Option Int) (attends : Bool) :
    (overwriteStudent pid year attends).Moves (Frame pid) := by
  intro s
  refine ⟨?_, rfl, rfl, List.prefix_rfl⟩
  apply filter_map_of_dropped
  · intro row
    split <;> rfl
  · intro row hne
    exact if_neg (by simpa using hne)

theorem overwriteStudent_keeps (pid : PupilId) (year : Option Int) (attends : Bool) :
    (overwriteStudent pid year attends).Moves (Keeps other) := by
  intro s
  refine ⟨?_, fun _ hl _ => hl, fun _ hm _ => hm, List.Subset.refl _⟩
  intro row hrow hpid
  refine ⟨_, List.mem_map_of_mem hrow, ?_⟩
  split
  · exact ⟨hpid, rfl, rfl⟩
  · exact ⟨hpid, rfl, rfl⟩

theorem createStudent_moves {R : Store → Store → Prop} [IsPreorder Store R] {student : Student}
    (inserts : ∀ name year attends, (insertStudent student.pid name year attends).Moves R)
    (enrolls : (forEach (enroll student.pid) student.subjects).Moves R) : (createStudent student).Moves R := by
  unfold createStudent
  refine .bind (checkStudent_moves student) fun _ => ?_
  refine .bind (inserts _ _ _) fun _ => ?_
  refine .bind enrolls fun _ => ?_
  exact .reading _

theorem updateStudent_moves {R : Store → Store → Prop} [IsPreorder Store R] {prev next : Student}
    (enrolls : ∀ subjects, (forEach (enroll prev.pid) subjects).Moves R)
    (overwrites : ∀ year attends, (overwriteStudent prev.pid year attends).Moves R) :
    (updateStudent prev next).Moves R := by
  unfold updateStudent
  refine .bind (checkStudent_moves next) fun _ => ?_
  refine .bind (enrolls _) fun _ => ?_
  split
  · exact .pure false
  · exact .bind (overwrites _ _) fun _ => .pure true

theorem createStudent_frame (student : Student) : (createStudent student).Moves (Frame student.pid) :=
  createStudent_moves (insertStudent_frame student.pid) (enrollEach_frame student.pid student.subjects)

theorem createStudent_keeps (student : Student) : (createStudent student).Moves (Keeps other) :=
  createStudent_moves (insertStudent_keeps student.pid) (enrollEach_keeps student.pid student.subjects)

theorem updateStudent_frame (prev next : Student) : (updateStudent prev next).Moves (Frame prev.pid) :=
  updateStudent_moves (enrollEach_frame prev.pid) (overwriteStudent_frame prev.pid)

theorem updateStudent_keeps (prev next : Student) : (updateStudent prev next).Moves (Keeps other) :=
  updateStudent_moves (enrollEach_keeps prev.pid) (overwriteStudent_keeps prev.pid)

theorem deleteStudent_frame (pid : PupilId) : (deleteStudent pid).Moves (Frame pid) := by
  intro s
  unfold deleteStudent
  split
  · refine ⟨?_, ?_, ?_, List.prefix_rfl⟩
    all_goals rw [List.filter_filter, List.filter_congr fun _ _ => Bool.and_self _]
  · exact refl_of (Frame pid) s

end Gradebook.Store
