import Gradebook.Proofs.Store.Frame

/-! Links that join what exists. Subjects have ids in order, none beyond the counter, and every link is to a subject
that is stored. This much any store of these tables has, sound or not, and operations on students keep it. It makes
sure that a subject which is added is nobody's yet. -/

namespace Gradebook.Store

open Attempt

/-- A store whose subjects are in order and whose links are to stored subjects. -/
structure References (s : Store) : Prop where
  subjects : s.subjects.Pairwise fun a b => a.id < b.id
  counter : ∀ row ∈ s.subjects, row.id ≤ s.lastSubjectId
  links : ∀ l ∈ s.links, s.hasSubject l.subjectId = true

variable {s t : Store} {pid other : PupilId}

theorem Sound.references (h : s.Sound) : s.References :=
  ⟨h.subjects, fun row hrow => (h.subjectRows row hrow).2.1, fun l hl => (h.linkRows l hl).2⟩

/-- Subjects that were added are not taken by whoever has no new links. -/
theorem References.subjectsOf_eq (h : s.References) (grows : s.subjects <+: t.subjects)
    (ordered : t.subjects.Pairwise fun a b => a.id < b.id)
    (same : ∀ id, (⟨pid, id⟩ : Link) ∈ t.links ↔ (⟨pid, id⟩ : Link) ∈ s.links) :
    subjectsOf pid t = subjectsOf pid s := by
  obtain ⟨added, hadded⟩ := grows
  rw [← hadded] at ordered
  have linked (row : StoredSubject) : t.links.contains ⟨pid, row.id⟩ = s.links.contains ⟨pid, row.id⟩ := by
    rw [Bool.eq_iff_iff, List.contains_iff_mem, List.contains_iff_mem, same]
  have nobody : added.filter (fun row => s.links.contains ⟨pid, row.id⟩) = [] := by
    rw [List.filter_eq_nil_iff]
    intro row hrow taken
    obtain ⟨first, hfirst, hid⟩ := hasSubject_iff.mp (h.links _ (List.contains_iff_mem.mp taken))
    have := (List.pairwise_append.mp ordered).2.2 first hfirst row hrow
    simp only at hid
    omega
  unfold subjectsOf
  simp only [linked]
  rw [← hadded, List.filter_append, nobody, List.append_nil]

/-- Work about somebody else leaves what a student takes as it is. -/
theorem Frame.subjectsOf_eq (h : Frame other s t) (hne : pid ≠ other) (references : s.References)
    (ordered : t.subjects.Pairwise fun a b => a.id < b.id) : subjectsOf pid t = subjectsOf pid s := by
  apply references.subjectsOf_eq h.subjects ordered
  intro id
  have away : ((⟨pid, id⟩ : Link).pid != other) = true := by simpa using hne
  have apart (links : List Link) :
      (⟨pid, id⟩ : Link) ∈ links ↔ (⟨pid, id⟩ : Link) ∈ links.filter (·.pid != other) := by
    rw [List.mem_filter, away, and_iff_left rfl]
  rw [apart t.links, h.links, ← apart]

/-! ### Operations keep references -/

theorem References.insertSubject (h : s.References) (code name : String) : References (s.insertSubject code name) := by
  unfold Store.insertSubject
  split
  · refine ⟨h.subjects, ?_, h.links⟩
    intro row hrow
    exact Int.le_trans (h.counter row hrow) (Int.le_of_lt (Int.lt_succ _))
  · refine ⟨List.pairwise_append.mpr ⟨h.subjects, List.pairwise_singleton _ _, ?_⟩, ?_, ?_⟩
    · intro a ha b hb
      rw [List.mem_singleton.mp hb]
      exact Int.lt_add_one_of_le (h.counter a ha)
    · intro row hrow
      rcases List.mem_append.mp hrow with hrow | hrow
      · exact Int.le_trans (h.counter row hrow) (Int.le_of_lt (Int.lt_succ _))
      · obtain rfl := List.mem_singleton.mp hrow
        exact Int.le_refl _
    · intro l hl
      exact hasSubject_of_subset (List.subset_append_left _ _) (h.links l hl)

theorem link_references (pid : PupilId) (subjectId : Int) : (link pid subjectId).Moves (Upholds References) := by
  intro s h
  unfold link
  split
  · exact h
  · split
    · next known =>
      rw [Bool.and_eq_true] at known
      refine ⟨h.subjects, h.counter, ?_⟩
      intro l hl
      rcases List.mem_append.mp hl with hl | hl
      · exact h.links l hl
      · rw [List.mem_singleton.mp hl]
        exact known.2
    · exact h

theorem enroll_references (pid : PupilId) (subject : Subject) : (enroll pid subject).Moves (Upholds References) :=
  enroll_moves (fun code name _ h => h.insertSubject code name) (link_references pid) subject

theorem enrollEach_references (pid : PupilId) (subjects : List Subject) :
    (forEach (enroll pid) subjects).Moves (Upholds References) :=
  .forEach subjects fun subject _ => enroll_references pid subject

/-- Work on students alone keeps references. -/
theorem References.withStudents (h : s.References) (students : List StoredStudent) (clock : Timestamp) :
    References { s with students, clock } := ⟨h.subjects, h.counter, h.links⟩

theorem createStudent_references (student : Student) : (createStudent student).Moves (Upholds References) := by
  refine createStudent_moves (fun name year attends s h => ?_) (enrollEach_references student.pid student.subjects)
  unfold insertStudent
  split
  · exact h
  · split
    · exact h
    · exact h.withStudents _ _

theorem updateStudent_references (prev next : Student) : (updateStudent prev next).Moves (Upholds References) :=
  updateStudent_moves (enrollEach_references prev.pid) fun _ _ _ h => h.withStudents _ _

theorem deleteStudent_references (pid : PupilId) : (deleteStudent pid).Moves (Upholds References) := by
  intro s h
  unfold deleteStudent
  split
  · exact ⟨h.subjects, h.counter, fun l hl => h.links l (List.mem_filter.mp hl).1⟩
  · exact h

end Gradebook.Store
