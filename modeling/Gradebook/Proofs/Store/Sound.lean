import Gradebook.Proofs.Attempt
import Gradebook.Store.Marks

/-! Sound stores. Rows keep the rules of what they hold, keys are unique and in order, links and marks join rows
that exist, and no id lies beyond its counter. Every operation keeps a store sound, whatever it is asked and
also where it fails midway, so every store that operations build is sound. -/

namespace Gradebook

/-- A student's row as the rules for students want it. -/
structure StoredStudent.Sound (row : StoredStudent) : Prop where
  pid : 0 < row.pid.toInt
  name : Text.isBlankText row.name = false
  year : ∃ year : Option Int32, row.currentYear = year.map Int32.toInt ∧ year.isSome = row.attends

/-- A mark's row whose numbers and words are those of a mark. -/
structure StoredMark.Sound (row : StoredMark) : Prop where
  percentage : ∃ percentage : Percentage, row.percentage = percentage.value
  year : ∃ year : Year, row.academicYear = year.toInt
  term : ∃ term : Term, row.term = term.word

theorem Student.sound_of_validate {student : Student} (h : student.validate = .ok ()) (clock : Timestamp) :
    StoredStudent.Sound ⟨student.pid, student.name, student.currentYear.map Int32.toInt, student.attends,
      clock, clock⟩ := by
  unfold Student.validate at h
  split at h
  · cases h
  · next hpid =>
    split at h
    · cases h
    · next hname =>
      refine ⟨by simp only; omega, by simpa using hname, student.currentYear, rfl, ?_⟩
      cases hyear : student.currentYear <;> cases hattends : student.attends <;> simp [hyear, hattends] at h ⊢

namespace Store

/-- A store in which every row keeps its rules, keys are unique and in order, and references hold. -/
structure Sound (s : Store) : Prop where
  students : s.students.Pairwise fun a b => a.pid.toInt < b.pid.toInt
  studentRows : ∀ row ∈ s.students, row.Sound
  subjects : s.subjects.Pairwise fun a b => a.id < b.id
  codes : (s.subjects.map (·.code)).Nodup
  subjectRows : ∀ row ∈ s.subjects, 0 < row.id ∧ row.id ≤ s.lastSubjectId ∧ row.code ≠ ""
  links : s.links.Nodup
  linkRows : ∀ l ∈ s.links, s.hasStudent l.pid = true ∧ s.hasSubject l.subjectId = true
  marks : s.marks.Pairwise fun a b => a.id < b.id
  markRows : ∀ row ∈ s.marks, row.Sound ∧ 0 < row.id ∧ row.id ≤ s.lastMarkId
  markReferences : ∀ row ∈ s.marks, s.hasStudent row.pid = true ∧ s.hasSubject row.subjectId = true
  subjectCounter : 0 ≤ s.lastSubjectId
  markCounter : 0 ≤ s.lastMarkId

variable {s : Store} {pid other : PupilId} {id : Int}

theorem hasStudent_iff : s.hasStudent pid = true ↔ ∃ row ∈ s.students, row.pid = pid := by
  simp [hasStudent]

theorem hasSubject_iff : s.hasSubject id = true ↔ ∃ row ∈ s.subjects, row.id = id := by
  simp [hasSubject]

/-! ### Rows in their place -/

theorem mem_placeStudent {row x : StoredStudent} {rows : List StoredStudent} :
    x ∈ placeStudent row rows ↔ x = row ∨ x ∈ rows := by
  induction rows with
  | nil => simp [placeStudent]
  | cons r rest ih =>
      unfold placeStudent
      split
      · simp
      · rw [List.mem_cons, ih, List.mem_cons]
        exact or_left_comm

theorem placeStudent_pairwise {row : StoredStudent} {rows : List StoredStudent}
    (h : rows.Pairwise fun a b => a.pid.toInt < b.pid.toInt) (fresh : ∀ r ∈ rows, r.pid ≠ row.pid) :
    (placeStudent row rows).Pairwise fun a b => a.pid.toInt < b.pid.toInt := by
  induction rows with
  | nil => exact List.pairwise_singleton _ _
  | cons r rest ih =>
      obtain ⟨hfirst, hrest⟩ := List.pairwise_cons.mp h
      have hne : r.pid.toInt ≠ row.pid.toInt := fun heq => fresh r List.mem_cons_self (Int64.toInt_inj.mp heq)
      unfold placeStudent
      split
      · next hlt =>
        refine List.pairwise_cons.mpr ⟨?_, h⟩
        intro x hx
        rcases List.mem_cons.mp hx with rfl | hx
        · exact hlt
        · have := hfirst x hx
          omega
      · refine List.pairwise_cons.mpr ⟨?_, ih hrest fun x hx => fresh x (List.mem_cons_of_mem _ hx)⟩
        intro x hx
        rcases mem_placeStudent.mp hx with rfl | hx
        · omega
        · exact hfirst x hx

/-- Rows of other students stay where they are, in their order. -/
theorem filter_placeStudent (row : StoredStudent) (rows : List StoredStudent) (p : StoredStudent → Bool)
    (h : p row = false) : (placeStudent row rows).filter p = rows.filter p := by
  induction rows with
  | nil => simp [placeStudent, h]
  | cons r rest ih =>
      unfold placeStudent
      split
      · rw [List.filter_cons_of_neg (by simp [h])]
      · rw [List.filter_cons, List.filter_cons, ih]

/-! ### Changes of a table that keep the store sound -/

theorem hasSubject_of_subset {t : Store} (h : s.subjects ⊆ t.subjects) (known : s.hasSubject id = true) :
    t.hasSubject id = true := by
  obtain ⟨row, hrow, hid⟩ := hasSubject_iff.mp known
  exact hasSubject_iff.mpr ⟨row, h hrow, hid⟩

namespace Sound

theorem empty (clock : Timestamp) : Sound { clock } := by
  constructor <;> simp

theorem tick (h : s.Sound) (clock : Timestamp) : Sound { s with clock } :=
  ⟨h.students, h.studentRows, h.subjects, h.codes, h.subjectRows, h.links, h.linkRows, h.marks, h.markRows,
    h.markReferences, h.subjectCounter, h.markCounter⟩

/-- References hold as long as every student stays. -/
theorem withStudents (h : s.Sound) {rows : List StoredStudent}
    (sorted : rows.Pairwise fun a b => a.pid.toInt < b.pid.toInt) (sound : ∀ row ∈ rows, row.Sound)
    (stay : ∀ row ∈ s.students, ∃ r ∈ rows, r.pid = row.pid) : Sound { s with students := rows } := by
  have kept (pid : PupilId) (known : s.hasStudent pid = true) :
      hasStudent { s with students := rows } pid = true := by
    obtain ⟨row, hrow, rfl⟩ := hasStudent_iff.mp known
    exact hasStudent_iff.mpr (stay row hrow)
  refine { h with students := sorted, studentRows := sound, linkRows := ?_, markReferences := ?_ }
  · intro l hl
    exact ⟨kept l.pid (h.linkRows l hl).1, (h.linkRows l hl).2⟩
  · intro m hm
    exact ⟨kept m.pid (h.markReferences m hm).1, (h.markReferences m hm).2⟩

theorem addStudent (h : s.Sound) {row : StoredStudent} (hrow : row.Sound)
    (fresh : s.hasStudent row.pid = false) : Sound { s with students := placeStudent row s.students } := by
  apply h.withStudents
  · apply placeStudent_pairwise h.students
    intro r hr heq
    rw [Bool.eq_false_iff] at fresh
    exact fresh (hasStudent_iff.mpr ⟨r, hr, heq⟩)
  · intro r hr
    rcases mem_placeStudent.mp hr with rfl | hr
    · exact hrow
    · exact h.studentRows r hr
  · intro r hr
    exact ⟨r, mem_placeStudent.mpr (Or.inr hr), rfl⟩

theorem changeStudents (h : s.Sound) {change : StoredStudent → StoredStudent}
    (samePid : ∀ row, (change row).pid = row.pid) (sound : ∀ row, row.Sound → (change row).Sound) :
    Sound { s with students := s.students.map change } := by
  apply h.withStudents
  · rw [List.pairwise_map]
    apply h.students.imp
    intro a b hab
    rwa [samePid, samePid]
  · intro r hr
    obtain ⟨row, hrow, rfl⟩ := List.mem_map.mp hr
    exact sound row (h.studentRows row hrow)
  · intro r hr
    exact ⟨change r, List.mem_map_of_mem hr, samePid r⟩

/-- A student's row, links and marks go together. -/
theorem removeStudent (h : s.Sound) (pid : PupilId) :
    Sound { s with
      students := s.students.filter (·.pid != pid)
      links := s.links.filter (·.pid != pid)
      marks := s.marks.filter (·.pid != pid) } := by
  have kept (other : PupilId) (hne : other ≠ pid) (known : s.hasStudent other = true) :
      hasStudent { s with
        students := s.students.filter (·.pid != pid)
        links := s.links.filter (·.pid != pid)
        marks := s.marks.filter (·.pid != pid) } other = true := by
    obtain ⟨row, hrow, rfl⟩ := hasStudent_iff.mp known
    exact hasStudent_iff.mpr ⟨row, List.mem_filter.mpr ⟨hrow, by simpa using hne⟩, rfl⟩
  refine { h with
    students := h.students.filter _, links := h.links.filter _, marks := h.marks.filter _
    studentRows := ?_, linkRows := ?_, markRows := ?_, markReferences := ?_ }
  · intro r hr
    exact h.studentRows r (List.mem_filter.mp hr).1
  · intro l hl
    obtain ⟨hl, hne⟩ := List.mem_filter.mp hl
    exact ⟨kept l.pid (by simpa using hne) (h.linkRows l hl).1, (h.linkRows l hl).2⟩
  · intro m hm
    exact h.markRows m (List.mem_filter.mp hm).1
  · intro m hm
    obtain ⟨hm, hne⟩ := List.mem_filter.mp hm
    exact ⟨kept m.pid (by simpa using hne) (h.markReferences m hm).1, (h.markReferences m hm).2⟩

theorem addLink (h : s.Sound) {l : Link} (new : l ∉ s.links) (student : s.hasStudent l.pid = true)
    (subject : s.hasSubject l.subjectId = true) : Sound { s with links := s.links ++ [l] } := by
  refine { h with links := ?_, linkRows := ?_ }
  · exact List.nodup_append.mpr ⟨h.links, List.pairwise_singleton _ _, fun a ha b hb => by
      rw [List.mem_singleton.mp hb]
      exact fun heq => new (heq ▸ ha)⟩
  · intro k hk
    rcases List.mem_append.mp hk with hk | hk
    · exact h.linkRows k hk
    · rw [List.mem_singleton.mp hk]
      exact ⟨student, subject⟩

theorem addMark (h : s.Sound) {row : StoredMark} (hrow : row.Sound) (next : row.id = s.lastMarkId + 1)
    (student : s.hasStudent row.pid = true) (subject : s.hasSubject row.subjectId = true) :
    Sound { s with marks := s.marks ++ [row], lastMarkId := s.lastMarkId + 1 } := by
  have counter := h.markCounter
  refine { h with marks := ?_, markRows := ?_, markReferences := ?_, markCounter := by simp only; omega }
  · refine List.pairwise_append.mpr ⟨h.marks, List.pairwise_singleton _ _, ?_⟩
    intro a ha b hb
    have := (h.markRows a ha).2.2
    rw [List.mem_singleton.mp hb]
    omega
  · intro m hm
    rcases List.mem_append.mp hm with hm | hm
    · obtain ⟨hsound, hpos, hle⟩ := h.markRows m hm
      exact ⟨hsound, hpos, by simp only; omega⟩
    · rw [List.mem_singleton.mp hm]
      exact ⟨hrow, by omega, by simp only; omega⟩
  · intro m hm
    rcases List.mem_append.mp hm with hm | hm
    · exact h.markReferences m hm
    · rw [List.mem_singleton.mp hm]
      exact ⟨student, subject⟩

theorem filterMarks (h : s.Sound) (p : StoredMark → Bool) : Sound { s with marks := s.marks.filter p } := by
  refine { h with marks := h.marks.filter p, markRows := ?_, markReferences := ?_ }
  · intro m hm
    exact h.markRows m (List.mem_filter.mp hm).1
  · intro m hm
    exact h.markReferences m (List.mem_filter.mp hm).1

theorem skipSubjectId (h : s.Sound) : Sound { s with lastSubjectId := s.lastSubjectId + 1 } := by
  have counter := h.subjectCounter
  refine { h with subjectRows := ?_, subjectCounter := by simp only; omega }
  intro row hrow
  obtain ⟨hpos, hle, hne⟩ := h.subjectRows row hrow
  exact ⟨hpos, by simp only; omega, hne⟩

theorem addSubject (h : s.Sound) {row : StoredSubject} (next : row.id = s.lastSubjectId + 1)
    (coded : row.code ≠ "") (new : row.code ∉ s.subjects.map (·.code)) :
    Sound { s with subjects := s.subjects ++ [row], lastSubjectId := s.lastSubjectId + 1 } := by
  have counter := h.subjectCounter
  have kept (id : Int) (known : s.hasSubject id = true) :
      hasSubject { s with
        subjects := s.subjects ++ [row], lastSubjectId := s.lastSubjectId + 1 } id = true :=
    hasSubject_of_subset (List.subset_append_left _ _) known
  refine { h with
    subjects := ?_, codes := ?_, subjectRows := ?_, linkRows := ?_, markReferences := ?_
    subjectCounter := by simp only; omega }
  · refine List.pairwise_append.mpr ⟨h.subjects, List.pairwise_singleton _ _, ?_⟩
    intro a ha b hb
    have := (h.subjectRows a ha).2.1
    rw [List.mem_singleton.mp hb]
    omega
  · rw [List.map_append]
    refine List.nodup_append.mpr ⟨h.codes, List.pairwise_singleton _ _, ?_⟩
    intro a ha b hb heq
    rw [heq, List.mem_singleton.mp hb] at ha
    exact new ha
  · intro r hr
    rcases List.mem_append.mp hr with hr | hr
    · obtain ⟨hpos, hle, hne⟩ := h.subjectRows r hr
      exact ⟨hpos, by simp only; omega, hne⟩
    · rw [List.mem_singleton.mp hr]
      exact ⟨by omega, by simp only; omega, coded⟩
  · intro l hl
    exact ⟨(h.linkRows l hl).1, kept l.subjectId (h.linkRows l hl).2⟩
  · intro m hm
    exact ⟨(h.markReferences m hm).1, kept m.subjectId (h.markReferences m hm).2⟩

theorem insertSubject (h : s.Sound) {code : String} (coded : code ≠ "") (name : String) :
    Sound (s.insertSubject code name) := by
  unfold Store.insertSubject
  split
  · exact h.skipSubjectId
  · next hnew =>
    apply h.addSubject rfl coded
    simpa using hnew

end Sound

end Store

end Gradebook
