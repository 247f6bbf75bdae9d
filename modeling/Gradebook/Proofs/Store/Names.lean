import Gradebook.Proofs.Store.Coverage
import Gradebook.Proofs.Store.Selection

/-! The names of stored subjects. A student's subjects are stored by their codes, each under the name that came with
its code first, and a mark finds its subject by name. Storing a student adds the first subject of each code that the
store lacks, and a mark can be added where its name is the name of any stored subject. -/

namespace Gradebook

def Subject.label (subject : Subject) : String × String := (subject.code, subject.name)

/-- A mark breaks no rule if it is new, of a full period and named. -/
theorem Mark.validate_eq_ok {mark : Mark} : mark.validate = .ok () ↔
    mark.id = none ∧ mark.period.isFull = true ∧ Text.isBlankText mark.subject.name = false := by
  unfold Mark.validate
  cases mark.id <;> cases mark.period.isFull <;> cases Text.isBlankText mark.subject.name <;> simp

/-- A full period has a term and a column. -/
theorem Period.exists_of_isFull {p : Period} (full : p.isFull = true) :
    ∃ term column, p.term = some term ∧ p.column = some column := by
  unfold Period.isFull at full
  rw [Bool.and_eq_true, Option.isSome_iff_exists, Option.isSome_iff_exists] at full
  obtain ⟨⟨term, hterm⟩, column, hcolumn⟩ := full
  exact ⟨term, column, hterm, hcolumn⟩

def StoredSubject.label (row : StoredSubject) : String × String := (row.code, row.name)

namespace Store

open Attempt

variable {s t u : Store} {pid : PupilId} {subject : Subject} {subjects : List Subject} {known more : List String}
variable {student stored prev next : Student} {mark : Mark}

/-! ### Codes that are new -/

theorem newCodes_congr (same : ∀ code, code ∈ known ↔ code ∈ more) (subjects : List Subject) :
    newCodes known subjects = newCodes more subjects := by
  induction subjects generalizing known more with
  | nil => rfl
  | cons first rest ih =>
      have further (code : String) : code ∈ first.code :: known ↔ code ∈ first.code :: more := by
        rw [List.mem_cons, List.mem_cons, same]
      unfold newCodes
      simp only [same, ih same, ih further]

/-- Codes that were new to fewer codes are new to more of them just the same. -/
theorem newCodes_newCodes (within : known ⊆ more) (subjects : List Subject) :
    newCodes more (newCodes known subjects) = newCodes more subjects := by
  induction subjects generalizing known more with
  | nil => rfl
  | cons first rest ih =>
      by_cases old : first.code ∈ known
      · rw [newCodes, if_pos old, ih within, newCodes.eq_2, if_pos (within old)]
      · rw [newCodes, if_neg old, newCodes.eq_2, newCodes.eq_2]
        by_cases seen : first.code ∈ more
        · rw [if_pos seen, if_pos seen, ih (List.cons_subset.mpr ⟨seen, within⟩)]
        · rw [if_neg seen, if_neg seen, ih (List.cons_subset_cons _ within)]

/-- The first subject adds its code or nothing, and the rest adds what is new after that. -/
theorem newCodes_cons (known : List String) (first : Subject) (rest : List Subject) :
    newCodes known (first :: rest) =
      newCodes known [first] ++ newCodes (known ++ (newCodes known [first]).map (·.code)) rest := by
  rw [newCodes, newCodes, newCodes]
  by_cases old : first.code ∈ known
  · rw [if_pos old, if_pos old, List.map_nil, List.append_nil, List.nil_append]
  · have same (code : String) : code ∈ first.code :: known ↔ code ∈ known ++ [first.code] := by
      rw [List.mem_append, List.mem_singleton, List.mem_cons, or_comm]
    rw [if_neg old, if_neg old, newCodes_congr same]
    rfl

/-- What is new is the first of its code. -/
theorem find?_of_mem_newCodes (new : subject ∈ newCodes known subjects) :
    subject.code ∉ known ∧ subjects.find? (·.code == subject.code) = some subject := by
  induction subjects generalizing known with
  | nil => cases new
  | cons first rest ih =>
      have further (other : subject.code ≠ first.code)
          (found : rest.find? (·.code == subject.code) = some subject) :
          (first :: rest).find? (·.code == subject.code) = some subject := by
        rw [List.find?_cons_of_neg (by simpa using other.symm), found]
      rw [newCodes] at new
      split at new
      · next old =>
        obtain ⟨unknown, found⟩ := ih new
        exact ⟨unknown, further (fun same => unknown (same ▸ old)) found⟩
      · next unknown =>
        rcases List.mem_cons.mp new with rfl | new
        · exact ⟨unknown, List.find?_cons_of_pos (by simp)⟩
        · obtain ⟨apart, found⟩ := ih new
          obtain ⟨other, unknown⟩ := not_or.mp (mt List.mem_cons.mpr apart)
          exact ⟨unknown, further other found⟩

/-! ### What is stored under which name -/

/-- The codes of the stored subjects. -/
def storedCodes (s : Store) : List String := s.subjects.map (·.code)

/-- A store to which subjects were upserted: the first one of each code that it lacked. -/
def Learns (subjects : List Subject) (s t : Store) : Prop :=
  t.subjects.map (·.label) = s.subjects.map (·.label) ++ (newCodes s.storedCodes subjects).map (·.label)

theorem storedCodes_eq (s : Store) : s.storedCodes = (s.subjects.map (·.label)).map Prod.fst := by
  rw [storedCodes, List.map_map]
  rfl

theorem Learns.storedCodes (h : Learns subjects s t) :
    t.storedCodes = s.storedCodes ++ (newCodes s.storedCodes subjects).map (·.code) := by
  rw [storedCodes_eq t, h, List.map_append, ← storedCodes_eq, List.map_map]
  rfl

theorem Learns.none (same : t.subjects = s.subjects) : Learns [] s t := by
  unfold Learns newCodes
  rw [same, List.map_nil, List.append_nil]

/-- The known codes grow by those of the subjects. -/
theorem Learns.mem_storedCodes (h : Learns subjects s t) (code : String) :
    code ∈ t.storedCodes ↔ code ∈ s.storedCodes ∨ code ∈ subjects.map (·.code) := by
  rw [h.storedCodes, List.mem_append, mem_newCodes]
  tauto

/-- The names that a store has once it has learned some subjects. -/
theorem Learns.names (h : Learns subjects s t) :
    t.subjects.map (·.name) = s.subjects.map (·.name) ++ (newCodes s.storedCodes subjects).map (·.name) := by
  have snd := congrArg (List.map Prod.snd) h
  rwa [List.map_append, List.map_map, List.map_map, List.map_map] at snd

theorem insertSubject_learns (subject : Subject) (s : Store) :
    Learns [subject] s (s.insertSubject subject.code subject.name) := by
  have stored : (s.subjects.any (·.code == subject.code)) = true ↔ subject.code ∈ s.storedCodes := by
    rw [List.any_eq_true, storedCodes, List.mem_map]
    simp only [beq_iff_eq]
  unfold Learns insertSubject newCodes newCodes
  by_cases old : subject.code ∈ s.storedCodes
  · rw [if_pos (stored.mpr old), if_pos old, List.map_nil, List.append_nil]
  · rw [if_neg (mt stored.mp old), if_neg old, List.map_append]
    rfl

/-- Linking a student does not change what is stored of subjects. -/
theorem link_subjects (pid : PupilId) (subjectId : Int) (s : Store) :
    (link pid subjectId s).2.subjects = s.subjects := by
  unfold link
  split
  · rfl
  · split <;> rfl

theorem enroll_learns (enrolls : enroll pid subject s = (.ok (), t)) : Learns [subject] s t := by
  unfold enroll at enrolls
  obtain ⟨shown, u, upserts, enrolls⟩ := bind_eq_ok.mp enrolls
  unfold upsertSubject at upserts
  split at upserts
  · cases upserts
  · obtain ⟨_, _, inserts, reads⟩ := bind_eq_ok.mp upserts
    cases inserts
    rw [reading_apply, Prod.mk.injEq] at reads
    obtain ⟨-, rfl⟩ := reads
    cases hid : shown.id with
    | none =>
        rw [hid] at enrolls
        cases enrolls
        exact insertSubject_learns subject s
    | some id =>
        rw [hid] at enrolls
        obtain ⟨new, _, links, ends⟩ := bind_eq_ok.mp enrolls
        cases ends
        have same := link_subjects pid id (s.insertSubject subject.code subject.name)
        rw [links] at same
        unfold Learns
        rw [same]
        exact insertSubject_learns subject s

/-- What is learned of one subject after the other is what is learned of all of them. -/
theorem enrollEach_learns (enrolls : forEach (enroll pid) subjects s = (.ok (), t)) : Learns subjects s t := by
  induction subjects generalizing s with
  | nil =>
      cases enrolls
      exact (List.append_nil _).symm
  | cons first rest ih =>
      rw [forEach_cons] at enrolls
      obtain ⟨_, u, enrollsFirst, enrollsRest⟩ := bind_eq_ok.mp enrolls
      have one := enroll_learns enrollsFirst
      have others := ih enrollsRest
      unfold Learns at others ⊢
      rw [others, one.storedCodes, one, newCodes_cons _ first rest, List.map_append, List.append_assoc]

theorem insertStudent_subjects (pid : PupilId) (name : String) (year : Option Int) (attends : Bool) (s : Store) :
    (insertStudent pid name year attends s).2.subjects = s.subjects := by
  unfold insertStudent
  split
  · rfl
  · split <;> rfl

theorem createStudent_learns (creates : createStudent student s = (.ok stored, t)) : Learns student.subjects s t := by
  obtain ⟨valid, -, -⟩ := createStudent_covers creates
  unfold createStudent at creates
  rw [checkStudent_of_ok valid, pure_bind] at creates
  obtain ⟨_, u, inserts, creates⟩ := bind_eq_ok.mp creates
  obtain ⟨_, _, enrolls, reads⟩ := bind_eq_ok.mp creates
  rw [reading_apply, Prod.mk.injEq] at reads
  obtain ⟨-, rfl⟩ := reads
  have same := insertStudent_subjects student.pid student.name (student.currentYear.map Int32.toInt) student.attends s
  rw [inserts] at same
  have learns := enrollEach_learns enrolls
  unfold Learns storedCodes at learns ⊢
  rwa [same] at learns

/-- Subjects that the student takes already are stored, so that nothing is learned of them. -/
theorem updateStudent_learns {changed : Bool} (taken : prev.subjects.map (·.code) ⊆ s.storedCodes)
    (updates : updateStudent prev next s = (.ok changed, t)) : Learns next.subjects s t := by
  rw [updateStudent_of_valid (valid_of_updateStudent updates)] at updates
  obtain ⟨_, u, enrolls, updates⟩ := bind_eq_ok.mp updates
  have learns : Learns next.subjects s u := by
    have added := enrollEach_learns enrolls
    unfold Learns at added ⊢
    rwa [newCodes_newCodes taken] at added
  split at updates
  · cases updates
    exact learns
  · cases updates
    exact learns

theorem deleteStudent_subjects (deletes : deleteStudent pid s = (.ok (), t)) : t.subjects = s.subjects := by
  unfold deleteStudent at deletes
  split at deletes
  · cases deletes
    rfl
  · cases deletes

theorem codesOf_subset_storedCodes (pid : PupilId) (s : Store) : codesOf pid s ⊆ s.storedCodes := by
  intro code hcode
  obtain ⟨row, hrow, -, rfl⟩ := mem_codesOf.mp hcode
  exact List.mem_map_of_mem hrow

/-- A store to which the rows of some subjects were added where their codes were unknown. Rows that were there stay as
they are, and a row that is new has the name that came with its code first. -/
structure Acquires (asked : List Subject) (s t : Store) : Prop where
  stays : s.subjects <+: t.subjects
  once : t.storedCodes.Nodup
  known : ∀ subject ∈ asked, subject.code ∈ t.storedCodes
  named : ∀ row ∈ t.subjects, row ∈ s.subjects ∨ row.code ∉ s.storedCodes ∧
    ∃ first, asked.find? (·.code == row.code) = some first ∧ row.name = first.name

theorem Learns.acquires (learns : Learns subjects s t) (stays : s.subjects <+: t.subjects)
    (once : t.storedCodes.Nodup) : Acquires subjects s t where
  stays := stays
  once := once
  known subject hsubject := (learns.mem_storedCodes _).mpr (.inr (List.mem_map_of_mem hsubject))
  named row hrow := by
    obtain ⟨added, same⟩ := stays
    unfold Learns at learns
    rw [← same, List.map_append] at learns
    rw [← same] at hrow
    rcases List.mem_append.mp hrow with old | new
    · exact .inl old
    · have labelled : row.label ∈ (newCodes s.storedCodes subjects).map (·.label) :=
        List.append_cancel_left learns ▸ List.mem_map_of_mem new
      obtain ⟨first, hfirst, label⟩ := List.mem_map.mp labelled
      obtain ⟨code, name⟩ := Prod.mk.inj label
      obtain ⟨unknown, found⟩ := find?_of_mem_newCodes hfirst
      rw [code] at unknown found
      exact .inr ⟨unknown, first, found, name.symm⟩

/-! ### Marks under stored names -/

/-- The names of the stored subjects. -/
def subjectNames (s : Store) : List String := s.subjects.map (·.name)

def noSubjectNamed (name : String) : Error := .notFound ("subject named " ++ Text.quoted name)

/-- A subject is found by any stored name and by no other. -/
theorem subjectByName_cases (name : String) (s : Store) :
    (∃ row ∈ s.subjects, row.name = name ∧ subjectByName name s = .ok row.toSubject) ∨
      (name ∉ s.subjectNames ∧ subjectByName name s = .error (noSubjectNamed name)) := by
  unfold subjectByName
  cases found : s.subjects.find? (·.name == name) with
  | some row => exact .inl ⟨row, List.mem_of_find?_eq_some found, by simpa using List.find?_some found, rfl⟩
  | none =>
      refine .inr ⟨?_, rfl⟩
      rw [List.find?_eq_none] at found
      rintro stored
      obtain ⟨row, hrow, hname⟩ := List.mem_map.mp stored
      exact found row hrow (beq_iff_eq.mpr hname)

theorem markedNames_subset_subjectNames (pid : PupilId) (p : Period) (s : Store) :
    markedNames pid p s ⊆ s.subjectNames := by
  intro name hname
  obtain ⟨_, -, subject, found, -, -, rfl⟩ := mem_markedNames.mp hname
  exact List.mem_map_of_mem (List.mem_of_find?_eq_some found)

/-- A new mark of a stored pupil and a stored subject is stored as one row more, and given as it then reads. -/
theorem Sound.createMark_ok (h : s.Sound) (valid : mark.validate = .ok ()) (known : s.hasStudent mark.pid = true)
    {subject : StoredSubject} (hsubject : subject ∈ s.subjects) (hid : mark.subject.id = some subject.id) :
    let given := { mark with
      id := some (s.lastMarkId + 1), subject := subject.toSubject, createdAt := some s.clock }
    ∃ row t, createMark mark s = (.ok given, t) ∧ Adds [row] s t ∧ t.Sound ∧ row.id = s.lastMarkId + 1 ∧
      row.pid = mark.pid ∧ row.subjectId = subject.id ∧ row.Describes subject given := by
  intro given
  obtain ⟨-, full, -⟩ := Mark.validate_eq_ok.mp valid
  obtain ⟨term, column, hterm, hcolumn⟩ := Period.exists_of_isFull full
  have stored : s.hasSubject subject.id = true := hasSubject_iff.mpr ⟨subject, hsubject, rfl⟩
  let row : StoredMark := ⟨s.lastMarkId + 1, mark.pid, subject.id, mark.teacher, mark.percentage.value,
    mark.period.academicYear.toInt, term.word, column, s.clock⟩
  let t : Store := { s with marks := s.marks ++ [row], lastMarkId := s.lastMarkId + 1, clock := s.clock.next }
  have inserts : insertMark mark.pid subject.id mark.teacher mark.percentage mark.period.academicYear term column s =
      (.ok row.id, t) := by
    unfold insertMark
    rw [known, stored]
    rfl
  have does : createMark mark s = (findMark row.id t, t) := by
    unfold createMark
    simp only [valid, hid, hterm, hcolumn]
    exact bind_of_ok inserts
  have sound : t.Sound := (createMark_sound mark).leads does h
  have describes : row.Describes subject given := by
    refine ⟨mark.percentage, mark.period.academicYear, term, rfl, rfl, rfl, ?_⟩
    have period : mark.period = .full mark.period.academicYear term column := by
      rw [Period.full, ← hterm, ← hcolumn]
    show { mark with id := _, subject := _, createdAt := _ } = _
    rw [← period]
    rfl
  have stays : row ∈ t.marks := List.mem_append_right s.marks List.mem_cons_self
  have found : findMark row.id t = .ok given :=
    Sound.findMark_eq_ok sound |>.mpr ⟨⟨row, stays, subject, hsubject, rfl, describes⟩, rfl⟩
  exact ⟨row, t, by rw [does, found], insertMark_ok inserts, sound, rfl, rfl, rfl, describes⟩

/-- A new mark of a stored pupil is stored just under a name that a subject has. -/
theorem Sound.storeMark_cases (h : s.Sound) (valid : mark.validate = .ok ()) (known : s.hasStudent mark.pid = true) :
    (mark.subject.name ∈ s.subjectNames ∧ ∃ t, storeMark mark s = (.ok (), t)) ∨
      (mark.subject.name ∉ s.subjectNames ∧ storeMark mark s = (.error (noSubjectNamed mark.subject.name), s)) := by
  unfold storeMark
  rcases subjectByName_cases mark.subject.name s with ⟨row, hrow, hname, found⟩ | ⟨unknown, missing⟩
  · obtain ⟨new, full, named⟩ := Mark.validate_eq_ok.mp valid
    rw [← hname] at named
    have still : Mark.validate { mark with subject := row.toSubject } = .ok () :=
      Mark.validate_eq_ok.mpr ⟨new, full, named⟩
    obtain ⟨-, t, creates, -⟩ := h.createMark_ok still known hrow rfl
    refine .inl ⟨hname ▸ List.mem_map_of_mem hrow, t, ?_⟩
    rw [bind_of_ok (by rw [reading_apply, found]), bind_of_ok creates]
    rfl
  · exact .inr ⟨unknown, bind_of_error (by rw [reading_apply, missing])⟩

/-- New marks of a stored pupil are stored as long as subjects have their names; the first other name ends it. -/
theorem Sound.storeEach_cases {marks : List Mark} (h : s.Sound) (known : s.hasStudent pid = true)
    (new : ∀ mark ∈ marks, mark.pid = pid ∧ mark.validate = .ok ()) :
    ((∀ mark ∈ marks, mark.subject.name ∈ s.subjectNames) ∧ ∃ t, forEach storeMark marks s = (.ok (), t)) ∨
      ∃ mark ∈ marks, mark.subject.name ∉ s.subjectNames ∧
        ∃ t, forEach storeMark marks s = (.error (noSubjectNamed mark.subject.name), t) := by
  induction marks generalizing s with
  | nil => exact .inl ⟨nofun, s, rfl⟩
  | cons mark rest ih =>
      obtain ⟨⟨rfl, valid⟩, newRest⟩ := List.forall_mem_cons.mp new
      rw [forEach_cons, List.forall_mem_cons]
      rcases h.storeMark_cases valid known with ⟨named, u, stores⟩ | ⟨unnamed, refuses⟩
      · rw [bind_of_ok stores]
        obtain ⟨row, adds, -⟩ := storeMark_ok h.subjects stores
        have sound : u.Sound := (storeMark_sound mark).leads stores h
        have still : u.hasStudent mark.pid = true := by rwa [hasStudent, adds.students]
        have same : u.subjectNames = s.subjectNames := by rw [subjectNames, adds.subjects, subjectNames]
        rcases ih sound still newRest with ⟨all, ends⟩ | ⟨other, hother, unnamed, fails⟩
        · exact .inl ⟨⟨named, same ▸ all⟩, ends⟩
        · exact .inr ⟨other, List.mem_cons_of_mem _ hother, same ▸ unnamed, fails⟩
      · exact .inr ⟨mark, List.mem_cons_self, unnamed, s, bind_of_error refuses⟩

end Store

end Gradebook
