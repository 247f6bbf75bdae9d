import Gradebook.Proofs.Store.References

/-! Enrolling a student in subjects. Where references hold, each subject with a code is stored and linked, so that the
linked codes grow by exactly the codes asked for; a subject without a code ends it. -/

namespace Gradebook.Store

open Attempt

/-- The codes of the subjects that a student takes. -/
def codesOf (pid : PupilId) (s : Store) : List String := (subjectsOf pid s).map (·.code)

variable {s t : Store} {pid : PupilId} {code : String} {subject : Subject} {subjects : List Subject}

theorem mem_codesOf :
    code ∈ codesOf pid s ↔ ∃ row ∈ s.subjects, ⟨pid, row.id⟩ ∈ s.links ∧ row.code = code := by
  simp only [codesOf, subjectsOf, List.map_map, List.mem_map, List.mem_filter, List.contains_iff_mem,
    and_assoc]
  rfl

theorem Sound.ne_of_mem_codesOf (h : s.Sound) (hcode : code ∈ codesOf pid s) : code ≠ "" := by
  obtain ⟨row, hrow, -, rfl⟩ := mem_codesOf.mp hcode
  exact (h.subjectRows row hrow).2.2

theorem Sound.codesOf_of_absent (h : s.Sound) (absent : s.hasStudent pid = false) : codesOf pid s = [] := by
  rw [List.eq_nil_iff_forall_not_mem]
  intro code hcode
  obtain ⟨row, -, hlink, -⟩ := mem_codesOf.mp hcode
  have known := (h.linkRows _ hlink).1
  rw [absent] at known
  cases known

/-- Where ids are in order a subject is known by its id. -/
theorem eq_of_id (ordered : s.subjects.Pairwise fun a b => a.id < b.id) {a b : StoredSubject}
    (ha : a ∈ s.subjects) (hb : b ∈ s.subjects) (same : a.id = b.id) : a = b := by
  have forward : s.subjects.Pairwise fun a b => a.id = b.id → a = b :=
    ordered.imp fun hlt heq => absurd heq (Int.ne_of_lt hlt)
  have backward : s.subjects.Pairwise fun a b => b.id = a.id → b = a :=
    ordered.imp fun hlt heq => absurd heq.symm (Int.ne_of_lt hlt)
  exact forward.forall_of_forall_of_flip (fun _ _ _ => rfl) backward ha hb same

/-- A subject that is new has no links yet. -/
theorem References.subjectsOf_insertSubject (h : s.References) (pid : PupilId) (code name : String) :
    subjectsOf pid (s.insertSubject code name) = subjectsOf pid s := by
  apply h.subjectsOf_eq (insertSubject_enrolls pid code name s).subjects
  · exact (h.insertSubject code name).subjects
  · intro id
    unfold Store.insertSubject
    split <;> rfl

/-- The stored subject of a code, which the store has once the code was inserted. -/
theorem subjectByCode_insertSubject (code name : String) (s : Store) :
    ∃ row ∈ (s.insertSubject code name).subjects, row.code = code ∧
      subjectByCode code (s.insertSubject code name) = .ok row.toSubject := by
  have known : ∃ row ∈ (s.insertSubject code name).subjects, row.code = code := by
    unfold insertSubject
    split
    · next hany => simpa using hany
    · exact ⟨⟨s.lastSubjectId + 1, code, name⟩, by simp, rfl⟩
  unfold subjectByCode
  cases hfind : (s.insertSubject code name).subjects.find? (·.code == code) with
  | none =>
      obtain ⟨row, hrow, hcode⟩ := known
      rw [List.find?_eq_none] at hfind
      exact absurd (by simpa using hcode) (hfind row hrow)
  | some row =>
      exact ⟨row, List.mem_of_find?_eq_some hfind, by simpa using List.find?_some hfind, rfl⟩

theorem mem_codesOf_link (h : s.References) {row : StoredSubject} (hrow : row ∈ s.subjects) :
    code ∈ codesOf pid { s with links := s.links ++ [⟨pid, row.id⟩] } ↔
      code ∈ codesOf pid s ∨ code = row.code := by
  rw [mem_codesOf, mem_codesOf]
  constructor
  · rintro ⟨found, hfound, hlink, rfl⟩
    rcases List.mem_append.mp hlink with hlink | hlink
    · exact Or.inl ⟨found, hfound, hlink, rfl⟩
    · have hid : found.id = row.id := congrArg Link.subjectId (List.mem_singleton.mp hlink)
      rw [eq_of_id h.subjects hfound hrow hid]
      exact Or.inr rfl
  · rintro (⟨found, hfound, hlink, rfl⟩ | rfl)
    · exact ⟨found, hfound, List.mem_append_left _ hlink, rfl⟩
    · exact ⟨row, hrow, List.mem_append_right _ List.mem_cons_self, rfl⟩

/-! ### Enrolling -/

/-- A student who is stored takes any stored subject. -/
theorem link_ok (h : s.References) (known : s.hasStudent pid = true) {row : StoredSubject} (hrow : row ∈ s.subjects) :
    ∃ new t, link pid row.id s = (.ok new, t) ∧
      ∀ code, code ∈ codesOf pid t ↔ code ∈ codesOf pid s ∨ code = row.code := by
  unfold link
  by_cases linked : s.links.contains ⟨pid, row.id⟩ = true
  · rw [if_pos linked]
    refine ⟨false, s, rfl, ?_⟩
    intro code
    constructor
    · exact Or.inl
    · rintro (hcode | rfl)
      · exact hcode
      · exact mem_codesOf.mpr ⟨row, hrow, List.contains_iff_mem.mp linked, rfl⟩
  · have subject : s.hasSubject row.id = true := hasSubject_iff.mpr ⟨row, hrow, rfl⟩
    rw [if_neg linked, if_pos (by rw [known, subject]; rfl)]
    exact ⟨true, _, rfl, fun code => mem_codesOf_link h hrow⟩

theorem enroll_ok (h : s.References) (known : s.hasStudent pid = true) (coded : subject.code ≠ "") :
    ∃ t, enroll pid subject s = (.ok (), t) ∧
      ∀ code, code ∈ codesOf pid t ↔ code ∈ codesOf pid s ∨ code = subject.code := by
  obtain ⟨row, hrow, hcode, found⟩ := subjectByCode_insertSubject subject.code subject.name s
  have inserted := h.insertSubject subject.code subject.name
  have stays : (s.insertSubject subject.code subject.name).hasStudent pid = true := by
    rw [hasStudent, (insertSubject_enrolls pid _ _ s).students]
    exact known
  obtain ⟨new, t, hlink, hcodes⟩ := link_ok inserted stays hrow
  refine ⟨t, ?_, ?_⟩
  · have upserts : upsertSubject subject s =
        (.ok row.toSubject, s.insertSubject subject.code subject.name) := by
      unfold upsertSubject
      rw [if_neg (by simpa using coded), bind_apply, change_apply]
      simp only [reading_apply, found]
    unfold enroll
    rw [bind_of_ok upserts]
    exact bind_of_ok hlink
  · intro code
    rw [hcodes code, hcode, codesOf, h.subjectsOf_insertSubject, ← codesOf]

/-- Whoever was enrolled is there for the next subject. -/
theorem enroll_stays {r : Except Error Unit} (h : s.References) (known : s.hasStudent pid = true)
    (enrolls : enroll pid subject s = (r, t)) : t.References ∧ t.hasStudent pid = true := by
  have frame : Enrolls pid s t := (enroll_enrolls pid subject).leads enrolls
  refine ⟨(enroll_references pid subject).leads enrolls h, ?_⟩
  rw [hasStudent, frame.students]
  exact known

theorem enroll_error (uncoded : subject.code = "") (pid : PupilId) (s : Store) :
    ∃ message, enroll pid subject s = (.error (.validation message), s) := by
  unfold enroll upsertSubject
  rw [if_pos (by simpa using uncoded), fail_bind]
  exact ⟨_, rfl⟩

/-- The linked codes become those that were linked and those asked for. -/
theorem enrollEach_ok (h : s.References) (known : s.hasStudent pid = true)
    (coded : ∀ subject ∈ subjects, subject.code ≠ "") :
    ∃ t, forEach (enroll pid) subjects s = (.ok (), t) ∧
      ∀ code, code ∈ codesOf pid t ↔ code ∈ codesOf pid s ∨ code ∈ subjects.map (·.code) := by
  induction subjects generalizing s with
  | nil => exact ⟨s, rfl, by simp⟩
  | cons subject rest ih =>
      obtain ⟨u, henroll, hfirst⟩ := enroll_ok h known (coded subject List.mem_cons_self)
      obtain ⟨references, stays⟩ := enroll_stays h known henroll
      obtain ⟨t, hrest, hcodes⟩ := ih references stays fun next hnext => coded next (List.mem_cons_of_mem _ hnext)
      refine ⟨t, ?_, ?_⟩
      · rw [forEach_cons, bind_of_ok henroll]
        exact hrest
      · intro code
        rw [hcodes code, hfirst code, List.map_cons, List.mem_cons, or_assoc]

/-- A subject without a code is refused, whatever comes before it. -/
theorem enrollEach_error (uncoded : ∃ subject ∈ subjects, subject.code = "") (pid : PupilId) (s : Store) :
    ∃ e t, forEach (enroll pid) subjects s = (.error e, t) := by
  induction subjects generalizing s with
  | nil => simp at uncoded
  | cons subject rest ih =>
      rw [forEach_cons]
      rcases henroll : enroll pid subject s with ⟨e | _, u⟩
      · exact ⟨e, u, bind_of_error henroll⟩
      · rw [bind_of_ok henroll]
        apply ih
        obtain ⟨culprit, hmem, hcode⟩ := uncoded
        rcases List.mem_cons.mp hmem with rfl | hmem
        · obtain ⟨message, herror⟩ := enroll_error hcode pid s
          rw [herror] at henroll
          cases henroll
        · exact ⟨culprit, hmem, hcode⟩

/-- Where the student is stored, only a subject without a code is refused. -/
theorem enrollEach_refused (h : s.References) (known : s.hasStudent pid = true)
    (uncoded : ∃ subject ∈ subjects, subject.code = "") :
    ∃ message t, forEach (enroll pid) subjects s = (.error (.validation message), t) := by
  induction subjects generalizing s with
  | nil => simp at uncoded
  | cons subject rest ih =>
      rw [forEach_cons]
      by_cases coded : subject.code = ""
      · obtain ⟨message, refuses⟩ := enroll_error coded pid s
        exact ⟨message, s, bind_of_error refuses⟩
      · obtain ⟨u, enrolls, -⟩ := enroll_ok h known coded
        obtain ⟨references, stays⟩ := enroll_stays h known enrolls
        obtain ⟨culprit, hmem, hcode⟩ := uncoded
        have later : culprit ∈ rest := (List.mem_cons.mp hmem).resolve_left fun same => coded (same ▸ hcode)
        rw [bind_of_ok enrolls]
        exact ih references stays ⟨culprit, later, hcode⟩

end Gradebook.Store
