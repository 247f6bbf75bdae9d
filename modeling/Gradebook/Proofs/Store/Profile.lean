import Gradebook.Proofs.Store.Coverage

/-! What a store shows of a pupil: year, attendance and subjects. A pupil is found as the profile tells, who is not
stored has none, and work about somebody else does not change it. -/

namespace Gradebook

/-- The part of a stored pupil that a refresh brings in line. -/
structure Profile where
  currentYear : Option Int
  attends : Bool
  subjects : List Subject
  deriving DecidableEq, Repr

def Student.profile (student : Student) : Profile :=
  ⟨student.currentYear.map Int32.toInt, student.attends, student.subjects⟩

namespace Store

open Attempt

/-- The profile of a pupil, if one is stored. -/
def profile? (pid : PupilId) (s : Store) : Option Profile :=
  (rowsOf pid s).head?.map fun row => ⟨row.currentYear, row.attends, subjectsOf pid s⟩

variable {s t : Store} {pid other : PupilId} {row : StoredStudent} {student prev next : Student}

theorem isSome_profile? (pid : PupilId) (s : Store) : (profile? pid s).isSome = s.hasStudent pid := by
  rw [profile?, Option.isSome_map, Bool.eq_iff_iff, List.isSome_head?, hasStudent_iff_rowsOf]

/-- Whoever works about somebody else leaves the profile as it is. -/
theorem Frame.profile?_eq (h : Frame other s t) (hne : pid ≠ other) (references : s.References)
    (ordered : t.subjects.Pairwise fun a b => a.id < b.id) : profile? pid t = profile? pid s := by
  rw [profile?, profile?, (h.untouched hne).rows, h.subjectsOf_eq hne references ordered]

/-! ### Who is found -/

theorem toStudent_profile {subjects : List Subject} (told : row.toStudent subjects = .ok student) :
    student.profile = ⟨row.currentYear, row.attends, subjects⟩ := by
  unfold StoredStudent.toStudent at told
  cases hyear : row.currentYear with
  | none =>
      rw [hyear] at told
      cases told
      rfl
  | some n =>
      rw [hyear] at told
      simp only at told
      split at told
      · next year fits =>
        cases told
        rw [narrow_eq_ok fits]
        rfl
      · cases told

theorem toStudent_error {subjects : List Subject} {e : Error} (fails : row.toStudent subjects = .error e) :
    e.isNotFound = false := by
  unfold StoredStudent.toStudent at fails
  split at fails
  · cases fails
  · split at fails
    · cases fails
    · cases fails
      rfl

/-- Only who has no row is not found. -/
theorem rowsOf_of_not_found (missing : findStudent? pid s = .ok none) : rowsOf pid s = [] := by
  unfold findStudent? findStudent at missing
  rw [findStudents_rowsOf] at missing
  cases told : (rowsOf pid s).mapM (·.toStudent (subjectsOf pid s)) with
  | error e =>
      obtain ⟨row, -, fails⟩ := exists_of_mapM_error told
      rw [told] at missing
      simp only [toStudent_error fails] at missing
      cases missing
  | ok found =>
      rw [told] at missing
      cases found with
      | nil =>
          have all := mapM_eq_ok.mp told
          rwa [List.forall₂_nil_right_iff] at all
      | cons student more => cases missing

/-- Pupils are found as their profiles tell. -/
theorem profile?_of_found {found : Option Student} (finds : findStudent? pid s = .ok found) :
    profile? pid s = found.map Student.profile := by
  cases found with
  | none =>
      rw [profile?, rowsOf_of_not_found finds]
      rfl
  | some student =>
      obtain ⟨more, all⟩ := findStudent?_eq_some.mp finds
      obtain ⟨row, others, told, -, rows⟩ := List.forall₂_cons_right_iff.mp all
      rw [profile?, rows, Option.map_some, toStudent_profile told]
      rfl

theorem Covers.congr {other : Student} (covers : Covers prev next) (same : prev.profile = other.profile) :
    Covers other next := by
  have ⟨hyear, hattends, hsubjects⟩ := Profile.mk.inj same
  have year := Option.map_injective (fun _ _ => Int32.toInt_inj.mp) hyear
  refine ⟨year.symm.trans covers.currentYear, hattends.symm.trans covers.attends, ?_⟩
  rw [← hsubjects]
  exact covers.codes

/-! ### What an update changes -/

theorem updateStudent_told {changed : Bool} (updates : updateStudent prev next s = (.ok changed, t)) :
    changed = false ↔ Covers prev next := by
  rw [← nothing_new_iff]
  rw [updateStudent_of_valid (valid_of_updateStudent updates)] at updates
  obtain ⟨_, u, -, updates⟩ := bind_eq_ok.mp updates
  split at updates
  · next nothing =>
    cases updates
    simp [nothing]
  · next something =>
    cases updates
    simp [something]

/-- An update that tells of no change changes nothing. -/
theorem updateStudent_unchanged (updates : updateStudent prev next s = (.ok false, t)) : t = s := by
  have covers := (updateStudent_told updates).mp rfl
  rw [updateStudent_of_covers (valid_of_updateStudent updates) covers] at updates
  cases updates
  rfl

/-- An update that tells of a change shows in the profile. -/
theorem updateStudent_differs (found : findStudent? pid s = .ok (some prev))
    (updates : updateStudent prev next s = (.ok true, t)) :
    ∃ stored, findStudent? pid t = .ok (some stored) ∧ prev.profile ≠ stored.profile := by
  obtain ⟨-, stored, told, covers⟩ := updateStudent_covers found updates
  refine ⟨stored, told, ?_⟩
  intro same
  have nothing := (updateStudent_told updates).mpr (covers.congr same.symm)
  cases nothing

end Store

end Gradebook
