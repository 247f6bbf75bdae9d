import Gradebook.Proofs.Json.Tagged
import Gradebook.Proofs.Wire.School
import Gradebook.Wire.Jobs

/-! The JSON forms of refresh requests, of jobs and of what jobs tell about themselves, read back. Payloads and statuses
have their kind beside their members, so that each is taken in whole before it is understood. -/

namespace Gradebook

open Json

variable {depth : Nat}

/-! ### Requests and summaries -/

theorem RefreshStudents.restores (r : RefreshStudents) : Restores RefreshStudents.toJson RefreshStudents.ofJson r := by
  refine ⟨?_, nofun⟩
  refine except_bind_of_ok (toRecord_obj (named_fixed _) (by decide)) ?_
  refine except_bind_of_ok (Record.required_written rfl (restores_int64 r.start)) ?_
  refine except_bind_of_ok (Record.required_written rfl (restores_uint32 r.count)) ?_
  refine except_bind_of_ok (Record.withDefault_written rfl (restores_bool r.purge)) ?_
  rfl

theorem RefreshMarks.restores (r : RefreshMarks) : Restores RefreshMarks.toJson RefreshMarks.ofJson r := by
  refine ⟨?_, nofun⟩
  refine except_bind_of_ok (toRecord_obj (named_fixed _) (by decide)) ?_
  refine except_bind_of_ok (Record.required_written rfl (restores_int64 r.pid)) ?_
  refine except_bind_of_ok (Record.required_written rfl (Period.restores r.first)) ?_
  refine except_bind_of_ok (Record.required_written rfl (Period.restores r.last)) ?_
  rfl

theorem Summary.restores (s : Summary) : Restores Summary.toJson Summary.ofJson s := by
  refine ⟨?_, nofun⟩
  refine except_bind_of_ok (toRecord_obj (named_fixed _) (by decide)) ?_
  refine except_bind_of_ok (Record.required_written rfl (restores_uint32 s.created)) ?_
  refine except_bind_of_ok (Record.required_written rfl (restores_uint32 s.updated)) ?_
  refine except_bind_of_ok (Record.required_written rfl (restores_uint32 s.deleted)) ?_
  refine except_bind_of_ok (Record.required_written rfl (restores_uint32 s.skipped)) ?_
  refine except_bind_of_ok (Record.required_written rfl (restores_uint32 s.unchanged)) ?_
  rfl

/-! ### What is taken in before its kind is known -/

theorem absorbed_int32 (n : Int32) : IsAbsorbed depth (Int32.toJson n) := by
  have above := n.le_toInt
  have below := n.toInt_lt
  exact absorbed_int (by rw [UInt64.size]; omega)

theorem absorbed_int64 (n : Int64) : IsAbsorbed depth (Int64.toJson n) := by
  have above := n.le_toInt
  have below := n.toInt_lt
  exact absorbed_int (by rw [UInt64.size]; omega)

theorem absorbed_uint32 (n : UInt32) : IsAbsorbed depth (UInt32.toJson n) := by
  have below := n.toNat_lt
  exact absorbed_int (by rw [UInt64.size]; omega)

theorem absorbed_memberIfSome {α : Type} {encode : α → Json} {name : String} {value : Option α}
    (each : ∀ x, IsAbsorbed depth (encode x)) :
    ∀ member ∈ memberIfSome name encode value, IsAbsorbed depth member.2 := by
  cases value with
  | none => exact List.forall_mem_nil _
  | some x => exact List.forall_mem_singleton.mpr (each x)

theorem absorbed_period (p : Period) : IsAbsorbed (depth + 1) p.toJson := by
  refine absorbed_obj nofun (absorbed_int32 p.academicYear) ?_
  exact List.forall_mem_append.mpr ⟨absorbed_memberIfSome fun term => absorbed_text term.word,
    absorbed_memberIfSome fun column => absorbed_text column⟩

theorem absorbed_summary (s : Summary) : IsAbsorbed (depth + 1) s.toJson := by
  refine absorbed_obj nofun (absorbed_uint32 s.created) ?_
  simp [absorbed_uint32]

theorem absorbed_fault (f : Fault) : IsAbsorbed (depth + 1) f.toJson :=
  absorbed_obj nofun (absorbed_text f.kind.word) (List.forall_mem_singleton.mpr (absorbed_text f.message))

namespace Jobs

/-- A payload is read back inside as many containers as leave room for its periods. -/
theorem Payload.restores_within {outer : Nat} (room : outer + 2 ≤ maxDepth) (p : Payload) :
    Restores Payload.toJson (Payload.ofJsonWithin outer) p := by
  refine ⟨?_, nofun⟩
  obtain ⟨depth, deep⟩ : ∃ depth, maxDepth - outer = depth + 2 := ⟨maxDepth - outer - 2, by omega⟩
  cases p with
  | students r =>
      have taken : IsAbsorbed (depth + 2) (Payload.students r).toJson := by
        refine absorbed_obj nofun (absorbed_text _) ?_
        simp [RefreshStudents.members, absorbed_int64, absorbed_uint32, absorbed_bool]
      have split := toTagged_obj taken (by simp [RefreshStudents.members])
      rw [Payload.ofJsonWithin, deep]
      refine except_bind_of_ok split ?_
      refine except_bind_of_ok (x := "refresh_students") rfl ?_
      exact except_bind_of_ok (RefreshStudents.restores r).decoded rfl
  | marks r =>
      have taken : IsAbsorbed (depth + 2) (Payload.marks r).toJson := by
        refine absorbed_obj nofun (absorbed_text _) ?_
        simp [RefreshMarks.members, absorbed_int64, absorbed_period]
      have split := toTagged_obj taken (by simp [RefreshMarks.members])
      rw [Payload.ofJsonWithin, deep]
      refine except_bind_of_ok split ?_
      refine except_bind_of_ok (x := "refresh_marks") rfl ?_
      exact except_bind_of_ok (RefreshMarks.restores r).decoded rfl

theorem Payload.restores (p : Payload) : Restores Payload.toJson Payload.ofJson p :=
  Payload.restores_within (by decide) p

/-- The number of the job fits its JSON form. -/
def Job.Fits (job : Job) : Prop := IsWide job.id

theorem Job.restores {job : Job} (fits : job.Fits) : Restores Job.toJson Job.ofJson job := by
  refine ⟨?_, nofun⟩
  refine except_bind_of_ok (toRecord_obj (named_fixed _) (by decide)) ?_
  refine except_bind_of_ok (Record.required_written rfl (restores_wide fits)) ?_
  refine except_bind_of_ok (Record.required_written rfl (Payload.restores_within (by decide) job.payload)) ?_
  rfl

theorem Status.restores (s : Status) : Restores Status.toJson Status.ofJson s := by
  refine ⟨?_, nofun⟩
  -- What stands beside the name of a status differs from one to the next, and so does what is taken in.
  cases s with
  | queued => rfl
  | running detail =>
      have taken : IsAbsorbed maxDepth (Status.running detail).toJson :=
        absorbed_obj nofun (absorbed_text _) (List.forall_mem_singleton.mpr (absorbed_text detail))
      refine except_bind_of_ok (toTagged_obj taken (by simp)) ?_
      refine except_bind_of_ok (x := "running") rfl ?_
      refine except_bind_of_ok (toRecord_obj (named_fixed _) (by decide)) ?_
      exact except_bind_of_ok (Record.required_written rfl (restores_text detail)) rfl
  | done summary =>
      have taken : IsAbsorbed maxDepth (Status.done summary).toJson :=
        absorbed_obj nofun (absorbed_text _) (List.forall_mem_singleton.mpr (absorbed_summary summary))
      refine except_bind_of_ok (toTagged_obj taken (by simp)) ?_
      refine except_bind_of_ok (x := "done") rfl ?_
      refine except_bind_of_ok (toRecord_obj (named_fixed _) (by decide)) ?_
      exact except_bind_of_ok (Record.required_written rfl (Summary.restores summary)) rfl
  | cancelled => rfl
  | failed fault =>
      have taken : IsAbsorbed maxDepth (Status.failed fault).toJson :=
        absorbed_obj nofun (absorbed_text _) (List.forall_mem_singleton.mpr (absorbed_fault fault))
      refine except_bind_of_ok (toTagged_obj taken (by simp)) ?_
      refine except_bind_of_ok (x := "failed") rfl ?_
      refine except_bind_of_ok (toRecord_obj (named_fixed _) (by decide)) ?_
      exact except_bind_of_ok (Record.required_written rfl (Fault.restores fault)) rfl

end Jobs

end Gradebook
