import Gradebook.Proofs.Calendar
import Gradebook.Proofs.Sync.Merge

/-! What a refresh of marks asks the portal. It asks for its periods one after the other, one call for each, up to where
it ends, whatever the answers are and whether or not they can be stored; so it asks for nothing twice just where it
walks over no period twice. -/

namespace Gradebook.Sync

open Portal Attempt

variable {pid : PupilId} {p q : Period} {periods : List Period}

/-! ### Calls of periods -/

theorem marksCalls_of_full (pid : PupilId) (full : p.isFull = true) : ∃ call, marksCalls pid p = [call] := by
  obtain ⟨year, _ | term, _ | column⟩ := p
  · cases full
  · cases full
  · cases full
  · exact ⟨_, rfl⟩

theorem label_inj {a b : Term} : a.label = b.label ↔ a = b := by
  cases a <;> cases b <;> decide

/-- Different full periods are asked for in different calls. -/
theorem marksCalls_inj (full : p.isFull = true) (same : marksCalls pid p = marksCalls pid q) : p = q := by
  obtain ⟨year, _ | term, _ | column⟩ := p
  · cases full
  · cases full
  · cases full
  · obtain ⟨other, _ | term', _ | column'⟩ := q
    · cases same
    · cases same
    · cases same
    · simp only [marksCalls, List.cons.injEq, Call.marksheet.injEq, MarksheetQuery.mk.injEq, and_true, true_and,
        label_inj] at same
      obtain ⟨rfl, rfl, rfl⟩ := same
      rfl

theorem nodup_calls_iff (full : ∀ p ∈ periods, p.isFull = true) :
    (periods.flatMap (marksCalls pid)).Nodup ↔ periods.Nodup := by
  induction periods with
  | nil => simp
  | cons p rest ih =>
      obtain ⟨call, one⟩ := marksCalls_of_full pid (full p List.mem_cons_self)
      have others := fun q (hq : q ∈ rest) => full q (List.mem_cons_of_mem _ hq)
      have among : call ∈ rest.flatMap (marksCalls pid) ↔ p ∈ rest := by
        rw [List.mem_flatMap]
        constructor
        · rintro ⟨q, hq, made⟩
          obtain ⟨call', one'⟩ := marksCalls_of_full pid (others q hq)
          rw [one', List.mem_singleton] at made
          have same : p = q := marksCalls_inj (full p List.mem_cons_self) (by rw [one, one', made])
          rwa [same]
        · intro hp
          exact ⟨p, hp, by rw [one]; exact List.mem_singleton_self call⟩
      rw [List.flatMap_cons, one, List.singleton_append, List.nodup_cons, List.nodup_cons, ih others, among]

/-! ### Calls of a refresh -/

theorem gatherPeriod_calls (service : Service) (pid : PupilId) (p : Period) (w : World) :
    (service.gatherPeriod pid p w).2.calls = w.calls ++ marksCalls pid p := by
  cases shows : shownMarks service.portal w.calls pid p with
  | error fault => rw [gatherPeriod_of_error shows, World.calls_having]
  | ok shown => rw [gatherPeriod_of_shown shows, within_apply, transact_calls, World.calls_having]

theorem refreshPeriods_calls (service : Service) (pid : PupilId) (cancellation : Cancellation) (periods : List Period)
    (done : Nat) (summary : Summary) (w : World) :
    let after := service.refreshPeriods pid cancellation done summary periods w
    ∃ asked, asked <+: periods ∧ after.2.calls = w.calls ++ asked.flatMap (marksCalls pid) ∧
      ∀ summary, after.1 = .ok summary → asked = periods := by
  induction periods generalizing w done summary with
  | nil => exact ⟨[], List.prefix_rfl, (List.append_nil _).symm, fun _ _ => rfl⟩
  | cons p periods ih =>
      rcases checkpoint_cases "refresh marks" cancellation done w with
        ⟨fires, ends⟩ | ⟨calm, v, passes, hstore, hcalls, -⟩
      · have stops : service.refreshPeriods pid cancellation done summary (p :: periods) w =
            (.error (.cancelled "refresh marks"), w) := bind_of_error ends
        rw [stops]
        exact ⟨[], List.nil_prefix, (List.append_nil _).symm, nofun⟩
      · have made := gatherPeriod_calls service pid p v
        rcases gathers : service.gatherPeriod pid p v with ⟨fault | created, x⟩
        · rw [gathers] at made
          have stops : service.refreshPeriods pid cancellation done summary (p :: periods) w = (.error fault, x) :=
            (bind_of_ok passes).trans (bind_of_error gathers)
          rw [stops]
          refine ⟨[p], List.prefix_cons_inj p |>.mpr List.nil_prefix, ?_, nofun⟩
          rw [List.flatMap_singleton, ← hcalls]
          exact made
        · rw [gathers] at made
          obtain ⟨y, -, hy, -, runs⟩ := refreshPeriods_next passes gathers summary periods
          obtain ⟨asked, among, calls, all⟩ := ih (done + 1) (tally summary created) y
          rw [runs]
          refine ⟨p :: asked, List.prefix_cons_inj p |>.mpr among, ?_, fun summary succeeds => ?_⟩
          · rw [calls, hy, made, hcalls, List.flatMap_cons, List.append_assoc]
          · rw [all summary succeeds]

/-- A refresh asks for the periods of its range in order, all of them if it succeeds. -/
theorem refreshMarks_calls (service : Service) (request : RefreshMarks) (cancellation : Cancellation) (w : World)
    (valid : service.settings.calendar.range request.first request.last = .ok periods) :
    let after := service.refreshMarks request cancellation w
    ∃ asked, asked <+: periods ∧ after.2.calls = w.calls ++ asked.flatMap (marksCalls request.pid) ∧
      ∀ summary, after.1 = .ok summary → asked = periods := by
  cases known : Store.findStudent request.pid w.store with
  | error e =>
      rw [refreshMarks_of_unknown known]
      exact ⟨[], List.nil_prefix, (List.append_nil _).symm, nofun⟩
  | ok student =>
      rw [refreshMarks_of_known known valid]
      exact refreshPeriods_calls service request.pid cancellation periods 0 {} w

end Gradebook.Sync
