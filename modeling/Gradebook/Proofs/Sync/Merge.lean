import Gradebook.Proofs.Store.Built
import Gradebook.Proofs.Sync.Marks

/-! Merging marks over a range of periods. A run merges one period after the other and stops at the first that it
cannot merge, so that whatever comes of it the store has gained just the rows of the periods before. Once a run
succeeded, the same answers of the portal leave nothing to add. -/

namespace Gradebook.Sync

open Portal Attempt
open Store (Adds Records Readable markedNames)

/-! ### What a run does and why it stops -/

/-- The marks of a pupil in some periods were merged, one period after the other: what the portal showed for each,
and the rows that each was given. -/
inductive Merged (portal : Responder) (pid : PupilId) :
    List Call → Store → List Period → List (List StoredMark) → Store → Prop where
  | none {earlier s} : Merged portal pid earlier s [] [] s
  | next {earlier s p shown rows t periods groups u} (shows : shownMarks portal earlier pid p = .ok shown)
      (merges : Merges pid p shown s rows t)
      (rest : Merged portal pid (earlier ++ marksCalls pid p) t periods groups u) :
      Merged portal pid earlier s (p :: periods) (rows :: groups) u

/-- Why a run stops at a period, and its fault: it is cancelled before the period, the portal shows nothing that can
be read, the marks cannot be added, or the store can only be read. -/
inductive Stops (portal : Responder) (pid : PupilId) (p : Period) (fires : Bool) (earlier : List Call)
    (readOnly : Bool) (s : Store) : Fault → Prop where
  | cancelled (fired : fires = true) : Stops portal pid p fires earlier readOnly s (.cancelled "refresh marks")
  | unheard {fault} (shows : shownMarks portal earlier pid p = .error fault) :
      Stops portal pid p fires earlier readOnly s fault
  | refused {shown e t} (shows : shownMarks portal earlier pid p = .ok shown)
      (fails : appendMarks pid p shown s = (.error e, t)) :
      Stops portal pid p fires earlier readOnly s (e.fault.within ("store " ++ marksIn pid p))
  | unwritable {shown} (shows : shownMarks portal earlier pid p = .ok shown) (only : readOnly = true) :
      Stops portal pid p fires earlier readOnly s
        (Store.Error.readOnly.fault.within ("store " ++ marksIn pid p))

/-- One more period in the counts of a run. -/
def tally (summary : Summary) (created : UInt32) : Summary :=
  { summary with
    created := summary.created + created
    unchanged := if created = 0 then summary.unchanged + 1 else summary.unchanged }

/-- How many rows each period was given, in 32 bits. -/
def sizes (groups : List (List StoredMark)) : List UInt32 := groups.map fun rows => .ofNat rows.length

variable {service : Service} {portal : Responder} {pid : PupilId} {p : Period} {cancellation : Cancellation}
variable {periods : List Period} {groups : List (List StoredMark)} {earlier later : List Call}
variable {s t u : Store} {w v : World} {summary : Summary}

theorem Merged.adds (merged : Merged portal pid earlier s periods groups t) : Adds groups.flatten s t := by
  induction merged with
  | none => exact .none _
  | next _ merges _ ih => exact merges.adds.append ih

/-! ### One period -/

/-- A period is merged or nothing is written. -/
theorem gatherPeriod_cases (service : Service) (pid : PupilId) (p : Period)
    (ordered : w.store.subjects.Pairwise fun a b => a.id < b.id) :
    (∃ shown rows t, shownMarks service.portal w.calls pid p = .ok shown ∧ Merges pid p shown w.store rows t ∧
      service.gatherPeriod pid p w =
        (.ok (.ofNat rows.length), { w.having (marksCalls pid p) with store := t })) ∨
    ∃ fault, service.gatherPeriod pid p w = (.error fault, w.having (marksCalls pid p)) ∧
      ∀ fires, Stops service.portal pid p fires w.calls w.readOnly w.store fault := by
  cases shows : shownMarks service.portal w.calls pid p with
  | error fault => exact Or.inr ⟨fault, gatherPeriod_of_error shows, fun _ => .unheard shows⟩
  | ok shown =>
      rw [gatherPeriod_of_shown shows, within_apply]
      rcases transact_cases (appendMarks pid p shown) (w.having (marksCalls pid p)) with
        ⟨fault, fails⟩ | ⟨created, t, appends, succeeds⟩
      · have why := transact_fails (congrArg Prod.fst fails)
        rw [fails]
        refine Or.inr ⟨_, rfl, fun fires => ?_⟩
        rcases why with ⟨e, t, refuses, rfl⟩ | ⟨only, rfl⟩
        · exact .refused shows refuses
        · exact .unwritable shows only
      · obtain ⟨rows, rfl, merges⟩ := appendMarks_ok ordered (shownMarks_own shows) appends
        rw [succeeds]
        exact Or.inl ⟨shown, rows, t, rfl, merges, rfl⟩

/-! ### One period after the other -/

/-- A run goes on behind a period that was merged. -/
theorem refreshPeriods_next {done : Nat} {created : UInt32} {x : World}
    (passes : checkpoint "refresh marks" cancellation done w = (.ok (), v))
    (gathers : service.gatherPeriod pid p v = (.ok created, x)) (summary : Summary) (periods : List Period) :
    ∃ y : World, y.store = x.store ∧ y.calls = x.calls ∧ y.readOnly = x.readOnly ∧
      service.refreshPeriods pid cancellation done summary (p :: periods) w =
        service.refreshPeriods pid cancellation (done + 1) (tally summary created) periods y := by
  let report (created : UInt32) : Event := .reported (p.text ++ ": " ++ toString created.toNat ++ " new marks")
  let rest (created : UInt32) : Session Summary :=
    service.refreshPeriods pid cancellation (done + 1) (tally summary created) periods
  let y : World := { x with trace := x.trace ++ [report created] }
  refine ⟨y, rfl, note_reported_calls _ x, rfl, ?_⟩
  calc service.refreshPeriods pid cancellation done summary (p :: periods) w
      = (service.gatherPeriod pid p >>= fun created => note (report created) >>= fun _ => rest created) v :=
        bind_of_ok passes
    _ = (note (report created) >>= fun _ => rest created) x := bind_of_ok gathers
    _ = rest created y := bind_of_ok (note_apply _ x)

theorem refreshPeriods_merges (service : Service) (pid : PupilId) (cancellation : Cancellation)
    (ordered : w.store.subjects.Pairwise fun a b => a.id < b.id) (periods : List Period) (done : Nat)
    (summary : Summary) :
    let after := service.refreshPeriods pid cancellation done summary periods w
    ∃ k groups, Merged service.portal pid w.calls w.store (periods.take k) groups after.2.store ∧
      (∀ i < k, cancellation (done + i) = false) ∧
      ((periods.length ≤ k ∧ after.1 = .ok ((sizes groups).foldl tally summary)) ∨
        ∃ p fault, periods[k]? = some p ∧ after.1 = .error fault ∧
          Stops service.portal pid p (cancellation (done + k))
            (w.calls ++ (periods.take k).flatMap (marksCalls pid)) w.readOnly after.2.store fault) := by
  induction periods generalizing w done summary with
  | nil => exact ⟨0, [], .none, by simp, Or.inl ⟨Nat.le_refl 0, rfl⟩⟩
  | cons p periods ih =>
      rcases checkpoint_cases "refresh marks" cancellation done w with
        ⟨fires, ends⟩ | ⟨calm, v, passes, hstore, hcalls, hreadOnly⟩
      · have stops : service.refreshPeriods pid cancellation done summary (p :: periods) w =
            (.error (.cancelled "refresh marks"), w) := bind_of_error ends
        rw [stops]
        exact ⟨0, [], .none, by simp, Or.inr ⟨p, _, rfl, rfl, .cancelled fires⟩⟩
      · rw [← hstore] at ordered
        rw [← hstore, ← hcalls, ← hreadOnly]
        rcases gatherPeriod_cases service pid p ordered with
          ⟨shown, rows, t, shows, merges, gathers⟩ | ⟨fault, fails, stop⟩
        · obtain ⟨x, hx, hxcalls, hxreadOnly, runs⟩ := refreshPeriods_next passes gathers summary periods
          have hcalls₂ : x.calls = v.calls ++ marksCalls pid p := hxcalls.trans (World.calls_having _ v)
          have hstore₂ : x.store = t := hx
          rw [← merges.adds.subjects, ← hstore₂] at ordered
          obtain ⟨k, groups, merged, calms, ends⟩ := ih ordered (done + 1) (tally summary (.ofNat rows.length))
          rw [hcalls₂, hstore₂] at merged
          rw [hcalls₂, hxreadOnly] at ends
          rw [runs]
          refine ⟨k + 1, rows :: groups, .next shows merges merged, ?_, ?_⟩
          · intro i hi
            cases i with
            | zero => exact calm
            | succ i =>
                have := calms i (Nat.lt_of_succ_lt_succ hi)
                rwa [Nat.add_right_comm] at this
          · rcases ends with ⟨all, succeeds⟩ | ⟨q, fault, hq, fails, stops⟩
            · exact Or.inl ⟨Nat.succ_le_succ all, succeeds⟩
            · refine Or.inr ⟨q, fault, hq, fails, ?_⟩
              rw [List.take_succ_cons, List.flatMap_cons, ← List.append_assoc, ← Nat.add_assoc, Nat.add_right_comm]
              exact stops
        · have stops : service.refreshPeriods pid cancellation done summary (p :: periods) w =
              (.error fault, v.having (marksCalls pid p)) :=
            (bind_of_ok passes).trans (bind_of_error fails)
          have why := stop (cancellation done)
          rw [← List.append_nil v.calls] at why
          rw [stops]
          exact ⟨0, [], .none, by simp, Or.inr ⟨p, fault, rfl, rfl, why⟩⟩

/-! ### What a run counts -/

theorem foldl_tally (summary : Summary) (groups : List (List StoredMark)) :
    (sizes groups).foldl tally summary = { summary with
      created := summary.created + .ofNat groups.flatten.length
      unchanged := summary.unchanged + .ofNat (groups.countP fun rows => UInt32.ofNat rows.length == 0) } := by
  unfold sizes
  induction groups generalizing summary with
  | nil => simp
  | cons rows rest ih =>
      rw [List.map_cons, List.foldl_cons, ih, List.flatten_cons, List.length_append, List.countP_cons,
        UInt32.ofNat_add]
      unfold tally
      by_cases none : UInt32.ofNat rows.length = 0
      · simp [none, UInt32.ofNat_add, UInt32.add_assoc, UInt32.add_comm]
      · simp [none, UInt32.add_assoc]

/-- Counts have 32 bits, which is enough for the rows of a period. -/
theorem countP_empty (few : ∀ rows ∈ groups, rows.length < UInt32.size) :
    (groups.countP fun rows => UInt32.ofNat rows.length == 0) = groups.countP List.isEmpty := by
  apply List.countP_congr
  intro rows hrows
  have := few rows hrows
  rw [beq_iff_eq, List.isEmpty_iff, ← List.length_eq_zero_iff, ← UInt32.toNat_inj, UInt32.toNat_ofNat_of_lt' this]
  rfl

/-! ### Running again -/

/-- What the portal shows for some periods, one after the other, is in the store already. -/
inductive Rests (portal : Responder) (pid : PupilId) (s : Store) : List Call → List Period → Prop where
  | none {earlier : List Call} : Rests portal pid s earlier []
  | next {earlier : List Call} {p : Period} {shown : List Mark} {periods : List Period}
      (shows : shownMarks portal earlier pid p = .ok shown) (readable : Readable pid p s)
      (all : ∀ mark ∈ shown, mark.subject.name ∈ markedNames pid p s)
      (rest : Rests portal pid s (earlier ++ marksCalls pid p) periods) : Rests portal pid s earlier (p :: periods)

theorem Merged.sound (merged : Merged portal pid earlier s periods groups t) :
    ∀ row ∈ groups.flatten, row.Sound := by
  induction merged with
  | none => exact nofun
  | next _ merges _ ih =>
      intro row hrow
      rcases List.mem_append.mp hrow with hrow | hrow
      · obtain ⟨mark, -, records⟩ := exists_of_forall₂ merges.records.flip hrow
        exact Records.sound records
      · exact ih row hrow

/-- Once marks were merged, the same answers show nothing that is not there, whatever the clock says. -/
theorem Merged.rests {again : Responder} (merged : Merged portal pid earlier s periods groups t)
    (ordered : s.subjects.Pairwise fun a b => a.id < b.id) (ticks : Adds [] t u)
    (same : ∀ made, again.marksheet (later ++ made) = portal.marksheet (earlier ++ made)) :
    Rests again pid u later periods := by
  induction merged generalizing later with
  | none => exact .none
  | @next earlier s p shown rows t periods groups v shows merges rest ih =>
      have adds : Adds groups.flatten t u := by
        have both := rest.adds.append ticks
        rwa [List.append_nil] at both
      have here : again.marksheet later = portal.marksheet earlier := by
        have first := same []
        rwa [List.append_nil, List.append_nil] at first
      refine .next ((shownMarks_congr here pid p).trans shows) ?_ ?_ ?_
      · have sound : ∀ row ∈ rows, row.Sound := by
          intro row hrow
          exact (Merged.next shows merges rest).sound row (List.mem_append_left _ hrow)
        exact adds.readable rest.sound (merges.adds.readable sound merges.readable)
      · intro mark hmark
        exact adds.markedNames_subset (merges.name_mem ordered hmark)
      · rw [← merges.adds.subjects] at ordered
        apply ih ordered ticks
        intro made
        rw [List.append_assoc, List.append_assoc]
        exact same _

/-- A run over periods that rest succeeds and writes nothing. -/
theorem refreshPeriods_of_rests (service : Service) {student : Student}
    (known : Store.findStudent pid w.store = .ok student)
    (rests : Rests service.portal pid w.store w.calls periods) (done : Nat) (summary : Summary) :
    ∃ v, service.refreshPeriods pid .never done summary periods w =
      (.ok { summary with unchanged := summary.unchanged + .ofNat periods.length }, v) ∧ v.store = w.store := by
  induction periods generalizing w done summary with
  | nil => exact ⟨w, by simp [Service.refreshPeriods], rfl⟩
  | cons p periods ih =>
      obtain ⟨v, passes, hstore, hcalls⟩ := checkpoint_never "refresh marks" done w
      obtain - | ⟨shows, readable, all, rest⟩ := rests
      rw [← hcalls] at shows rest
      rw [← hstore] at known readable all rest ⊢
      have gathers : service.gatherPeriod pid p v = (.ok 0, v.having (marksCalls pid p)) := by
        have idle : transact (appendMarks pid p _) (v.having (marksCalls pid p)) =
            (.ok 0, v.having (marksCalls pid p)) := transact_of_idle (appendMarks_idle known readable all)
        rw [gatherPeriod_of_shown shows, within_apply, idle]
        rfl
      obtain ⟨y, hy, hycalls, -, goesOn⟩ := refreshPeriods_next passes gathers summary periods
      have hstore₂ : y.store = v.store := hy
      rw [← World.calls_having, ← hycalls, ← hstore₂] at rest
      rw [← hstore₂] at known ⊢
      obtain ⟨u, runs, hu⟩ := ih known rest (done + 1) (tally summary 0)
      refine ⟨u, ?_, hu⟩
      rw [goesOn, runs, List.length_cons, UInt32.ofNat_add]
      simp [tally, UInt32.add_assoc, UInt32.add_comm]

/-! ### The whole run -/

/-- The counts of a run that merged its periods, in 32 bits: the rows, and the periods that gained none. -/
structure Counts (groups : List (List StoredMark)) (summary : Summary) : Prop where
  created : summary.created = .ofNat groups.flatten.length
  unchanged : (∀ rows ∈ groups, rows.length < UInt32.size) →
    summary.unchanged = .ofNat (groups.countP List.isEmpty)

theorem counts_foldl (groups : List (List StoredMark)) : Counts groups ((sizes groups).foldl tally {}) := by
  rw [foldl_tally]
  refine ⟨UInt32.zero_add _, fun few => ?_⟩
  rw [← countP_empty few]
  exact UInt32.zero_add _

variable {request : RefreshMarks}

theorem findsPupil_apply (pid : PupilId) (w : World) :
    within "refresh marks" (consult (Store.findStudent pid)) w =
      ((Store.findStudent pid w.store).mapError fun e => e.fault.within "refresh marks", w) := by
  rw [within_apply, consult]
  cases Store.findStudent pid w.store <;> rfl

theorem refreshMarks_of_unknown {e : Store.Error} (lost : Store.findStudent request.pid w.store = .error e) :
    service.refreshMarks request cancellation w = (.error (e.fault.within "refresh marks"), w) := by
  unfold Service.refreshMarks
  exact bind_of_error (by rw [findsPupil_apply, lost]; rfl)

theorem refreshMarks_of_known {student : Student} (known : Store.findStudent request.pid w.store = .ok student)
    (valid : service.settings.calendar.range request.first request.last = .ok periods) :
    service.refreshMarks request cancellation w =
      service.refreshPeriods request.pid cancellation 0 {} periods w := by
  unfold Service.refreshMarks
  rw [bind_of_ok (by rw [findsPupil_apply, known]; rfl), valid]
  rfl

/-- Whoever has merged all periods adds nothing with the same answers, at any later moment. -/
theorem Merged.refreshMarks_again
    (merged : Merged service.portal request.pid w.calls w.store periods groups t)
    (ordered : w.store.subjects.Pairwise fun a b => a.id < b.id) {student : Student}
    (known : Store.findStudent request.pid w.store = .ok student)
    (valid : service.settings.calendar.range request.first request.last = .ok periods) (again : Responder)
    {u : World} {later : Timestamp} (left : u.store = { t with clock := later })
    (same : ∀ made, again.marksheet (u.calls ++ made) = service.portal.marksheet (w.calls ++ made)) :
    ∃ v, Service.refreshMarks ⟨again, service.settings⟩ request .never u =
      (.ok { unchanged := .ofNat periods.length }, v) ∧ v.store = u.store := by
  have ticks : Adds [] t u.store := left ▸ (Adds.none _).tick later
  have still : Store.findStudent request.pid u.store = .ok student := by
    rw [ticks.findStudent_eq, merged.adds.findStudent_eq, known]
  let replayed : Service := ⟨again, service.settings⟩
  have rests := merged.rests ordered ticks same
  obtain ⟨v, runs, hv⟩ := refreshPeriods_of_rests replayed still rests 0 {}
  have begins : replayed.refreshMarks request .never u =
      replayed.refreshPeriods request.pid .never 0 {} periods u := refreshMarks_of_known still valid
  rw [UInt32.zero_add] at runs
  exact ⟨v, begins.trans runs, hv⟩

/-- **Refreshing marks is an exact append-only merge.** Over the periods of a valid range, in their order, the rows
of the first `done` periods are added, and nothing else changes in any table. A run that succeeds has merged all
periods and counts what it added; the same run on what it left, at any later moment and with the same answers of the
portal, succeeds, creates nothing and leaves the store as it is. A run that fails, unless it cannot tell who the pupil
is, stops at a period, of which it adds nothing. -/
theorem refreshMarks_merges (service : Service) (request : RefreshMarks) (cancellation : Cancellation) {w : World}
    (ordered : w.store.subjects.Pairwise fun a b => a.id < b.id)
    {periods : List Period} (valid : service.settings.calendar.range request.first request.last = .ok periods) :
    let after := service.refreshMarks request cancellation w
    ∃ done groups, Merged service.portal request.pid w.calls w.store (periods.take done) groups after.2.store ∧
      Adds groups.flatten w.store after.2.store ∧
      (∀ summary, after.1 = .ok summary →
        periods.length ≤ done ∧ (∀ i < done, cancellation i = false) ∧ Counts groups summary ∧
        ∀ (again : Responder) (u : World) (later : Timestamp), u.store = { after.2.store with clock := later } →
          (∀ made, again.marksheet (u.calls ++ made) = service.portal.marksheet (w.calls ++ made)) →
          ∃ v, Service.refreshMarks ⟨again, service.settings⟩ request .never u =
            (.ok { unchanged := .ofNat periods.length }, v) ∧ v.store = u.store) ∧
      (∀ fault, after.1 = .error fault →
        (done = 0 ∧ ∃ e, Store.findStudent request.pid w.store = .error e) ∨
        ∃ p, periods[done]? = some p ∧ Stops service.portal request.pid p (cancellation done)
          (w.calls ++ (periods.take done).flatMap (marksCalls request.pid)) w.readOnly after.2.store fault) := by
  cases known : Store.findStudent request.pid w.store with
  | error e =>
      rw [refreshMarks_of_unknown known]
      refine ⟨0, [], .none, .none _, nofun, ?_⟩
      intro fault _
      exact Or.inl ⟨rfl, e, rfl⟩
  | ok student =>
      rw [refreshMarks_of_known known valid]
      obtain ⟨done, groups, merged, calm, ends⟩ := refreshPeriods_merges service request.pid
        cancellation ordered periods 0 {}
      simp only [Nat.zero_add] at calm ends
      refine ⟨done, groups, merged, merged.adds, ?_, ?_⟩
      · intro summary succeeds
        rcases ends with ⟨all, totals⟩ | ⟨p, fault, -, fails, -⟩
        · rw [totals] at succeeds
          cases succeeds
          refine ⟨all, calm, counts_foldl groups, ?_⟩
          intro again u later left same
          rw [List.take_of_length_le all] at merged
          exact merged.refreshMarks_again ordered known valid again left same
        · rw [fails] at succeeds
          cases succeeds
      · intro fault fails
        rcases ends with ⟨-, totals⟩ | ⟨p, why, hp, failed, stops⟩
        · rw [totals] at fails
          cases fails
        · rw [fails] at failed
          cases failed
          exact Or.inr ⟨p, hp, stops⟩

/-- A portal that shows two marks of one name in every column but the last. -/
def columnPortal : Responder where
  academicYears _ _ := .ok [2024]
  reportingPeriods _ _ _ := .ok []
  reportingSubjects _ _ _ _ := .ok []
  columnsForSubjects _ _ _ _ _ := .ok []
  marksheet _ pid query :=
    if query.columns = ["Exam"] then .error (.noData pid.text) else .ok "\t50, Art, Ms Lee<\t60, Art, Ms Ray<"

def columnService : Service := ⟨columnPortal, { currentAcademicYear := 2024 }⟩

/-- A store with two subjects of one name, of which a pupil takes both. -/
def twiceNamedWorld : World :=
  { store := Store.Operation.perform {} (.createStudent
      { pid := 7, name := "Ada", currentYear := some 6, attends := true
        subjects := [{ code := "AR1", name := "Art" }, { code := "AR2", name := "Art" }] }) }

/-- The columns of a term. -/
def termRequest : RefreshMarks := ⟨7, ⟨2024, some .autumn, none⟩, ⟨2024, some .autumn, none⟩⟩

/-- Of a term with two columns the first gains one mark, under the older subject, and the second none. The same run
again adds nothing. -/
theorem refreshMarks_merges_term : ∃ after groups v,
    columnService.refreshMarks termRequest .never twiceNamedWorld = (.ok { created := 1, unchanged := 1 }, after) ∧
    Merged columnPortal 7 [] twiceNamedWorld.store [.full 2024 .autumn "Test", .full 2024 .autumn "Exam"] groups
      after.store ∧
    after.store.marks.map (fun row => (row.subjectId, row.teacher, row.percentage)) = [(1, "Ms Lee", 50)] ∧
    columnService.refreshMarks termRequest .never after = (.ok { unchanged := 2 }, v) ∧ v.store = after.store := by
  have first : (columnService.refreshMarks termRequest .never twiceNamedWorld).1 =
      .ok { created := 1, unchanged := 1 } := by decide +kernel
  have rows : (columnService.refreshMarks termRequest .never twiceNamedWorld).2.store.marks.map
      (fun row => (row.subjectId, row.teacher, row.percentage)) = [(1, "Ms Lee", 50)] := by decide +kernel
  have ordered : twiceNamedWorld.store.subjects.Pairwise fun a b => a.id < b.id := by decide +kernel
  have valid : columnService.settings.calendar.range termRequest.first termRequest.last =
      .ok [.full 2024 .autumn "Test", .full 2024 .autumn "Exam"] := by decide +kernel
  obtain ⟨done, groups, merged, -, succeeds, -⟩ :=
    refreshMarks_merges columnService termRequest .never ordered valid
  obtain ⟨all, -, -, rerun⟩ := succeeds _ first
  obtain ⟨v, again, stays⟩ := rerun columnPortal _ _ rfl fun _ => rfl
  rw [List.take_of_length_le all] at merged
  exact ⟨_, groups, v, Prod.ext first rfl, merged, rows, again, stays⟩

end Gradebook.Sync
