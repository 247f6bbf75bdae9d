import Gradebook.Proofs.Additions
import Gradebook.Proofs.Store.Marks
import Gradebook.Proofs.Sync.Fetch
import Gradebook.Sync.Marks

/-! Merging the marks of one period. The portal shows a list of marks, of which the first of each name is added unless
the pupil has a mark of that name in the period. A merge that succeeds adds one row for each of them and does nothing
else; where every name is there already it does nothing at all. -/

namespace Gradebook.Sync

open Portal Attempt
open Store (Adds Records Readable markedNames storeMark)

variable {service : Service} {portal : Responder} {pid : PupilId} {p : Period} {shown : List Mark}
variable {rows : List StoredMark} {created : UInt32} {s t : Store} {w v : World} {fault : Fault}

/-! ### The transaction -/

/-- What the portal shows of a pupil in a period was merged into a store: each first mark of a name that the pupil
lacked there has a row now, at the end and in the order shown, and nothing else has changed. -/
structure Merges (pid : PupilId) (p : Period) (shown : List Mark) (s : Store) (rows : List StoredMark)
    (t : Store) : Prop where
  readable : Readable pid p s
  adds : Adds rows s t
  records : List.Forall₂ (Records s.subjects pid p) (Mark.firstsOf (markedNames pid p s) shown) rows

theorem appendMarks_eq (pid : PupilId) (p : Period) (shown : List Mark) : appendMarks pid p shown = (do
    let _ ← .reading (Store.findStudent pid)
    let stored ← .reading (Store.findMarks { MarksFilter.byPid pid with periods := [p] })
    let fresh := Mark.additions stored shown
    .forEach storeMark fresh
    pure (UInt32.ofNat fresh.length)) := rfl

/-- A merge that succeeds tells how many rows it added. -/
theorem appendMarks_ok (ordered : s.subjects.Pairwise fun a b => a.id < b.id)
    (own : ∀ mark ∈ shown, mark.pid = pid ∧ mark.period = p)
    (appends : appendMarks pid p shown s = (.ok created, t)) :
    ∃ rows, created = .ofNat rows.length ∧ Merges pid p shown s rows t := by
  rw [appendMarks_eq] at appends
  obtain ⟨student, _, finds, appends⟩ := bind_eq_ok.mp appends
  rw [reading_apply, Prod.mk.injEq] at finds
  obtain ⟨-, rfl⟩ := finds
  obtain ⟨stored, _, reads, appends⟩ := bind_eq_ok.mp appends
  rw [reading_apply, Prod.mk.injEq] at reads
  obtain ⟨found, rfl⟩ := reads
  obtain ⟨_, _, stores, ends⟩ := bind_eq_ok.mp appends
  cases ends
  have fresh : Mark.additions stored shown = Mark.firstsOf (markedNames pid p s) shown := by
    rw [Mark.additions_eq, Store.names_of_findMarks found]
  rw [fresh] at stores ⊢
  obtain ⟨rows, adds, records⟩ := Store.storeEach_ok ordered
    (fun mark hmark => own mark (Mark.mem_of_mem_firstsOf hmark)) stores
  exact ⟨rows, by rw [records.length_eq], ⟨⟨stored, found⟩, adds, records⟩⟩

/-- Where every name is there already nothing is added. -/
theorem appendMarks_idle {student : Student} (known : Store.findStudent pid s = .ok student)
    (readable : Readable pid p s) (all : ∀ mark ∈ shown, mark.subject.name ∈ markedNames pid p s) :
    appendMarks pid p shown s = (.ok 0, s) := by
  obtain ⟨stored, found⟩ := readable
  have fresh : Mark.additions stored shown = [] := by
    rw [Mark.additions_eq, Store.names_of_findMarks found, Mark.firstsOf_eq_nil all]
  rw [appendMarks_eq, bind_of_ok (by rw [reading_apply, known]), bind_of_ok (by rw [reading_apply, found]), fresh]
  rfl

/-- After a merge the pupil has a mark of every name that was shown. -/
theorem Merges.name_mem (h : Merges pid p shown s rows t)
    (ordered : s.subjects.Pairwise fun a b => a.id < b.id) {mark : Mark} (hmark : mark ∈ shown) :
    mark.subject.name ∈ markedNames pid p t := by
  by_cases known : mark.subject.name ∈ markedNames pid p s
  · exact h.adds.markedNames_subset known
  · have first := Mark.name_mem_firstsOf.mpr ⟨List.mem_map_of_mem hmark, known⟩
    obtain ⟨added, hadded, hname⟩ := List.mem_map.mp first
    obtain ⟨row, hrow, record⟩ := exists_of_forall₂ h.records hadded
    rw [← h.adds.subjects] at record ordered
    have stored : row ∈ t.marks := by
      rw [h.adds.marks]
      exact List.mem_append_right _ hrow
    rw [← hname]
    exact record.mem_markedNames stored ordered

/-! ### The fetch -/

/-- The calls for a pupil's marks in a period: one for a full period, and none for any other. -/
def marksCalls (pid : PupilId) (p : Period) : List Call :=
  match p.term, p.column with
  | some term, some column =>
    [.marksheet pid { years := [p.academicYear], periods := [term.label], columns := [column] }]
  | _, _ => []

/-- What the portal shows of a pupil's marks in a period, after some calls. -/
def shownMarks (portal : Responder) (earlier : List Call) (pid : PupilId) (p : Period) :
    Except Fault (List Mark) :=
  match p.term, p.column with
  | some term, some column =>
    match portal.marksheet earlier pid
        { years := [p.academicYear], periods := [term.label], columns := [column] } with
    | .ok sheet =>
      match Marksheet.entries sheet with
      | .ok entries => .ok (entries.map (markOfEntry pid p))
      | .error e => .error (e.fault.within (marksIn pid p))
    | .error e => if e.isNotFound then .ok [] else .error (e.fault.within (marksIn pid p))
  | _, _ => .error (.invalid ("engage marks need a full period, got " ++ p.text))

theorem World.having_nil (w : World) : w.having [] = w := by
  unfold World.having
  rw [List.map_nil, List.append_nil]

/-- Fetching marks asks the portal and does nothing else. -/
theorem fetchMarks_apply (portal : Responder) (pid : PupilId) (p : Period) (w : World) :
    fetchMarks portal pid p w = (shownMarks portal w.calls pid p, w.having (marksCalls pid p)) := by
  unfold fetchMarks shownMarks marksCalls
  rcases p.term with _ | term
  · simp only [World.having_nil]
    rfl
  · rcases p.column with _ | column
    · simp only [World.having_nil]
      rfl
    · simp only [bind_apply, outcome_apply, ask_apply]
      cases portal.marksheet w.calls pid
          { years := [p.academicYear], periods := [term.label], columns := [column] } with
      | error e => by_cases missing : e.isNotFound = true <;> simp [missing, fail]
      | ok sheet => cases hentries : Marksheet.entries sheet <;> simp [hentries, fail]

theorem shownMarks_own {earlier : List Call} (shows : shownMarks portal earlier pid p = .ok shown) :
    ∀ mark ∈ shown, mark.pid = pid ∧ mark.period = p := by
  unfold shownMarks at shows
  split at shows
  · split at shows
    · split at shows
      · cases shows
        intro mark hmark
        obtain ⟨entry, -, rfl⟩ := List.mem_map.mp hmark
        exact ⟨rfl, rfl⟩
      · cases shows
    · split at shows
      · cases shows
        exact nofun
      · cases shows
  · cases shows

/-- What is shown rests on the answers about marksheets alone. -/
theorem shownMarks_congr {again : Responder} {earlier later : List Call}
    (same : again.marksheet later = portal.marksheet earlier) (pid : PupilId) (p : Period) :
    shownMarks again later pid p = shownMarks portal earlier pid p := by
  unfold shownMarks
  rw [same]

/-! ### Both together -/

theorem within_apply {α : Type} (context : String) (a : Session α) (w : World) :
    within context a w = ((a w).1.mapError (Fault.within context), (a w).2) := by
  unfold within mapError
  rcases a w with ⟨e | x, v⟩ <;> rfl

theorem gatherPeriod_of_shown (shows : shownMarks service.portal w.calls pid p = .ok shown) :
    service.gatherPeriod pid p w = within ("store " ++ marksIn pid p) (transact (appendMarks pid p shown))
      (w.having (marksCalls pid p)) := by
  unfold Service.gatherPeriod
  exact bind_of_ok (by rw [fetchMarks_apply, shows])

theorem gatherPeriod_of_error (shows : shownMarks service.portal w.calls pid p = .error fault) :
    service.gatherPeriod pid p w = (.error fault, w.having (marksCalls pid p)) := by
  unfold Service.gatherPeriod
  exact bind_of_error (by rw [fetchMarks_apply, shows])

end Gradebook.Sync
