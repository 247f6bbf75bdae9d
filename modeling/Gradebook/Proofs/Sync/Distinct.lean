import Gradebook.Proofs.Store.Built
import Gradebook.Proofs.Sync.Interleaving

/-! No mark is stored twice. Marks of one pupil and one period with subjects of one name are the same mark, which the
tables alone do not rule out: names are not unique, and what the portal showed may be stale when it is merged. Still no
two stored marks are the same, because a merge looks at the names in its own transaction and because the name under an
id never changes. -/

namespace Gradebook.Store

open Attempt

/-- The name of the subject of a row. -/
def nameOf (s : Store) (row : StoredMark) : Option String := (s.storedSubject? row.subjectId).map (·.name)

/-- Two rows of the same mark: one pupil, one period and one subject name. -/
def SameMark (s : Store) (a b : StoredMark) : Prop :=
  a.pid = b.pid ∧ a.academicYear = b.academicYear ∧ a.term = b.term ∧ a.column = b.column ∧ s.nameOf a = s.nameOf b

/-- No two rows are of the same mark. -/
def Distinct (s : Store) : Prop := s.marks.Pairwise fun a b => ¬SameMark s a b

/-- A store with no other marks than an earlier one, and with further subjects at most. -/
structure Thins (s t : Store) : Prop where
  subjects : s.subjects <+: t.subjects
  marks : t.marks.Sublist s.marks

instance : IsPreorder Store Thins where
  refl _ := ⟨List.prefix_rfl, List.Sublist.refl _⟩
  trans _ _ _ h k := ⟨h.subjects.trans k.subjects, k.marks.trans h.marks⟩

variable {s t : Store} {pid : PupilId} {p : Period} {a b row : StoredMark} {rows : List StoredMark}

/-! ### Names -/

/-- The name under an id never changes. -/
theorem nameOf_of_prefix (stored : s.hasSubject row.subjectId = true) (grows : s.subjects <+: t.subjects) :
    t.nameOf row = s.nameOf row := by
  unfold nameOf storedSubject?
  cases hfind : s.subjects.find? (·.id == row.subjectId) with
  | none =>
      obtain ⟨subject, hsubject, hid⟩ := hasSubject_iff.mp stored
      rw [List.find?_eq_none] at hfind
      exact absurd (beq_iff_eq.mpr hid) (hfind subject hsubject)
  | some subject => rw [grows.find?_eq_some hfind]

theorem Adds.nameOf_eq (h : Adds rows s t) (row : StoredMark) : t.nameOf row = s.nameOf row := by
  unfold nameOf
  rw [h.storedSubject?_eq]

theorem Records.nameOf_eq {mark : Mark} (h : Records s.subjects pid p mark row)
    (ordered : s.subjects.Pairwise fun a b => a.id < b.id) : s.nameOf row = some mark.subject.name := by
  obtain ⟨subject, hsubject, hid, hname, -⟩ := h.subject
  unfold nameOf
  rw [hid, storedSubject?_of_mem ordered hsubject, Option.map_some, hname]

theorem names_of_records {marks : List Mark} (records : List.Forall₂ (Records s.subjects pid p) marks rows)
    (ordered : s.subjects.Pairwise fun a b => a.id < b.id) :
    rows.map s.nameOf = (marks.map (·.subject.name)).map some := by
  induction records with
  | nil => rfl
  | cons record _ ih => rw [List.map_cons, List.map_cons, List.map_cons, ih, record.nameOf_eq ordered]

/-! ### What keeps marks apart -/

/-- Where no mark is added and no name changes, marks stay apart. -/
theorem Distinct.thin (distinct : s.Distinct) (sound : s.Sound) (thins : Thins s t) : t.Distinct := by
  refine (distinct.sublist thins.marks).imp_of_mem ?_
  intro a b ha hb apart same
  have kept (row : StoredMark) (hrow : row ∈ t.marks) : t.nameOf row = s.nameOf row :=
    nameOf_of_prefix (sound.markReferences row (thins.marks.subset hrow)).2 thins.subjects
  obtain ⟨hpid, hyear, hterm, hcolumn, hname⟩ := same
  rw [kept a ha, kept b hb] at hname
  exact apart ⟨hpid, hyear, hterm, hcolumn, hname⟩

/-- A mark that is there already is known by its name. -/
theorem mem_markedNames_of_same {mark : Mark} (ha : a ∈ s.marks) (record : Records s.subjects pid p mark b)
    (ordered : s.subjects.Pairwise fun a b => a.id < b.id) (same : SameMark s a b) :
    mark.subject.name ∈ markedNames pid p s := by
  obtain ⟨hpid, hyear, hterm, hcolumn, hname⟩ := same
  rw [record.nameOf_eq ordered] at hname
  obtain ⟨subject, hsubject, hsame⟩ := Option.map_eq_some_iff.mp hname
  have inside : a.isWithin p = b.isWithin p := by
    unfold StoredMark.isWithin
    rw [hyear, hterm, hcolumn]
  exact mem_markedNames.mpr ⟨a, ha, subject, hsubject, hpid.trans record.pid, inside.trans record.isWithin, hsame⟩

end Gradebook.Store

namespace Gradebook.Sync

open Portal Attempt
open Store (Sound Distinct Thins SameMark Records)

variable {s t : Store} {pid : PupilId} {p : Period} {shown : List Mark} {rows : List StoredMark}

/-- A merge adds no mark that is there already, and none twice. -/
theorem Merges.distinct (h : Merges pid p shown s rows t) (sound : s.Sound) (distinct : s.Distinct) :
    t.Distinct := by
  have names := Store.names_of_records h.records sound.subjects
  have renamed (a b : StoredMark) : SameMark t a b ↔ SameMark s a b := by
    unfold SameMark
    rw [h.adds.nameOf_eq, h.adds.nameOf_eq]
  unfold Distinct
  simp only [renamed]
  rw [h.adds.marks]
  refine List.pairwise_append.mpr ⟨distinct, ?_, ?_⟩
  · have apart : (rows.map s.nameOf).Nodup := by
      rw [names]
      exact List.Pairwise.map some (fun _ _ apart same => apart (Option.some.inj same)) (Mark.nodup_firstsOf _ shown)
    refine (List.pairwise_map.mp apart).imp ?_
    intro a b differ same
    exact differ same.2.2.2.2
  · intro a ha b hb same
    obtain ⟨mark, hmark, record⟩ := exists_of_forall₂ h.records.flip hb
    have new := (Mark.name_mem_firstsOf.mp (List.mem_map_of_mem hmark)).2
    exact new (Store.mem_markedNames_of_same ha record sound.subjects same)

theorem appendMarks_sound (pid : PupilId) (p : Period) (shown : List Mark) :
    (appendMarks pid p shown).Moves (Upholds Sound) := by
  rw [appendMarks_eq]
  refine .bind (.reading _) fun _ => .bind (.reading _) fun stored => ?_
  exact .bind (.forEach _ fun mark _ => Store.storeMark_sound mark) fun _ => .pure _

/-! ### What operations on students take away -/

theorem enrollEach_thins (pid : PupilId) (subjects : List Subject) :
    (forEach (Store.enroll pid) subjects).Moves Thins := by
  refine (Store.enrollEach_enrolls pid subjects).mono fun s t h => ⟨h.subjects, ?_⟩
  rw [h.marks]

theorem createStudent_thins (student : Student) : (Store.createStudent student).Moves Thins := by
  refine Store.createStudent_moves (fun name year attends s => ?_) (enrollEach_thins student.pid student.subjects)
  unfold Store.insertStudent
  split
  · exact refl_of Thins s
  · split
    · exact refl_of Thins s
    · exact ⟨List.prefix_rfl, List.Sublist.refl _⟩

theorem updateStudent_thins (prev next : Student) : (Store.updateStudent prev next).Moves Thins :=
  Store.updateStudent_moves (enrollEach_thins prev.pid) fun _ _ _ => ⟨List.prefix_rfl, List.Sublist.refl _⟩

theorem deleteStudent_thins (pid : PupilId) : (Store.deleteStudent pid).Moves Thins := by
  intro s
  unfold Store.deleteStudent
  split
  · exact ⟨List.prefix_rfl, List.filter_sublist⟩
  · exact refl_of Thins s

theorem deleteMark_thins (id : Int) : (Store.deleteMark id).Moves Thins := by
  intro s
  unfold Store.deleteMark
  split
  · exact ⟨List.prefix_rfl, List.filter_sublist⟩
  · exact refl_of Thins s

/-! ### Every transaction -/

/-- Work that adds no marks keeps them apart. -/
theorem distinct_of_thins {α : Type} {action : Store.Action α} {x : α} (sounds : action.Moves (Upholds Sound))
    (thins : action.Moves Thins) (h : s.Sound ∧ s.Distinct) (does : action s = (.ok x, t)) :
    t.Sound ∧ t.Distinct := by
  have sound : t.Sound := sounds.leads does h.1
  exact ⟨sound, h.2.thin h.1 (thins.leads does)⟩

theorem kept_distinct : Kept fun s => s.Sound ∧ s.Distinct where
  empty clock := ⟨.empty clock, List.Pairwise.nil⟩
  tick s clock h := ⟨h.1.tick clock, h.2⟩
  reconcile pid purge known s action t h does :=
    distinct_of_thins (reconcileWith_sound pid purge known)
      (reconcileWith_moves purge pid known createStudent_thins updateStudent_thins (deleteStudent_thins pid)) h does
  create student s given t h does :=
    distinct_of_thins (Store.createStudent_sound student) (createStudent_thins student) h does
  append pid p shown s created t own h does := by
    obtain ⟨rows, -, merges⟩ := appendMarks_ok h.1.subjects own does
    exact ⟨(appendMarks_sound pid p shown).leads does h.1, merges.distinct h.1 h.2⟩
  deleteStudent pid s t h does :=
    distinct_of_thins (Store.deleteStudent_sound pid) (deleteStudent_thins pid) h does
  deleteMark id s t h does := distinct_of_thins (Store.deleteMark_sound id) (deleteMark_thins id) h does

/-- **No mark is stored twice.** However many errands run side by side and however their calls and transactions are
interleaved, and whatever the portal shows to whom and when, no two stored marks are of one pupil, one period and
subjects of one name, and the subject of each is stored. -/
theorem marks_distinct {o : Office} (reached : o.Reached) :
    o.world.store.marks.Pairwise (fun a b => ¬SameMark o.world.store a b) ∧
      ∀ row ∈ o.world.store.marks, ∃ name, o.world.store.nameOf row = some name := by
  have inLine := reached.inLine kept_distinct
  refine ⟨inLine.store.2, ?_⟩
  intro row hrow
  obtain ⟨subject, hsubject, hid⟩ := Store.hasSubject_iff.mp (inLine.store.1.markReferences row hrow).2
  refine ⟨subject.name, ?_⟩
  unfold Store.nameOf
  rw [← hid, Store.storedSubject?_of_mem inLine.store.1.subjects hsubject, Option.map_some]

/-- A portal that shows a mark of art at first, and another mark of art and one of music later. -/
def racePortal : Responder where
  academicYears _ _ := .ok [2024]
  reportingPeriods _ _ _ := .ok ["Autumn Term"]
  reportingSubjects _ _ _ _ := .ok [{ code := "AR", name := "Art" }, { code := "MU", name := "Music" }]
  columnsForSubjects _ _ _ _ _ := .ok ["Test"]
  marksheet earlier _ query :=
    if query.subjects ≠ [] then .ok "<a>Ada</a>, Year 7"
    else if earlier.length = 5 then .ok "\t50, Art, Ms Lee<"
    else .ok "\t60, Art, Ms Lee<\t70, Music, Mr Bell<"

def raceService : Service := ⟨racePortal, { currentAcademicYear := 2024 }⟩

def raceRequest : RefreshMarks := ⟨7, .full 2024 .autumn "Test", .full 2024 .autumn "Test"⟩

/-- A pupil is found, and then two refreshes of the same column take turns: both fetch before either merges. -/
def raceOffice : Office :=
  let found := (Office.assign {} raceService (.findStudent 7)).turns (List.replicate 7 0)
  let refresh : Errand := .refreshMarks raceRequest .never
  ((found.assign raceService refresh).assign raceService refresh).turns [1, 2, 1, 2, 1, 2, 1, 2, 1, 2]

theorem raceOffice_reached : raceOffice.Reached := by
  have opened : Office.Reached {} := .opens .epoch false []
  have found := (opened.assign raceService (.findStudent 7)).turns (List.replicate 7 0)
  have refresh := (found.assign raceService (.refreshMarks raceRequest .never)).assign raceService
    (.refreshMarks raceRequest .never)
  exact refresh.turns [1, 2, 1, 2, 1, 2, 1, 2, 1, 2]

/-- The second refresh merged what it fetched before the first did, and only the mark that was still missing. -/
theorem marks_distinct_race : raceOffice.Reached ∧ raceOffice.world.calls.length = 7 ∧
    raceOffice.world.store.marks.map (fun row => (row.pid, row.subjectId, row.percentage)) = [(7, 1, 50), (7, 2, 70)] ∧
    raceOffice.world.store.marks.Pairwise (fun a b => ¬SameMark raceOffice.world.store a b) :=
  ⟨raceOffice_reached, by decide +kernel, by decide +kernel, (marks_distinct raceOffice_reached).1⟩

end Gradebook.Sync
