import Gradebook.Proofs.Json.Roundtrip
import Gradebook.Proofs.Wire.Jobs

/-! What the texts on the wire stand for. A value that was written is read back as it was, and a percentage is only
ever read from an integer from 0 to 100, alone or within a mark, within a pupil, or within a list of them: a number
outside makes the whole text be refused. -/

namespace Gradebook

open Json

variable {α : Type} {text : String} {j : Json}

/-- The text of a value, read and decoded, is the value again. -/
def Survives (encode : α → Json) (decode : Json → Except Flaw α) (x : α) : Prop :=
  decodeText parse? decode (compact (encode x)) = .ok x

theorem survives_of_restores {encode : α → Json} {decode : Json → Except Flaw α} {x : α}
    (restores : Restores encode decode x) : Survives encode decode x := by
  rw [Survives, decodeText, parse?_compact]
  exact restores.decoded

/-! ### Percentages -/

/-- The value is an integer from 0 to 100, and the percentage is that integer. -/
def Percentage.IsShown (j : Json) (p : Percentage) : Prop :=
  ∃ n : Int, j = .int n ∧ 0 ≤ n ∧ n ≤ 100 ∧ (p.value : Int) = n

theorem Percentage.ofJson_eq_ok {p : Percentage} : Percentage.ofJson j = .ok p ↔ p.IsShown j := by
  unfold ofJson
  rw [except_bind_eq_ok]
  constructor
  · rintro ⟨n, wide, inside⟩
    obtain ⟨rfl, -⟩ := toInteger_eq_ok.mp wide
    cases read : ofInt? n with
    | none => rw [read] at inside; cases inside
    | some q =>
        rw [read] at inside
        cases inside
        exact ⟨n, rfl, ofInt?_eq_some.mp read⟩
  · rintro ⟨n, rfl, range⟩
    have wide : toWideInt (.int n) = .ok n :=
      toInteger_int (by rw [Int64.toInt_minValue]; omega) (by rw [Int64.toInt_maxValue]; omega)
    refine ⟨n, wide, ?_⟩
    rw [ofInt?_eq_some.mpr range]
    rfl

/-- The member names of a mark and of a pupil, in the order in which they are given by position. -/
def Mark.memberNames : List String :=
  ["id", "student_pid", "subject", "teacher", "percentage", "period", "created_at"]
def Student.memberNames : List String :=
  ["pid", "name", "current_year", "attends_school", "subjects", "marks", "created_at", "updated_at"]

/-- The record has an integer from 0 to 100 for the percentage, and the mark has that percentage. -/
def Mark.IsShown (j : Json) (m : Mark) : Prop :=
  ∃ r part, toRecord Mark.memberNames j = .ok r ∧ r.members.lookup "percentage" = some part ∧
    m.percentage.IsShown part

/-- The record has no marks and neither has the pupil, or it has one for each of the pupil's, with its percentage. -/
def Student.IsShown (j : Json) (s : Student) : Prop :=
  ∃ r, toRecord Student.memberNames j = .ok r ∧
    (r.members.lookup "marks" = none ∧ s.marks = [] ∨
      ∃ parts, r.members.lookup "marks" = some (.arr parts) ∧ List.Forall₂ Mark.IsShown parts s.marks)

theorem Mark.isShown_of_ofJson {m : Mark} (read : Mark.ofJson j = .ok m) : m.IsShown j := by
  obtain ⟨r, record, read⟩ := except_bind_eq_ok.mp read
  obtain ⟨_, -, read⟩ := except_bind_eq_ok.mp read
  obtain ⟨_, -, read⟩ := except_bind_eq_ok.mp read
  obtain ⟨_, -, read⟩ := except_bind_eq_ok.mp read
  obtain ⟨_, -, read⟩ := except_bind_eq_ok.mp read
  obtain ⟨percentage, checked, read⟩ := except_bind_eq_ok.mp read
  obtain ⟨_, -, read⟩ := except_bind_eq_ok.mp read
  obtain ⟨_, -, read⟩ := except_bind_eq_ok.mp read
  cases read
  obtain ⟨part, found, shown⟩ := Record.required_eq_ok.mp checked
  exact ⟨r, part, record, found, Percentage.ofJson_eq_ok.mp shown⟩

theorem Student.isShown_of_ofJson {s : Student} (read : Student.ofJson j = .ok s) : s.IsShown j := by
  obtain ⟨r, record, read⟩ := except_bind_eq_ok.mp read
  obtain ⟨_, -, read⟩ := except_bind_eq_ok.mp read
  obtain ⟨_, -, read⟩ := except_bind_eq_ok.mp read
  obtain ⟨_, -, read⟩ := except_bind_eq_ok.mp read
  obtain ⟨_, -, read⟩ := except_bind_eq_ok.mp read
  obtain ⟨_, -, read⟩ := except_bind_eq_ok.mp read
  obtain ⟨marks, checked, read⟩ := except_bind_eq_ok.mp read
  obtain ⟨_, -, read⟩ := except_bind_eq_ok.mp read
  obtain ⟨_, -, read⟩ := except_bind_eq_ok.mp read
  cases read
  refine ⟨r, record, ?_⟩
  unfold Record.withDefault at checked
  cases found : r.members.lookup "marks" with
  | none =>
      rw [found] at checked
      cases checked
      exact .inl ⟨rfl, rfl⟩
  | some part =>
      rw [found] at checked
      obtain ⟨parts, rfl, each⟩ := toList_eq_ok.mp checked
      exact .inr ⟨parts, rfl, each.imp fun _ _ => Mark.isShown_of_ofJson⟩

theorem shown_of_texts {decode : Json → Except Flaw α} {shown : Json → α → Prop}
    (each : ∀ {j : Json} {x : α}, decode j = .ok x → shown j x) {xs : List α}
    (read : decodeText parse? (toList decode) text = .ok xs) :
    ∃ parts, parse? text = some (.arr parts) ∧ List.Forall₂ shown parts xs := by
  obtain ⟨_, parsed, decoded⟩ := decodeText_eq_ok.mp read
  obtain ⟨parts, rfl, all⟩ := toList_eq_ok.mp decoded
  exact ⟨parts, parsed, all.imp fun _ _ => each⟩

/-! ### All that goes over the wire -/

/-- **What is written on the wire is read back, and percentages are checked.** Every status, job, payload, request,
summary, fault, period, percentage, subject, mark, pupil, filter and rank is what its own text is decoded to, whatever
of it is set, for numbers of rows of up to 64 bits and moments that the calendar has. No text is decoded to a
percentage but an integer from 0 to 100, which is then that integer; and no text to a mark, a pupil or a list of them
unless each of their percentages stands there as such an integer. -/
theorem values_survive :
    (∀ s : Jobs.Status, Survives Jobs.Status.toJson Jobs.Status.ofJson s) ∧
    (∀ job : Jobs.Job, job.Fits → Survives Jobs.Job.toJson Jobs.Job.ofJson job) ∧
    (∀ p : Jobs.Payload, Survives Jobs.Payload.toJson Jobs.Payload.ofJson p) ∧
    (∀ r : RefreshStudents, Survives RefreshStudents.toJson RefreshStudents.ofJson r) ∧
    (∀ r : RefreshMarks, Survives RefreshMarks.toJson RefreshMarks.ofJson r) ∧
    (∀ s : Summary, Survives Summary.toJson Summary.ofJson s) ∧
    (∀ f : Fault, Survives Fault.toJson Fault.ofJson f) ∧
    (∀ p : Period, Survives Period.toJson Period.ofJson p) ∧
    (∀ p : Percentage, Survives Percentage.toJson Percentage.ofJson p) ∧
    (∀ s : Subject, s.Fits → Survives Subject.toJson Subject.ofJson s) ∧
    (∀ m : Mark, m.Fits → Survives Mark.toJson Mark.ofJson m) ∧
    (∀ s : Student, s.Fits → Survives Student.toJson Student.ofJson s) ∧
    (∀ f : MarksFilter, f.Fits → Survives MarksFilter.toJson MarksFilter.ofJson f) ∧
    (∀ f : StudentFilter, f.Fits → Survives StudentFilter.toJson StudentFilter.ofJson f) ∧
    (∀ f : RankingFilter, f.Fits → Survives RankingFilter.toJson RankingFilter.ofJson f) ∧
    (∀ k : Rank, k.Fits → Survives Rank.toJson Rank.ofJson k) ∧
    (∀ text p, decodeText parse? Percentage.ofJson text = .ok p ↔ ∃ j, parse? text = some j ∧ p.IsShown j) ∧
    (∀ text m, decodeText parse? Mark.ofJson text = .ok m → ∃ j, parse? text = some j ∧ m.IsShown j) ∧
    (∀ text s, decodeText parse? Student.ofJson text = .ok s → ∃ j, parse? text = some j ∧ s.IsShown j) ∧
    (∀ text ms, decodeText parse? (toList Mark.ofJson) text = .ok ms →
      ∃ parts, parse? text = some (.arr parts) ∧ List.Forall₂ Mark.IsShown parts ms) ∧
    (∀ text ss, decodeText parse? (toList Student.ofJson) text = .ok ss →
      ∃ parts, parse? text = some (.arr parts) ∧ List.Forall₂ Student.IsShown parts ss) := by
  refine ⟨?_, ?_, ?_, ?_, ?_, ?_, ?_, ?_, ?_, ?_, ?_, ?_, ?_, ?_, ?_, ?_, ?_, ?_, ?_, ?_, ?_⟩
  · exact fun s => survives_of_restores (Jobs.Status.restores s)
  · exact fun _ fits => survives_of_restores (Jobs.Job.restores fits)
  · exact fun p => survives_of_restores (Jobs.Payload.restores p)
  · exact fun r => survives_of_restores (RefreshStudents.restores r)
  · exact fun r => survives_of_restores (RefreshMarks.restores r)
  · exact fun s => survives_of_restores (Summary.restores s)
  · exact fun f => survives_of_restores (Fault.restores f)
  · exact fun p => survives_of_restores (Period.restores p)
  · exact fun p => survives_of_restores (Percentage.restores p)
  · exact fun _ fits => survives_of_restores (Subject.restores fits)
  · exact fun _ fits => survives_of_restores (Mark.restores fits)
  · exact fun _ fits => survives_of_restores (Student.restores fits)
  · exact fun _ fits => survives_of_restores (MarksFilter.restores fits)
  · exact fun _ fits => survives_of_restores (StudentFilter.restores fits)
  · exact fun _ fits => survives_of_restores (RankingFilter.restores fits)
  · exact fun _ fits => survives_of_restores (Rank.restores fits)
  · intro text p
    simp only [decodeText_eq_ok, Percentage.ofJson_eq_ok]
  · intro text m read
    obtain ⟨j, parsed, decoded⟩ := decodeText_eq_ok.mp read
    exact ⟨j, parsed, Mark.isShown_of_ofJson decoded⟩
  · intro text s read
    obtain ⟨j, parsed, decoded⟩ := decodeText_eq_ok.mp read
    exact ⟨j, parsed, Student.isShown_of_ofJson decoded⟩
  · exact fun _ _ => shown_of_texts Mark.isShown_of_ofJson
  · exact fun _ _ => shown_of_texts Student.isShown_of_ofJson

/-- A subject, a mark and a pupil whose numbers lie at the ends of their ranges and whose texts need escapes. -/
def widestSubject : Subject := ⟨some Int64.minValue.toInt, "", "\"\\\n"⟩
def widestMark : Mark :=
  ⟨some Int64.maxValue.toInt, Int64.minValue, widestSubject, "", ⟨100, by decide⟩,
    ⟨Int32.minValue, some .summer, some "Exam"⟩, some ⟨Timestamp.endSecond - 1, 1999999999⟩⟩
def widestPupil : Student :=
  ⟨Int64.maxValue, "Ana", some Int32.maxValue, true, [widestSubject], [widestMark],
    some ⟨Timestamp.firstSecond, 0⟩, none⟩

theorem widestSubject_fits : widestSubject.Fits := by
  rintro n ⟨⟩
  exact ⟨by decide, by decide⟩

theorem widestMark_fits : widestMark.Fits where
  id := by
    rintro n ⟨⟩
    exact ⟨by decide, by decide⟩
  subject := widestSubject_fits
  createdAt := by
    rintro t ⟨⟩
    exact ⟨by decide, by decide, .inr ⟨by decide, by decide⟩⟩

theorem widestPupil_fits : widestPupil.Fits where
  subjects := List.forall_mem_singleton.mpr widestSubject_fits
  marks := List.forall_mem_singleton.mpr widestMark_fits
  createdAt := by
    rintro t ⟨⟩
    exact ⟨by decide, by decide, .inl (by decide)⟩
  updatedAt := nofun

theorem values_survive_widest :
    Survives Jobs.Job.toJson Jobs.Job.ofJson
      ⟨Int64.minValue.toInt, .students ⟨Int64.maxValue, 4294967295, false⟩⟩ ∧
    Survives Subject.toJson Subject.ofJson widestSubject ∧
    Survives Mark.toJson Mark.ofJson widestMark ∧
    Survives Student.toJson Student.ofJson widestPupil ∧
    Survives MarksFilter.toJson MarksFilter.ofJson
      ⟨some Int64.maxValue.toInt, none, none, [Period.ofYear 0], none, some Int64.minValue.toInt⟩ ∧
    Survives StudentFilter.toJson StudentFilter.ofJson
      ⟨none, some Int32.minValue, none, some Int64.maxValue.toInt, none, none⟩ ∧
    Survives RankingFilter.toJson RankingFilter.ofJson ⟨none, [widestSubject], none⟩ ∧
    Survives Rank.toJson Rank.ofJson
      ⟨Int64.minValue, 255, none, Int64.maxValue, [widestSubject], Period.ofYear 0, ⟨Timestamp.firstSecond, 1⟩⟩ ∧
    (∃ j, parse? (compact widestMark.toJson) = some j ∧ widestMark.IsShown j) ∧
    (∃ j, parse? (compact widestPupil.toJson) = some j ∧ widestPupil.IsShown j) ∧
    (∃ parts, parse? (compact (list Mark.toJson [widestMark])) = some (.arr parts) ∧
      List.Forall₂ Mark.IsShown parts [widestMark]) ∧
    (∃ parts, parse? (compact (list Student.toJson [widestPupil])) = some (.arr parts) ∧
      List.Forall₂ Student.IsShown parts [widestPupil]) := by
  obtain ⟨-, job, -, -, -, -, -, -, -, subject, mark, pupil, marks, pupils, ranking, rank, -, oneMark, onePupil,
    allMarks, allPupils⟩ := values_survive
  have wide : IsWide Int64.minValue.toInt ∧ IsWide Int64.maxValue.toInt :=
    ⟨⟨by decide, by decide⟩, ⟨by decide, by decide⟩⟩
  have markBack := mark widestMark widestMark_fits
  have pupilBack := pupil widestPupil widestPupil_fits
  refine ⟨job _ wide.1, subject _ widestSubject_fits, markBack, pupilBack, marks _ ?_, pupils _ ?_, ranking _ ?_,
    rank _ ?_, oneMark _ _ markBack, onePupil _ _ pupilBack, allMarks _ _ ?_, allPupils _ _ ?_⟩
  · exact ⟨by rintro n ⟨⟩; exact wide.2, nofun, nofun, by rintro n ⟨⟩; exact wide.1⟩
  · exact ⟨by rintro n ⟨⟩; exact wide.2, nofun, nofun⟩
  · exact List.forall_mem_singleton.mpr widestSubject_fits
  · exact ⟨List.forall_mem_singleton.mpr widestSubject_fits, by decide, by decide, .inl (by decide)⟩
  · exact survives_of_restores (restores_list (List.forall_mem_singleton.mpr (Mark.restores widestMark_fits)))
  · exact survives_of_restores (restores_list (List.forall_mem_singleton.mpr (Student.restores widestPupil_fits)))

end Gradebook
