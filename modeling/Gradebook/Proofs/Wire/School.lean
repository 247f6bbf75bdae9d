import Gradebook.Proofs.Json.Record
import Gradebook.Proofs.Timestamp.Text
import Gradebook.Wire.School

/-! The JSON forms of periods, subjects, marks, students, filters and rankings, read back. The numbers of stored rows
are 64-bit integers in JSON, and moments are texts: what is asked of a value is that its numbers fit and that the
calendar has its moments. Everything else about it comes back as it was. -/

namespace Gradebook

open Json

/-- A number that the JSON form of a row's number can hold. -/
def IsWide (n : Int) : Prop := Int64.minValue.toInt ≤ n ∧ n ≤ Int64.maxValue.toInt

/-! ### Numbers, moments and words -/

theorem restores_wide {n : Int} (wide : IsWide n) : Restores Json.int toWideInt n :=
  ⟨toInteger_int wide.1 wide.2, nofun⟩

theorem restores_int32 (n : Int32) : Restores Int32.toJson toInt32 n := by
  have above := n.le_toInt
  have below := n.toInt_lt
  refine ⟨?_, nofun⟩
  rw [Int32.toJson, toInt32, toInteger_int (by rw [Int32.toInt_minValue]; omega) (by rw [Int32.toInt_maxValue]; omega)]
  exact congrArg Except.ok n.ofInt_toInt

theorem restores_int64 (n : Int64) : Restores Int64.toJson toInt64 n := by
  have above := n.le_toInt
  have below := n.toInt_lt
  refine ⟨?_, nofun⟩
  rw [Int64.toJson, toInt64, toInteger_int (by rw [Int64.toInt_minValue]; omega) (by rw [Int64.toInt_maxValue]; omega)]
  exact congrArg Except.ok n.ofInt_toInt

theorem restores_uint32 (n : UInt32) : Restores (fun n : UInt32 => .int n.toNat) toUInt32 n := by
  have below := n.toNat_lt_size
  refine ⟨?_, nofun⟩
  rw [toUInt32, toInteger_int (by omega) (by omega)]
  exact congrArg Except.ok n.ofNat_toNat

theorem restores_uint8 (n : UInt8) : Restores (fun n : UInt8 => .int n.toNat) toUInt8 n := by
  have below := n.toNat_lt_size
  refine ⟨?_, nofun⟩
  rw [toUInt8, toInteger_int (by omega) (by omega)]
  exact congrArg Except.ok n.ofNat_toNat

theorem Timestamp.restores {t : Timestamp} (known : t.InCalendar) :
    Restores Timestamp.toJson Timestamp.ofJson t := by
  refine ⟨except_bind_of_ok rfl ?_, nofun⟩
  rw [parse?_text known]
  rfl

theorem Term.restores (term : Term) : Restores Term.toJson Term.ofJson term :=
  restores_word (by cases term <;> decide)

theorem Fault.Kind.restores (kind : Fault.Kind) : Restores Fault.Kind.toJson Fault.Kind.ofJson kind :=
  restores_word (by cases kind <;> decide)

theorem Percentage.restores (p : Percentage) : Restores Percentage.toJson Percentage.ofJson p := by
  have := p.le_hundred
  have wide : IsWide p.value := ⟨by rw [Int64.toInt_minValue]; omega, by rw [Int64.toInt_maxValue]; omega⟩
  refine ⟨except_bind_of_ok (restores_wide wide).decoded ?_, nofun⟩
  rw [ofInt?, dif_pos (by omega)]
  rfl

/-! ### Records -/

theorem Fault.restores (f : Fault) : Restores Fault.toJson Fault.ofJson f := by
  refine ⟨?_, nofun⟩
  refine except_bind_of_ok (toRecord_obj (named_fixed _) (by decide)) ?_
  refine except_bind_of_ok (Record.required_written rfl (Fault.Kind.restores f.kind)) ?_
  refine except_bind_of_ok (Record.required_written rfl (restores_text f.message)) ?_
  rfl

theorem Period.restores (p : Period) : Restores Period.toJson Period.ofJson p := by
  refine ⟨?_, nofun⟩
  refine except_bind_of_ok (toRecord_obj (((named_fixed _).append (named_memberIfSome ..)).append
    (named_memberIfSome ..)) (by decide)) ?_
  refine except_bind_of_ok (Record.required_written (by simp) (restores_int32 p.academicYear)) ?_
  refine except_bind_of_ok (x := p.term)
    (Record.optional_written (by simp [List.lookup_append]) fun term _ => Term.restores term) ?_
  refine except_bind_of_ok (x := p.column)
    (Record.optional_written (by simp [List.lookup_append]) fun column _ => restores_text column) ?_
  rfl

/-- The number of the subject, if it has one, fits its JSON form. -/
def Subject.Fits (s : Subject) : Prop := ∀ n ∈ s.id, IsWide n

theorem Subject.restores {s : Subject} (fits : s.Fits) : Restores Subject.toJson Subject.ofJson s := by
  refine ⟨?_, nofun⟩
  refine except_bind_of_ok (toRecord_obj ((named_memberIfSome ..).append (named_fixed _)) (by decide)) ?_
  refine except_bind_of_ok (x := s.id)
    (Record.optional_written (by simp [List.lookup_append]) fun n hn => restores_wide (fits n hn)) ?_
  refine except_bind_of_ok (Record.withDefault_written (by simp [List.lookup_append]) (restores_text s.code)) ?_
  refine except_bind_of_ok (Record.withDefault_written (by simp [List.lookup_append]) (restores_text s.name)) ?_
  rfl

/-- The numbers of the mark and of its subject fit their JSON forms, and the calendar has the moment of the mark. -/
structure Mark.Fits (m : Mark) : Prop where
  id : ∀ n ∈ m.id, IsWide n
  subject : m.subject.Fits
  createdAt : ∀ t ∈ m.createdAt, t.InCalendar

theorem Mark.restores {m : Mark} (fits : m.Fits) : Restores Mark.toJson Mark.ofJson m := by
  refine ⟨?_, nofun⟩
  refine except_bind_of_ok (toRecord_obj (((named_memberIfSome ..).append (named_fixed _)).append
    (named_memberIfSome ..)) (by decide)) ?_
  refine except_bind_of_ok (x := m.id)
    (Record.optional_written (by simp [List.lookup_append]) fun n hn => restores_wide (fits.id n hn)) ?_
  refine except_bind_of_ok (Record.required_written (by simp [List.lookup_append]) (restores_int64 m.pid)) ?_
  refine except_bind_of_ok
    (Record.required_written (by simp [List.lookup_append]) (Subject.restores fits.subject)) ?_
  refine except_bind_of_ok (Record.required_written (by simp [List.lookup_append]) (restores_text m.teacher)) ?_
  refine except_bind_of_ok
    (Record.required_written (by simp [List.lookup_append]) (Percentage.restores m.percentage)) ?_
  refine except_bind_of_ok (Record.required_written (by simp [List.lookup_append]) (Period.restores m.period)) ?_
  refine except_bind_of_ok (x := m.createdAt) (Record.optional_written (by simp [List.lookup_append])
    fun t ht => Timestamp.restores (fits.createdAt t ht)) ?_
  rfl

/-- The subjects and marks of the pupil fit their JSON forms, and the calendar has the moments of the pupil. -/
structure Student.Fits (s : Student) : Prop where
  subjects : ∀ subject ∈ s.subjects, subject.Fits
  marks : ∀ mark ∈ s.marks, mark.Fits
  createdAt : ∀ t ∈ s.createdAt, t.InCalendar
  updatedAt : ∀ t ∈ s.updatedAt, t.InCalendar

theorem Student.restores {s : Student} (fits : s.Fits) : Restores Student.toJson Student.ofJson s := by
  refine ⟨?_, nofun⟩
  refine except_bind_of_ok (toRecord_obj (((((named_fixed _).append (named_memberIfSome ..)).append
    (named_fixed _)).append (named_memberIfSome ..)).append (named_memberIfSome ..)) (by decide)) ?_
  refine except_bind_of_ok (Record.required_written (by simp) (restores_int64 s.pid)) ?_
  refine except_bind_of_ok (Record.required_written (by simp) (restores_text s.name)) ?_
  refine except_bind_of_ok (x := s.currentYear)
    (Record.optional_written (by simp [List.lookup_append]) fun year _ => restores_int32 year) ?_
  refine except_bind_of_ok (Record.required_written (by simp [List.lookup_append]) (restores_bool s.attends)) ?_
  refine except_bind_of_ok (Record.withDefault_written (by simp [List.lookup_append])
    (restores_list fun subject hs => Subject.restores (fits.subjects subject hs))) ?_
  refine except_bind_of_ok (Record.withDefault_written (by simp [List.lookup_append])
    (restores_list fun mark hm => Mark.restores (fits.marks mark hm))) ?_
  refine except_bind_of_ok (x := s.createdAt) (Record.optional_written (by simp [List.lookup_append])
    fun t ht => Timestamp.restores (fits.createdAt t ht)) ?_
  refine except_bind_of_ok (x := s.updatedAt) (Record.optional_written (by simp [List.lookup_append])
    fun t ht => Timestamp.restores (fits.updatedAt t ht)) ?_
  rfl

/-! ### Filters and ranks -/

/-- The numbers of the filter fit their JSON forms. -/
structure MarksFilter.Fits (f : MarksFilter) : Prop where
  id : ∀ n ∈ f.id, IsWide n
  subjectId : ∀ n ∈ f.subjectId, IsWide n
  offset : ∀ n ∈ f.offset, IsWide n
  limit : ∀ n ∈ f.limit, IsWide n

theorem MarksFilter.restores {f : MarksFilter} (fits : f.Fits) :
    Restores MarksFilter.toJson MarksFilter.ofJson f := by
  refine ⟨?_, nofun⟩
  refine except_bind_of_ok (toRecord_obj (named_fixed _) (by decide)) ?_
  refine except_bind_of_ok (x := f.id)
    (Record.optional_nullable (by simp) fun n hn => restores_wide (fits.id n hn)) ?_
  refine except_bind_of_ok (x := f.pid) (Record.optional_nullable (by simp) fun pid _ => restores_int64 pid) ?_
  refine except_bind_of_ok (x := f.subjectId)
    (Record.optional_nullable (by simp) fun n hn => restores_wide (fits.subjectId n hn)) ?_
  refine except_bind_of_ok (x := f.periods)
    (Record.withDefault_written (by simp) (restores_list fun period _ => Period.restores period)) ?_
  refine except_bind_of_ok (x := f.offset)
    (Record.optional_nullable (by simp) fun n hn => restores_wide (fits.offset n hn)) ?_
  refine except_bind_of_ok (x := f.limit)
    (Record.optional_nullable (by simp) fun n hn => restores_wide (fits.limit n hn)) ?_
  rfl

/-- The numbers of the filter fit their JSON forms. -/
structure StudentFilter.Fits (f : StudentFilter) : Prop where
  subjectId : ∀ n ∈ f.subjectId, IsWide n
  offset : ∀ n ∈ f.offset, IsWide n
  limit : ∀ n ∈ f.limit, IsWide n

theorem StudentFilter.restores {f : StudentFilter} (fits : f.Fits) :
    Restores StudentFilter.toJson StudentFilter.ofJson f := by
  refine ⟨?_, nofun⟩
  refine except_bind_of_ok (toRecord_obj (named_fixed _) (by decide)) ?_
  refine except_bind_of_ok (x := f.pid) (Record.optional_nullable (by simp) fun pid _ => restores_int64 pid) ?_
  refine except_bind_of_ok (x := f.year) (Record.optional_nullable (by simp) fun year _ => restores_int32 year) ?_
  refine except_bind_of_ok (x := f.attends) (Record.optional_nullable (by simp) fun b _ => restores_bool b) ?_
  refine except_bind_of_ok (x := f.subjectId)
    (Record.optional_nullable (by simp) fun n hn => restores_wide (fits.subjectId n hn)) ?_
  refine except_bind_of_ok (x := f.offset)
    (Record.optional_nullable (by simp) fun n hn => restores_wide (fits.offset n hn)) ?_
  refine except_bind_of_ok (x := f.limit)
    (Record.optional_nullable (by simp) fun n hn => restores_wide (fits.limit n hn)) ?_
  rfl

/-- The subjects of the filter fit their JSON forms. -/
def RankingFilter.Fits (f : RankingFilter) : Prop := ∀ subject ∈ f.subjects, subject.Fits

theorem RankingFilter.restores {f : RankingFilter} (fits : f.Fits) :
    Restores RankingFilter.toJson RankingFilter.ofJson f := by
  refine ⟨?_, nofun⟩
  refine except_bind_of_ok (toRecord_obj (named_fixed _) (by decide)) ?_
  refine except_bind_of_ok (x := f.year) (Record.optional_nullable (by simp) fun year _ => restores_int32 year) ?_
  refine except_bind_of_ok (Record.withDefault_written (by simp)
    (restores_list fun subject hs => Subject.restores (fits subject hs))) ?_
  refine except_bind_of_ok (x := f.period)
    (Record.optionalByName_nullable rfl (by simp) fun period _ => Period.restores period) ?_
  rfl

/-- The subjects of the rank fit their JSON forms, and the calendar has the moment of the rank. -/
structure Rank.Fits (k : Rank) : Prop where
  subjects : ∀ subject ∈ k.subjects, subject.Fits
  generatedAt : k.generatedAt.InCalendar

theorem Rank.restores {k : Rank} (fits : k.Fits) : Restores Rank.toJson Rank.ofJson k := by
  refine ⟨?_, nofun⟩
  refine except_bind_of_ok (toRecord_obj (((named_fixed _).append (named_memberIfSome ..)).append
    (named_fixed _)) (by decide)) ?_
  refine except_bind_of_ok (Record.required_written (by simp) (restores_int64 k.id)) ?_
  refine except_bind_of_ok (Record.required_written (by simp) (restores_uint8 k.score)) ?_
  refine except_bind_of_ok (x := k.position)
    (Record.optional_written (by simp [List.lookup_append]) fun n _ => restores_uint32 n) ?_
  refine except_bind_of_ok (Record.required_written (by simp [List.lookup_append]) (restores_int64 k.pid)) ?_
  refine except_bind_of_ok (Record.required_written (by simp [List.lookup_append])
    (restores_list fun subject hs => Subject.restores (fits.subjects subject hs))) ?_
  refine except_bind_of_ok (Record.required_written (by simp [List.lookup_append]) (Period.restores k.period)) ?_
  refine except_bind_of_ok
    (Record.required_written (by simp [List.lookup_append]) (Timestamp.restores fits.generatedAt)) ?_
  rfl

end Gradebook
