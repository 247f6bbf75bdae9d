import Gradebook.Json.Record
import Gradebook.Json.Tagged
import Gradebook.Ranking

/-! The JSON forms of periods, subjects, marks, students, filters and rankings. Parts that are not set are
left out, except in filters, where they are null. Reading is the inverse of writing, and also takes
records whose defaulted members are missing. -/

namespace Gradebook

open Json

def Int32.toJson (n : Int32) : Json := .int n.toInt

def Int64.toJson (n : Int64) : Json := .int n.toInt

def Timestamp.toJson (t : Timestamp) : Json := .str t.text

def Timestamp.ofJson (j : Json) : Except Flaw Timestamp := do
  match Timestamp.parse? (← toText j) with
  | some t => pure t
  | none => throw (.mismatch "a moment")

def Fault.Kind.toJson (kind : Fault.Kind) : Json := .str kind.word

def Fault.Kind.ofJson (j : Json) : Except Flaw Fault.Kind := toWord Fault.Kind.ofWord? j

def Fault.toJson (f : Fault) : Json := .obj [("kind", f.kind.toJson), ("message", .str f.message)]

def Fault.ofJson (j : Json) : Except Flaw Fault := do
  let r ← toRecord ["kind", "message"] j
  pure ⟨← r.required "kind" Fault.Kind.ofJson, ← r.required "message" toText⟩

def Term.toJson (term : Term) : Json := .str term.word

def Term.ofJson (j : Json) : Except Flaw Term := toWord Term.ofWord? j

namespace Period

def toJson (p : Period) : Json :=
  .obj ([("academic_year", Int32.toJson p.academicYear)]
    ++ memberIfSome "term" Term.toJson p.term
    ++ memberIfSome "importance" Json.str p.column)

def ofJson (j : Json) : Except Flaw Period := do
  let r ← toRecord ["academic_year", "term", "importance"] j
  pure {
    academicYear := ← r.required "academic_year" toInt32
    term := ← r.optional "term" Term.ofJson
    column := ← r.optional "importance" toText }

end Period

def Percentage.toJson (p : Percentage) : Json := .int p.value

def Percentage.ofJson (j : Json) : Except Flaw Percentage := do
  match Percentage.ofInt? (← toWideInt j) with
  | some p => pure p
  | none => throw (.mismatch "a percentage")

namespace Subject

def toJson (s : Subject) : Json :=
  .obj (memberIfSome "id" Json.int s.id ++ [("engage_code", .str s.code), ("name", .str s.name)])

def ofJson (j : Json) : Except Flaw Subject := do
  let r ← toRecord ["id", "engage_code", "name"] j
  pure {
    id := ← r.optional "id" toWideInt
    code := ← r.withDefault "engage_code" "" toText
    name := ← r.withDefault "name" "" toText }

end Subject

namespace Mark

def toJson (m : Mark) : Json :=
  .obj (memberIfSome "id" Json.int m.id
    ++ [("student_pid", Int64.toJson m.pid), ("subject", m.subject.toJson),
        ("teacher", .str m.teacher), ("percentage", m.percentage.toJson),
        ("period", m.period.toJson)]
    ++ memberIfSome "created_at" Timestamp.toJson m.createdAt)

def ofJson (j : Json) : Except Flaw Mark := do
  let r ← toRecord ["id", "student_pid", "subject", "teacher", "percentage", "period",
    "created_at"] j
  pure {
    id := ← r.optional "id" toWideInt
    pid := ← r.required "student_pid" toInt64
    subject := ← r.required "subject" Subject.ofJson
    teacher := ← r.required "teacher" toText
    percentage := ← r.required "percentage" Percentage.ofJson
    period := ← r.required "period" Period.ofJson
    createdAt := ← r.optional "created_at" Timestamp.ofJson }

end Mark

namespace Student

def toJson (s : Student) : Json :=
  .obj ([("pid", Int64.toJson s.pid), ("name", .str s.name)]
    ++ memberIfSome "current_year" Int32.toJson s.currentYear
    ++ [("attends_school", .bool s.attends), ("subjects", list Subject.toJson s.subjects),
        ("marks", list Mark.toJson s.marks)]
    ++ memberIfSome "created_at" Timestamp.toJson s.createdAt
    ++ memberIfSome "updated_at" Timestamp.toJson s.updatedAt)

def ofJson (j : Json) : Except Flaw Student := do
  let r ← toRecord ["pid", "name", "current_year", "attends_school", "subjects", "marks",
    "created_at", "updated_at"] j
  pure {
    pid := ← r.required "pid" toInt64
    name := ← r.required "name" toText
    currentYear := ← r.optional "current_year" toInt32
    attends := ← r.required "attends_school" toBool
    subjects := ← r.withDefault "subjects" [] (toList Subject.ofJson)
    marks := ← r.withDefault "marks" [] (toList Mark.ofJson)
    createdAt := ← r.optional "created_at" Timestamp.ofJson
    updatedAt := ← r.optional "updated_at" Timestamp.ofJson }

end Student

namespace MarksFilter

def toJson (f : MarksFilter) : Json :=
  .obj [("id", nullable Json.int f.id), ("pid", nullable Int64.toJson f.pid),
    ("subject_id", nullable Json.int f.subjectId), ("periods", list Period.toJson f.periods),
    ("offset", nullable Json.int f.offset), ("limit", nullable Json.int f.limit)]

def ofJson (j : Json) : Except Flaw MarksFilter := do
  let r ← toRecord ["id", "pid", "subject_id", "periods", "offset", "limit"] j
  pure {
    id := ← r.optional "id" toWideInt
    pid := ← r.optional "pid" toInt64
    subjectId := ← r.optional "subject_id" toWideInt
    periods := ← r.withDefault "periods" [] (toList Period.ofJson)
    offset := ← r.optional "offset" toWideInt
    limit := ← r.optional "limit" toWideInt }

end MarksFilter

namespace StudentFilter

def toJson (f : StudentFilter) : Json :=
  .obj [("pid", nullable Int64.toJson f.pid), ("year", nullable Int32.toJson f.year),
    ("attends_school", nullable Json.bool f.attends),
    ("subject_id", nullable Json.int f.subjectId), ("offset", nullable Json.int f.offset),
    ("limit", nullable Json.int f.limit)]

def ofJson (j : Json) : Except Flaw StudentFilter := do
  let r ← toRecord ["pid", "year", "attends_school", "subject_id", "offset", "limit"] j
  pure {
    pid := ← r.optional "pid" toInt64
    year := ← r.optional "year" toInt32
    attends := ← r.optional "attends_school" toBool
    subjectId := ← r.optional "subject_id" toWideInt
    offset := ← r.optional "offset" toWideInt
    limit := ← r.optional "limit" toWideInt }

end StudentFilter

namespace RankingFilter

def toJson (f : RankingFilter) : Json :=
  .obj [("year", nullable Int32.toJson f.year), ("subjects", list Subject.toJson f.subjects),
    ("period", nullable Period.toJson f.period)]

def ofJson (j : Json) : Except Flaw RankingFilter := do
  let r ← toRecord ["year", "subjects", "period"] j
  pure {
    year := ← r.optional "year" toInt32
    subjects := ← r.withDefault "subjects" [] (toList Subject.ofJson)
    period := ← r.optionalByName "period" Period.ofJson }

end RankingFilter

namespace Rank

def toJson (k : Rank) : Json :=
  .obj ([("id", Int64.toJson k.id), ("score", .int k.score.toNat)]
    ++ memberIfSome "position" (fun n : UInt32 => Json.int n.toNat) k.position
    ++ [("pid", Int64.toJson k.pid), ("subjects", list Subject.toJson k.subjects),
        ("period", k.period.toJson), ("generated_at", k.generatedAt.toJson)])

def ofJson (j : Json) : Except Flaw Rank := do
  let r ← toRecord ["id", "score", "position", "pid", "subjects", "period", "generated_at"] j
  pure {
    id := ← r.required "id" toInt64
    score := ← r.required "score" toUInt8
    position := ← r.optional "position" toUInt32
    pid := ← r.required "pid" toInt64
    subjects := ← r.required "subjects" (toList Subject.ofJson)
    period := ← r.required "period" Period.ofJson
    generatedAt := ← r.required "generated_at" Timestamp.ofJson }

end Rank

end Gradebook
