import Gradebook.Jobs.Status
import Gradebook.Wire.School

/-! The JSON forms of refresh requests and of jobs. Payloads and statuses are tagged records: their kind is
a member beside the members of the kind. -/

namespace Gradebook

open Json

def UInt32.toJson (n : UInt32) : Json := .int n.toNat

namespace RefreshStudents

def members (r : RefreshStudents) : List (String × Json) :=
  [("start_pid", Int64.toJson r.start), ("n", UInt32.toJson r.count), ("purge", .bool r.purge)]

def toJson (r : RefreshStudents) : Json := .obj r.members

def ofJson (j : Json) : Except Flaw RefreshStudents := do
  let r ← toRecord ["start_pid", "n", "purge"] j
  pure {
    start := ← r.required "start_pid" toInt64
    count := ← r.required "n" toUInt32
    purge := ← r.withDefault "purge" false toBool }

end RefreshStudents

namespace RefreshMarks

def members (r : RefreshMarks) : List (String × Json) :=
  [("pid", Int64.toJson r.pid), ("from", r.first.toJson), ("to", r.last.toJson)]

def toJson (r : RefreshMarks) : Json := .obj r.members

def ofJson (j : Json) : Except Flaw RefreshMarks := do
  let r ← toRecord ["pid", "from", "to"] j
  pure {
    pid := ← r.required "pid" toInt64
    first := ← r.required "from" Period.ofJson
    last := ← r.required "to" Period.ofJson }

end RefreshMarks

namespace Summary

def toJson (s : Summary) : Json :=
  .obj [("created", UInt32.toJson s.created), ("updated", UInt32.toJson s.updated),
    ("deleted", UInt32.toJson s.deleted), ("skipped", UInt32.toJson s.skipped),
    ("unchanged", UInt32.toJson s.unchanged)]

def ofJson (j : Json) : Except Flaw Summary := do
  let r ← toRecord ["created", "updated", "deleted", "skipped", "unchanged"] j
  pure {
    created := ← r.required "created" toUInt32
    updated := ← r.required "updated" toUInt32
    deleted := ← r.required "deleted" toUInt32
    skipped := ← r.required "skipped" toUInt32
    unchanged := ← r.required "unchanged" toUInt32 }

end Summary

namespace Jobs

namespace Payload

def toJson (p : Payload) : Json :=
  .obj (("kind", .str p.word) :: match p with
    | .students r => r.members
    | .marks r => r.members)

/-- Reads a payload that stands inside `outer` containers. -/
def ofJsonWithin (outer : Nat) (j : Json) : Except Flaw Payload := do
  let (kind, body) ← toTagged "kind" (maxDepth - outer) j
  match ← toText kind with
  | "refresh_students" => return .students (← RefreshStudents.ofJson body)
  | "refresh_marks" => return .marks (← RefreshMarks.ofJson body)
  | _ => throw (.mismatch "a kind of job")

def ofJson (j : Json) : Except Flaw Payload := ofJsonWithin 0 j

end Payload

namespace Job

def toJson (job : Job) : Json := .obj [("id", .int job.id), ("payload", job.payload.toJson)]

def ofJson (j : Json) : Except Flaw Job := do
  let r ← toRecord ["id", "payload"] j
  pure ⟨← r.required "id" toWideInt, ← r.required "payload" (Payload.ofJsonWithin 1)⟩

end Job

namespace Status

/-- The members of a status, its name first. -/
def members (s : Status) : List (String × Json) :=
  ("status", .str s.word) :: match s with
    | .queued => []
    | .running detail => [("detail", .str detail)]
    | .done summary => [("summary", summary.toJson)]
    | .cancelled => []
    | .failed fault => [("error", fault.toJson)]

def toJson (s : Status) : Json := .obj s.members

def ofJson (j : Json) : Except Flaw Status := do
  let (kind, body) ← toTagged "status" maxDepth j
  match ← toText kind with
  | "queued" =>
    toNoMembers body
    return .queued
  | "running" => return .running (← (← toRecord ["detail"] body).required "detail" toText)
  | "done" => return .done (← (← toRecord ["summary"] body).required "summary" Summary.ofJson)
  | "cancelled" =>
    toNoMembers body
    return .cancelled
  | "failed" => return .failed (← (← toRecord ["error"] body).required "error" Fault.ofJson)
  | _ => throw (.mismatch "a status")

end Status

end Jobs

end Gradebook
