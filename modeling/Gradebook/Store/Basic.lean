import Gradebook.Attempt
import Gradebook.Student

/-! The store: four tables and their counters. A student is known by the pupil's number, a subject by its
id and by its code, a link joins a student to a subject, and a mark belongs to a student and a
subject. Links and marks exist only between existing rows and go when their student goes. Ids of
subjects and marks count upwards and are never given again. Every write is stamped with the clock and
moves it on, so that a later write has a later stamp. -/

namespace Gradebook

structure StoredStudent where
  pid : PupilId
  name : String
  currentYear : Option Int
  attends : Bool
  createdAt : Timestamp
  updatedAt : Timestamp
  deriving DecidableEq, Repr

structure StoredSubject where
  id : Int
  code : String
  name : String
  deriving DecidableEq, Repr

/-- A subject that a student takes. -/
structure Link where
  pid : PupilId
  subjectId : Int
  deriving DecidableEq, Repr

/-- A stored mark. Year and percentage are plain integers and the term is a word, as tables hold them. -/
structure StoredMark where
  id : Int
  pid : PupilId
  subjectId : Int
  teacher : String
  percentage : Int
  academicYear : Int
  term : String
  column : String
  createdAt : Timestamp
  deriving DecidableEq, Repr

/-- The tables in the order of their keys, the largest ids ever given, and the clock. -/
structure Store where
  students : List StoredStudent := []
  subjects : List StoredSubject := []
  links : List Link := []
  marks : List StoredMark := []
  lastSubjectId : Int := 0
  lastMarkId : Int := 0
  clock : Timestamp := .epoch
  deriving DecidableEq, Repr

namespace Store

/-- How many levels the tests of one query may nest. -/
def maxDepth : Nat := 1000

inductive Error where
  | notFound (what : String)
  | conflict (message : String)
  | validation (message : String)
  | connection (reason : String)
  | migration (reason : String)
  | query (reason : String)
  deriving DecidableEq, Repr

namespace Error

def message : Error → String
  | .notFound what => "Not found: " ++ what
  | .conflict message => "Conflict: " ++ message
  | .validation message => "Validation failed: " ++ message
  | .connection reason => "Database connection failed: " ++ reason
  | .migration reason => "Migration failed: " ++ reason
  | .query reason => "Query failed: " ++ reason

def kind : Error → Fault.Kind
  | .notFound _ => .notFound
  | .conflict _ => .conflict
  | .validation _ => .invalid
  | .connection _ => .internal
  | .migration _ => .internal
  | .query _ => .internal

def isNotFound : Error → Bool
  | .notFound _ => true
  | _ => false

def fault (e : Error) : Fault := ⟨e.kind, e.message⟩

/-- How the engine below the store tells what it refuses. -/
def refusal (code : Nat) (text : String) : String :=
  "error returned from database: (code: " ++ toString code ++ ") " ++ text

/-- A row refers to a student or a subject that does not exist. -/
def brokenReference : Error := .query (refusal 787 "FOREIGN KEY constraint failed")

/-- A student who does not attend has a current year. -/
def yearWithoutAttendance : Error :=
  .query (refusal 275 "CHECK constraint failed: attends_school OR current_year IS NULL")

/-- The tests of a query nest too deeply. -/
def queryTooDeep : Error :=
  .query (refusal 1 ("Expression tree is too large (maximum depth " ++ toString maxDepth ++ ")"))

def pupilExists : Error := .conflict "UNIQUE constraint failed: students.pid"

/-- The store's file cannot be opened. -/
def cannotOpen : Error := .connection (refusal 14 "unable to open database file")

/-- The store's file holds something else. -/
def notStore : Error := .connection (refusal 26 "file is not a database")

/-- What the engine says to a write where there may be none. -/
def readOnlyRefusal : String := refusal 8 "attempt to write a readonly database"

def readOnly : Error := .query readOnlyRefusal

/-- An empty file cannot be made a store, for it can only be read. -/
def readOnlyFile : Error := .connection readOnlyRefusal

/-- The tables cannot be made, for the store can only be read. -/
def readOnlyTables : Error := .migration ("while executing migrations: " ++ readOnlyRefusal)

/-- A single row was asked for and there is none. -/
def noRow : Error := .notFound "row not found"

/-- No connection became free in time. -/
def poolTimedOut : Error := .connection "pool timed out while waiting for an open connection"

def poolClosed : Error := .connection "attempted to acquire a connection on a closed pool"

/-- The worker behind a connection is gone. -/
def workerCrashed : Error := .query "attempted to communicate with a crashed background worker"

end Error

abbrev Action (α : Type) := Attempt Store Error α

/-- One page of a result: a negative limit is none, and a negative offset is zero. -/
def page {α : Type} (limit offset : Option Int) (xs : List α) : List α :=
  let rest := xs.drop (offset.getD 0).toNat
  match limit with
  | none => rest
  | some n => if n < 0 then rest else rest.take n.toNat

/-- A stored integer as a 32-bit one, or why it does not fit. -/
def narrow (n : Int) : Except Text.NumeralFlaw Int32 :=
  if n < Int32.minValue.toInt then .error .tooSmall
  else if Int32.maxValue.toInt < n then .error .tooLarge
  else .ok (Int32.ofInt n)

def rowCounts (s : Store) : List Nat :=
  [s.students.length, s.subjects.length, s.links.length, s.marks.length]

end Store

end Gradebook
