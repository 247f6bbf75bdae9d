import Gradebook.Command.Arguments
import Gradebook.Refresh

/-! What the program can be called to do. Two commands refresh the store in a job, one shows or deletes a
student, and one shows the marks of a student, those of a period, or those of a range of periods. -/

namespace Gradebook.Command

inductive MarksScope where
  | all
  | during (period : Period)
  | between (first last : Period)
  deriving DecidableEq, Repr

inductive Invocation where
  | refreshStudents (request : RefreshStudents)
  | refreshMarks (request : RefreshMarks)
  | showStudent (pid : PupilId)
  | deleteStudent (pid : PupilId)
  | showMarks (pid : PupilId) (scope : MarksScope)
  deriving DecidableEq, Repr

/-- What some arguments call for: a command, or an answer about the program. -/
inductive Call where
  | run (command : Invocation)
  | inquire (inquiry : Inquiry) (program : String)
  deriving DecidableEq, Repr

def readPupil (s : String) : Option PupilId := (Text.readInt64 s).toOption

def readPeriod (s : String) : Option Period := (Period.parse s).toOption

/-- A count is read as a wide integer, so that minus zero is a count. -/
def readCount (s : String) : Option UInt32 :=
  match Text.readInt64 s with
  | .ok n =>
    if 0 ≤ n.toInt ∧ n.toInt < UInt32.size then some (UInt32.ofNat n.toInt.toNat) else none
  | .error _ => none

/-- The call that some arguments make, unless they inquire about the program. -/
def Given.settle (g : Given) (program : String) (command : Except Misuse Invocation) :
    Except Misuse Call :=
  match g.inquiry with
  | some inquiry => .ok (.inquire inquiry program)
  | none => command.map .run

def callRefreshStudents (arguments : List String) : Except Misuse Call := do
  let g ← Given.read { options := ["--start", "--count"], switches := ["--purge"] } arguments
  let start ← g.value? "--start" readPupil
  let count ← g.value? "--count" readCount
  g.settle "scholar-refresh-students" do
    let start ← require "--start" start
    pure (.refreshStudents
      { start, count := count.getD 1, purge := g.switches.contains "--purge" })

def callRefreshMarks (arguments : List String) : Except Misuse Call := do
  let g ← Given.read { options := ["--pid", "--from", "--to"] } arguments
  let pid ← g.value? "--pid" readPupil
  let first ← g.value? "--from" readPeriod
  let last ← g.value? "--to" readPeriod
  g.settle "scholar-refresh-marks" do
    let pid ← require "--pid" pid
    let first ← require "--from" first
    let last ← require "--to" last
    pure (.refreshMarks { pid, first, last })

def callStudent (arguments : List String) : Except Misuse Call := do
  let g ← Given.read { switches := ["--delete"], operands := 1 } arguments
  let pid ← g.operand? 0 "PID" readPupil
  g.settle "scholar-student" do
    let pid ← require "PID" pid
    pure (if g.switches.contains "--delete" then .deleteStudent pid else .showStudent pid)

def callMarks (arguments : List String) : Except Misuse Call := do
  let g ← Given.read { options := ["--period", "--to"], operands := 1 } arguments
  let pid ← g.operand? 0 "PID" readPupil
  let first ← g.value? "--period" readPeriod
  let last ← g.value? "--to" readPeriod
  g.settle "scholar-marks" do
    let pid ← require "PID" pid
    match first, last with
    | none, none => pure (.showMarks pid .all)
    | some period, none => pure (.showMarks pid (.during period))
    | some first, some last => pure (.showMarks pid (.between first last))
    | none, some _ => throw (.missing "--period")

/-- The call about a command that some arguments name. -/
def callHelp : List String → Except Misuse Call
  | [] => .ok (.inquire .help "scholar")
  | [name] =>
    if ["refresh-students", "refresh-marks", "student", "marks", "help"].contains name then
      .ok (.inquire .help ("scholar-" ++ name))
    else .error (.unknownCommand name)
  | _ :: name :: _ => .error (.unknownCommand name)

/-- The call that the arguments of the program make. -/
def Call.ofArguments : List String → Except Misuse Call
  | [] => .error .noCommand
  | name :: rest =>
    if Given.isOption name then
      match Given.inquiry? name with
      | some inquiry => .ok (.inquire inquiry "scholar")
      | none => .error (.unknownOption name)
    else if name = "refresh-students" then callRefreshStudents rest
    else if name = "refresh-marks" then callRefreshMarks rest
    else if name = "student" then callStudent rest
    else if name = "marks" then callMarks rest
    else if name = "help" then callHelp rest
    else .error (.unknownCommand name)

end Gradebook.Command
