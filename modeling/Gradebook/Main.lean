import Gradebook.Command.EnvFile
import Gradebook.Command.Run
import Std.Time.DateTime.Timestamp

/-! The program. It gathers what surrounds a run, runs the command that its arguments call for, and writes
what the run has to say. The store is kept in memory for the run, and without a network of its own the
program finds the portal unreachable. -/

namespace Gradebook.Command.Program

/-- What the program says about itself. -/
def answerTo (program : String) : Inquiry → String
  | .version => program ++ " 0.1.0\n"
  | .help =>
    "academic records sync\n\nUsage: " ++ program ++ " <COMMAND>\n\nCommands:\n"
      ++ "  refresh-students --start PID [--count N] [--purge]\n"
      ++ "  refresh-marks --pid PID --from PERIOD --to PERIOD\n"
      ++ "  student PID [--delete]\n"
      ++ "  marks PID [--period PERIOD [--to PERIOD]]\n"

/-- The variables that are set, and those that a file in the working directory adds. -/
def readEnvironment : IO Environment := do
  let mut known : List (String × String) := []
  for name in Settings.variableNames do
    if let some value ← IO.getEnv name then
      known := known ++ [(name, value)]
  let file ← try IO.FS.readFile ".env" catch _ => pure ""
  let all := EnvFile.extend file known
  pure fun name => all.lookup name

def readClock : IO Timestamp := do
  let now ← Std.Time.Timestamp.now
  pure ⟨now.val.second.val, now.val.nano.val.toNat⟩

/-- Runs a command and writes what it has to say. -/
def runCommand (command : Invocation) : IO UInt32 := do
  let environment ← readEnvironment
  let clock ← readClock
  let outcome := run {
    environment
    directory := []
    content := fun _ => .missing
    clock
    network := .unreachable
    thisYear := academicYearAt clock } command
  IO.print outcome.output
  IO.eprint outcome.complaint
  pure (UInt32.ofNat outcome.exitCode)

end Gradebook.Command.Program

open Gradebook.Command in
def main (arguments : List String) : IO UInt32 := do
  match Call.ofArguments arguments with
  | .ok (.run command) => Program.runCommand command
  | .ok (.inquire inquiry program) =>
    IO.print (Program.answerTo program inquiry)
    pure 0
  | .error misuse =>
    IO.eprintln ("error: " ++ misuse.message)
    pure 2
