import Gradebook.Command.Database.Basic
import Gradebook.Command.Follower
import Gradebook.Command.Invocation
import Gradebook.Command.LogFilter
import Gradebook.Jobs.Service

/-! Runs of the program. A run reads its settings, checks the log filter, opens the store, makes a client of
the portal, and performs its command; the first of these that fails ends the run. What it prints is
JSON: students and marks in the wide form, and a job's statuses in the compact form, one a line. -/

namespace Gradebook.Command

open Sync

/-- What a running command works on, and the lines it has printed. -/
structure Desk where
  world : World
  queue : Jobs.Queue
  printed : List String := []

abbrev Work (α : Type) := Attempt Desk Error α

/-- Work of the services. -/
def serve {α : Type} (a : Session α) : Work α :=
  .onPart Desk.world (fun world desk => { desk with world }) (a.mapError Error.service)

def printWide (value : Json) : Work Unit :=
  .change fun desk => { desk with printed := desk.printed ++ [Json.wide value] }

def followJob (s : Service) (payload : Jobs.Payload) : Work Unit := fun desk =>
  match Jobs.followThrough s payload false desk.queue desk.world with
  | (.error fault, queue, world) => (.error (.service fault), { desk with queue, world })
  | (.ok (job, statuses), queue, world) =>
    let follower := statuses.foldl (fun (f : Follower) status => f.print status) { job := job.id }
    (follower.verdict, { queue, world, printed := desk.printed ++ follower.lines })

def marksOf (s : Service) (pid : PupilId) : MarksScope → Session (List Mark)
  | .all => Service.findMarksOfPupil pid
  | .during period => s.findMarksInPeriod pid period
  | .between first last => s.findMarksInRange first last (.byPid pid)

def perform (s : Service) : Invocation → Work Unit
  | .refreshStudents request => followJob s (.students request)
  | .refreshMarks request => followJob s (.marks request)
  | .showStudent pid => do
    let student ← serve (s.findStudent pid)
    printWide student.toJson
  | .deleteStudent pid => serve (Service.deleteStudent pid)
  | .showMarks pid scope => do
    let marks ← serve (marksOf s pid scope)
    printWide (Json.list Mark.toJson marks)

/-- What surrounds a run: its variables, the directory in which it runs and what there is at each path, the
clock of a fresh store, the network, and the academic year in which it happens. -/
structure Surroundings where
  environment : Environment
  directory : Path
  content : Path → Content
  clock : Timestamp := .epoch
  network : Portal.Network
  thisYear : Year

/-- What a run leaves behind: the lines it printed, how it ended, what there is at the path of its store, and
the requests that it sent to the portal. -/
structure Outcome where
  printed : List String := []
  verdict : Except Error Unit
  left : Option (Path × Content) := none
  requests : List Portal.Request := []

/-- The settings of a run, once they and the log filter are found to be usable. -/
def prepare (environment : Environment) : Except Error Settings := do
  let settings ← (Settings.ofEnvironment environment).mapError Error.settings
  match LogFilter.check settings.logFilter with
  | .ok () => pure settings
  | .error defect =>
    throw (.logging ("invalid log filter " ++ Text.quoted settings.logFilter ++ ": "
      ++ defect.message))

def runOn (around : Surroundings) (settings : Settings) (command : Invocation) (database : Database)
    (store : Store) (readOnly : Bool) : Outcome :=
  match Portal.Client.ofSettings settings.portal with
  | .error e => { verdict := .error (.portal e), left := database.leave (.store store) }
  | .ok client =>
    let service : Service :=
      ⟨client.responder around.network, settings.forServices around.thisYear⟩
    let desk : Desk := ⟨{ store, readOnly }, { retention := settings.retention }, []⟩
    let (verdict, desk) := perform service command desk
    { printed := desk.printed
      verdict
      left := database.leave (.store desk.world.store)
      requests := (desk.world.calls.map client.request).filter fun request =>
        Portal.Request.isHeaderText request.authorization }

def run (around : Surroundings) (command : Invocation) : Outcome :=
  match prepare around.environment with
  | .error e => { verdict := .error e }
  | .ok settings =>
    match Database.ofUrl around.directory settings.databaseUrl with
    | .error e => { verdict := .error (.store e) }
    | .ok database =>
      let content := around.content database.path
      match database.openStore { clock := around.clock } content with
      | .error e => { verdict := .error (.store e), left := database.leave (database.found content) }
      | .ok (store, readOnly) => runOn around settings command database store readOnly

namespace Outcome

def exitCode (o : Outcome) : Nat :=
  match o.verdict with
  | .ok () => 0
  | .error e => e.exitCode

/-- What a run writes to its output. -/
def output (o : Outcome) : String := String.join (o.printed.map (· ++ "\n"))

/-- What a run complains about. -/
def complaint (o : Outcome) : String :=
  match o.verdict with
  | .ok () => ""
  | .error e => "Error: " ++ e.message ++ "\n"

end Outcome

end Gradebook.Command
