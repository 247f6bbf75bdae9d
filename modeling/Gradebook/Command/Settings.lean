import Gradebook.Portal.Client
import Gradebook.Sync.Session

/-! The settings of the program. They come from the variables of its environment, and all but the token of
the portal have a value of their own. The variables are read in a fixed order, and the first that cannot
be used stops the program before it touches anything. -/

namespace Gradebook.Command

abbrev Environment := String → Option String

/-- How the program works. Without a current academic year it is the year in which the program runs. -/
structure Settings where
  databaseUrl : String
  portal : Portal.Settings
  pacing : UInt64
  studentFallback : Bool
  markFallback : Bool
  currentAcademicYear : Option Year
  calendar : Calendar
  heartbeat : UInt64
  retention : Nat
  logFilter : String
  deriving DecidableEq, Repr

namespace Settings

def variableNames : List String :=
  ["DATABASE_URL", "ENGAGE_TOKEN", "ENGAGE_BASE_URL", "ENGAGE_TIMEOUT_SECS", "SYNC_PACING_MS",
    "SYNC_STUDENT_FALLBACK", "SYNC_MARK_FALLBACK", "CURRENT_ACADEMIC_YEAR", "PERIOD_IMPORTANCES",
    "JOB_HEARTBEAT_SECS", "RUST_LOG"]

inductive Defect where
  | missing (name : String)
  | unusable (name reason : String)
  deriving DecidableEq, Repr

def Defect.message : Defect → String
  | .missing name => "Missing required environment variable: " ++ name
  | .unusable name reason => "Invalid value for " ++ name ++ ": " ++ reason

/-- A number, with blanks around it, if the variable is set. -/
def number? {α : Type} (env : Environment) (name : String)
    (read : String → Except Text.NumeralFlaw α) : Except Defect (Option α) :=
  match env name with
  | none => .ok none
  | some text =>
    match read (Text.trim text) with
    | .ok n => .ok (some n)
    | .error flaw => .error (.unusable name flaw.message)

def truthOf? (word : String) : Option Bool :=
  if ["1", "true", "yes", "on"].contains word then some true
  else if ["0", "false", "no", "off"].contains word then some false
  else none

/-- A truth in any case and with blanks around it, if the variable is set. -/
def flag? (env : Environment) (name : String) : Except Defect (Option Bool) :=
  match env name with
  | none => .ok none
  | some text =>
    let word := Text.lowercase (Text.trim text)
    match truthOf? word with
    | some truth => .ok (some truth)
    | none => .error (.unusable name ("expected a boolean, got " ++ Text.quoted word))

/-- The columns that a text lists between commas, without the blank ones. -/
def columnsOf (text : String) : List String :=
  ((Text.splitChars ',' text.toList).map fun piece => String.ofList (Text.trimChars piece)).filter
    fun column => !column.isEmpty

/-- The calendar whose columns a variable lists. A list must not be empty. -/
def calendarOf (env : Environment) : Except Defect Calendar :=
  match env "PERIOD_IMPORTANCES" with
  | none => .ok .standard
  | some text =>
    match columnsOf text with
    | [] => .error (.unusable "PERIOD_IMPORTANCES" "must list at least one column")
    | columns => .ok ⟨columns⟩

/-- The token of the portal, which must not be blank. -/
def tokenOf (env : Environment) : Except Defect String :=
  match env "ENGAGE_TOKEN" with
  | some token => if Text.isBlankText token then .error (.missing "ENGAGE_TOKEN") else .ok token
  | none => .error (.missing "ENGAGE_TOKEN")

/-- The seconds a call may take: no limit if the variable says zero. -/
def timeoutOf (env : Environment) : Except Defect (Option UInt64) := do
  match ← number? env "ENGAGE_TIMEOUT_SECS" Text.readUInt64 with
  | some seconds => pure (if seconds = 0 then none else some seconds)
  | none => pure (some 30)

/-- The seconds between two signs of life, at least one. -/
def heartbeatOf (env : Environment) : Except Defect UInt64 := do
  match ← number? env "JOB_HEARTBEAT_SECS" Text.readUInt64 with
  | some seconds =>
    if seconds = 0 then throw (.unusable "JOB_HEARTBEAT_SECS" "must be at least 1")
    else pure seconds
  | none => pure 5

def ofEnvironment (env : Environment) : Except Defect Settings := do
  let token ← tokenOf env
  let baseUrl := (env "ENGAGE_BASE_URL").getD Portal.Settings.schoolUrl
  let timeoutSeconds ← timeoutOf env
  let pacing ← number? env "SYNC_PACING_MS" Text.readUInt64
  let studentFallback ← flag? env "SYNC_STUDENT_FALLBACK"
  let markFallback ← flag? env "SYNC_MARK_FALLBACK"
  let currentAcademicYear ← number? env "CURRENT_ACADEMIC_YEAR" Text.readInt32
  let calendar ← calendarOf env
  let heartbeat ← heartbeatOf env
  pure {
    databaseUrl := (env "DATABASE_URL").getD "sqlite://scholar.db"
    portal := { baseUrl, token, timeoutSeconds }
    pacing := pacing.getD 2000
    studentFallback := studentFallback.getD true
    markFallback := markFallback.getD true
    currentAcademicYear
    calendar
    heartbeat
    retention := 1024
    logFilter := (env "RUST_LOG").getD "info" }

/-- The settings of the services in an academic year. -/
def forServices (s : Settings) (thisYear : Year) : Sync.Settings where
  studentFallback := s.studentFallback
  markFallback := s.markFallback
  currentAcademicYear := s.currentAcademicYear.getD thisYear
  calendar := s.calendar

end Settings

end Gradebook.Command
