import Gradebook.Json.Printer
import Gradebook.Json.Reader
import Gradebook.Json.Tagged
import Gradebook.Portal.Envelope

/-! The portal over HTTP. Each call is one request with a bearer token and a JSON body. A success without
entries means that the portal does not know the pupil; an error status is kept with whatever its body
tells. What the network does is a function from requests to replies, so that the client itself is
plain data and computation. -/

namespace Gradebook.Portal

structure Settings where
  baseUrl : String
  token : String
  timeoutSeconds : Option UInt64 := some 30
  deriving DecidableEq, Repr

namespace Settings

/-- The portal of the school. -/
def schoolUrl : String :=
  "https://cambridgeschoolportal.engagehosted.com/Services/ReportCommentServices.asmx"

/-- The settings as text, without the token. -/
def shown (s : Settings) : String :=
  "EngageConfig \x7b base_url: " ++ Text.quoted s.baseUrl ++ ", token: \"[REDACTED]\", timeout: "
    ++ (match s.timeoutSeconds with
      | some seconds => "Some(" ++ toString seconds.toNat ++ "s)"
      | none => "None")
    ++ " \x7d"

end Settings

structure Request where
  url : String
  authorization : String
  body : Json

namespace Request

/-- Whether a header may hold the text: no control characters but the tab. -/
def isHeaderText (s : String) : Bool :=
  s.toList.all fun c => c = '\t' || (decide (0x20 ≤ c.toNat) && c.toNat != 0x7F)

end Request

/-- What comes of a request: an answer with status and body, or none for some reason. -/
inductive Reply where
  | answered (status : Nat) (body : String)
  | lost (reason : String)
  deriving DecidableEq, Repr

/-- What the network does with a request, given the calls made before. -/
abbrev Network := List Call → Request → Reply

/-- A network on which nothing is reached. -/
def Network.unreachable : Network := fun _ _ => .lost "error sending request"

/-- A client of the portal. The base URL ends without a slash. -/
structure Client where
  baseUrl : String
  token : String
  deriving DecidableEq, Repr

namespace Client

def withoutTrailingSlashes (url : String) : String :=
  String.ofList (url.toList.reverse.dropWhile (· = '/')).reverse

/-- A client with these settings, which must have a token. -/
def ofSettings (s : Settings) : Except Error Client :=
  if s.token.isEmpty then .error (.badSettings "engage token must not be empty")
  else .ok ⟨withoutTrailingSlashes s.baseUrl, s.token⟩

/-- The name of the portal's service that answers a call. -/
def endpoint : Call → String
  | .academicYears _ => "GetMarksheetAcademicYears"
  | .reportingPeriods _ _ => "GetReportingPeriods"
  | .reportingSubjects _ _ _ => "GetPupilMarksheetSubjects"
  | .columnsForSubjects _ _ _ _ => "GetColumnsForSubjects"
  | .marksheet _ _ => "RenderPupilMarksheet"

def bodyOf : Call → Json
  | .academicYears pid => (Question.forPupil pid).toJson
  | .reportingPeriods pid years => ((Question.forPupil pid).ofYears years).toJson
  | .reportingSubjects pid years periods =>
    (((Question.forPupil pid).ofYears years).ofPeriods periods).toJson
  | .columnsForSubjects pid years periods subjects =>
    ((((Question.forPupil pid).ofYears years).ofPeriods periods).ofSubjects subjects).toJson
  | .marksheet pid query => query.toJson pid

def request (c : Client) (call : Call) : Request :=
  ⟨c.baseUrl ++ "/" ++ endpoint call, "Bearer " ++ c.token, bodyOf call⟩

def isSuccess (status : Nat) : Bool := decide (200 ≤ status) && decide (status < 300)

/-- The error that an answer with an error status stands for. -/
def errorOf (status : Nat) (body : String) : Error :=
  let kind := Fault.Kind.ofStatus status
  if body.isEmpty then .refused kind status "error body empty"
  else
    match Json.decodeText Json.parse? ErrorBody.ofJson body with
    | .ok told => .reported kind status told.message told.stackTrace told.exceptionType
    | .error _ => .refused kind status "couldnt decode error body"

/-- The entries of a reply. An answer without entries is how the portal says that it does not know the
pupil. -/
def entriesOf {α : Type} (entry : Json → Except Json.Flaw α) (pid : PupilId) :
    Reply → Except Error (List α)
  | .lost reason => .error (.transport reason)
  | .answered status body =>
    if isSuccess status then
      match Json.decodeText Json.parse? (envelopeOfJson entry) body with
      | .ok [] => .error (.noData pid.text)
      | .ok entries => .ok entries
      | .error flaw => .error (.undecodable ("Failed to parse response: " ++ flaw.message))
    else .error (errorOf status body)

/-- The academic year that an entry names. -/
def yearOf (item : Item) : Except Error Year :=
  match Text.readInt32 (Text.trim item.value) with
  | .ok year => .ok year
  | .error flaw =>
    .error (.undecodable
      ("invalid academic year " ++ Text.quoted item.value ++ ": " ++ flaw.message))

/-- Sends the request for a call. A token that no header may hold is not sent at all. -/
def send (c : Client) (network : Network) (earlier : List Call) (call : Call) : Reply :=
  let request := c.request call
  if Request.isHeaderText request.authorization then network earlier request
  else .lost "builder error"

def items (c : Client) (network : Network) (earlier : List Call) (call : Call) :
    Except Error (List Item) :=
  entriesOf Item.ofJson call.pid (c.send network earlier call)

/-- The portal as this client sees it over a network. -/
def responder (c : Client) (network : Network) : Responder where
  academicYears earlier pid := do
    (← c.items network earlier (.academicYears pid)).mapM yearOf
  reportingPeriods earlier pid years := do
    pure ((← c.items network earlier (.reportingPeriods pid years)).map (·.value))
  reportingSubjects earlier pid years periods := do
    pure ((← c.items network earlier (.reportingSubjects pid years periods)).map fun item =>
      { code := item.value, name := item.text })
  columnsForSubjects earlier pid years periods subjects := do
    pure ((← c.items network earlier (.columnsForSubjects pid years periods subjects)).map (·.value))
  marksheet earlier pid query := do
    pure (String.join
      (← entriesOf Json.toText pid (c.send network earlier (.marksheet pid query))))

end Client

/-- Waits between two calls of the portal unless the work was cancelled, which is looked at first. -/
def pace (cancelled : Bool) : Except Error Unit := if cancelled then .error .cancelled else .ok ()

end Gradebook.Portal
