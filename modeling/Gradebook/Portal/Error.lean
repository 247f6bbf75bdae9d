import Gradebook.Marksheet.Place

/-! Why the portal could not be read. A pupil without data, an error answer with or without a body that
tells more, a broken exchange, an answer that makes no sense, and marksheets that do not hold what was
looked for. Only kind and message leave this part of the library. -/

namespace Gradebook.Portal

inductive Error where
  | noData (pid : String)
  | reported (kind : Fault.Kind) (status : Nat) (message stackTrace exceptionType : String)
  | refused (kind : Fault.Kind) (status : Nat) (detail : String)
  | transport (reason : String)
  | undecodable (reason : String)
  | badSettings (reason : String)
  | marksheet (error : Marksheet.Error)
  | cancelled
  deriving DecidableEq, Repr

namespace Error

def message : Error → String
  | .noData pid => "engage: invalid PID: " ++ pid
  | .reported _ _ message stackTrace exceptionType =>
    "engage: " ++ message ++ ", stack trace: " ++ stackTrace ++ ", exception type: "
      ++ exceptionType
  | .refused _ status detail => "engage: HTTP " ++ toString status ++ ": " ++ detail
  | .transport reason => "HTTP error: " ++ reason
  | .undecodable reason => "Failed to parse response: " ++ reason
  | .badSettings reason => "Invalid configuration: " ++ reason
  | .marksheet error => error.message
  | .cancelled => "engage: operation cancelled"

def kind : Error → Fault.Kind
  | .noData _ => .notFound
  | .reported kind _ _ _ _ => kind
  | .refused kind _ _ => kind
  | .transport _ => .internal
  | .undecodable _ => .internal
  | .badSettings _ => .invalid
  | .marksheet error => error.kind
  | .cancelled => .internal

def isNotFound (e : Error) : Bool := e.kind == .notFound

def fault (e : Error) : Fault := ⟨e.kind, e.message⟩

def status? : Error → Option Nat
  | .reported _ status _ _ _ => some status
  | .refused _ status _ => some status
  | _ => none

end Error

end Gradebook.Portal
